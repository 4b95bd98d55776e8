import TopInspect.SessionPaths

/-! Sessions under concurrency. A session is one row of the tokens table, and a
logout or a refresh of it writes by the token value it has read. When another
request changes that value in between, the write matches no row and is still
answered with success. -/
namespace TopInspect.SessionRaces

open Resumption AuthSchema AuthStatements AuthHandlers AUTH_CONFIG SessionPaths Live RowTable
open Interleaving hiding Entry State Action Task

def ofSession : Request → Bool
  | .refreshTokens _ => true
  | .logout _ => true
  | _ => false

def arrival : Action → Option Request
  | .arrive request _ => some request
  | .advance _ _ => none

def SessionsArrive (action : Action) : Prop := ∀ request ∈ arrival action, ofSession request = true

instance : DecidablePred SessionsArrive := fun action =>
  inferInstanceAs (Decidable (∀ request ∈ arrival action, ofSession request = true))

def readSession (event : Step) : Option String :=
  match event.query with
  | .selectToken token => (event.before.findToken token).map Token.id
  | _ => none

/-- The session a task acts on: that of its first read. -/
def sessionOf (trace : List Entry) (index : Nat) : Option String :=
  (history index trace).head?.bind readSession

theorem session_cons (entry : Entry) (trace : List Entry) (index : Nat)
    (begun : history index trace ≠ []) :
    sessionOf (entry :: trace) index = sessionOf trace index := by
  by_cases own : entry.task = index
  · subst own
    unfold sessionOf
    rw [history_cons_own, List.head?_append_of_ne_nil _ begun]
  · unfold sessionOf
    rw [history_cons_other index entry trace own]

theorem begun_of_mem (trace : List Entry) (entry : Entry) (member : entry ∈ trace) :
    history entry.task trace ≠ [] := by
  have known := (mem_history entry.task trace entry.toEvent).mpr ⟨entry, member, rfl, rfl⟩
  exact List.ne_nil_of_mem known

theorem read_session (token : String) (select : Step) (row : Token)
    (found : Found token select row) :
    readSession select = some row.id := by
  unfold readSession
  rw [found.query]
  simp [found.row]

section Statements
variable (env : Env)

/-- Where a session request stands, by the statement it awaits. -/
inductive Stands : Request → List Step → Statement → Prop where
  | refresh (body : RefreshTokensRequest) (past : List Step) (statement : Statement)
      (awaits : RefreshAwaits body.refreshToken past statement) :
      Stands (.refreshTokens body) past statement
  | logout (body : LogoutRequest) (past : List Step) (statement : Statement)
      (awaits : LogoutAwaits body.refreshToken past statement) :
      Stands (.logout body) past statement

theorem session_stands (state : State) (coherent : (server env).Coherent state) (index : Nat)
    (task : Task) (present : state.tasks[index]? = some task)
    (session : ofSession task.request = true) (statement : Statement)
    (awaits : task.residual.awaiting = some statement) :
    Stands task.request (history index state.trace) statement := by
  obtain ⟨tick, follows⟩ := coherent.follows index task present
  cases request : task.request with
  | refreshTokens body =>
      rw [request] at follows
      obtain ⟨middle, follows, awaits⟩ := map_awaits perform (refreshTokens body) some tick _ _
        statement follows awaits
      rcases refresh_follows body tick _ middle follows with
        ⟨other, same, stands⟩ | ⟨error, rfl⟩ | ⟨error, status, code, rfl⟩ | ⟨_, _, rfl, -⟩
      · obtain rfl := Option.some.inj (awaits.symm.trans same)
        exact .refresh body _ statement stands
      all_goals simp [Residual.awaiting] at awaits
  | logout body =>
      rw [request] at follows
      obtain ⟨middle, follows, awaits⟩ := map_awaits perform (logout body) some tick _ _
        statement follows awaits
      rcases logout_follows body tick _ middle follows with
        ⟨other, same, stands⟩ | ⟨error, rfl⟩ | ⟨error, status, code, rfl⟩ | ⟨rfl, -⟩
      · obtain rfl := Option.some.inj (awaits.symm.trans same)
        exact .logout body _ statement stands
      all_goals simp [Residual.awaiting] at awaits
  | requestOTP body => simp [request, ofSession] at session
  | phoneSignup body => simp [request, ofSession] at session
  | phoneSignIn body => simp [request, ofSession] at session
  | oauthSignIn provider body => simp [request, ofSession] at session
  | oauthSignup body => simp [request, ofSession] at session
  | background job => simp [request, ofSession] at session

inductive TokenStatement : Statement → Prop where
  | read (statement : Statement)
      (reads : ∀ tick rows, tokensAfter tick statement rows = rows) : TokenStatement statement
  | rotate (token newToken : String) (expiresAt lastUsedAt : Time) :
      TokenStatement (.rotateToken token newToken expiresAt lastUsedAt)
  | revoke (token : String) (revokedAt : Time) : TokenStatement (.revokeToken token revokedAt)

theorem stands_statement (request : Request) (past : List Step) (statement : Statement)
    (stands : Stands request past statement) :
    TokenStatement statement ∧ ∀ job, statement ≠ .waitUntil job := by
  cases stands with
  | refresh body past statement awaits =>
      cases awaits with
      | read => exact ⟨.read _ fun _ _ => rfl, by simp⟩
      | owner select row found usable => exact ⟨.read _ fun _ _ => rfl, by simp⟩
      | rotate select owner row found usable cooled => exact ⟨.rotate _ _ _ _, by simp⟩
  | logout body past statement awaits =>
      cases awaits with
      | read => exact ⟨.read _ fun _ _ => rfl, by simp⟩
      | revoke select row found live => exact ⟨.revoke _ _, by simp⟩

/-- In a run where only sessions arrive, every task is of a session. -/
def AllSessions (state : State) : Prop :=
  (server env).Coherent state ∧ ∀ task ∈ state.tasks, ofSession task.request = true

theorem sessions_step (state : State) (action : Action) (sessions : AllSessions env state)
    (arrives : SessionsArrive action) : AllSessions env ((server env).step state action) := by
  refine ⟨Machine.coherent_step state action sessions.1, ?_⟩
  have transition := (server env).step_transition state action
  generalize (server env).step state action = after at transition ⊢
  cases transition with
  | idle => exact sessions.2
  | arrived request tick external =>
      intro task member
      rcases List.mem_append.mp member with old | new
      · exact sessions.2 task old
      · rw [List.mem_singleton.mp new]
        exact arrives request rfl
  | answered index tick task query resume present awaits ready =>
      intro other member
      obtain ⟨place, found⟩ := List.getElem?_of_mem member
      have own := sessions.2 task (List.mem_of_getElem? present)
      rcases (server env).answer_tasks state index task query resume tick present place other
        found with
        ⟨-, rfl⟩ | ⟨-, old⟩ | ⟨-, request, spawns, -⟩
      · exact own
      · exact sessions.2 other (List.mem_of_getElem? old)
      · have stands := session_stands env state sessions.1 index task present own query
          (by rw [awaits]; rfl)
        have nothing := (stands_statement _ _ _ stands).2
        cases query with
        | waitUntil job => exact absurd rfl (nothing job)
        | _ => exact absurd spawns List.not_mem_nil

theorem sessions_start (db : Db) : AllSessions env (start db) :=
  ⟨(server env).coherent_start db, by simp [start]⟩

theorem sessions_run (state : State) (schedule : List Action) (sessions : AllSessions env state)
    (arrives : (server env).Guarded (fun _ action => SessionsArrive action) state schedule) :
    AllSessions env ((server env).run state schedule) :=
  (server env).guarded_run (fun _ action => SessionsArrive action) (AllSessions env)
    (sessions_step env) state schedule sessions arrives

end Statements

section Logout
variable (env : Env)

def revokedToken : Statement → Option String
  | .revokeToken token _ => some token
  | _ => none

/-- When a logout revokes, the row it has read still holds its token. -/
def RevokesHeld (state : State) (action : Action) : Prop :=
  ∀ entry ∈ (server env).upcoming state action, ∀ token ∈ revokedToken entry.query,
    (state.world.findToken token).map Token.id = sessionOf state.trace entry.task

instance (state : State) (action : Action) : Decidable (RevokesHeld env state action) :=
  inferInstanceAs (Decidable (∀ entry ∈ (server env).upcoming state action, _))

def LogoutGuard (state : State) (action : Action) : Prop :=
  SessionsArrive action ∧ RevokesHeld env state action

instance (state : State) (action : Action) : Decidable (LogoutGuard env state action) :=
  inferInstanceAs (Decidable (_ ∧ _))

def Revoked (session : String) (db : Db) : Prop :=
  ∀ row ∈ db.tokens.rows, row.id = session → row.revokedAt ≠ none

theorem revoked_statement (session : String) (tick : Tick) (statement : Statement) (db : Db)
    (acts : TokenStatement statement) (revoked : Revoked session db) :
    Revoked session (perform tick statement db).2 := by
  rcases perform_tokens tick statement db with same | same
  · intro row member
    exact revoked row (same ▸ member)
  · intro row member own
    rw [same] at member
    cases acts with
    | read statement reads =>
        rw [reads] at member
        exact revoked row member own
    | rotate token newToken expiresAt lastUsedAt =>
        obtain ⟨old, present, rfl⟩ := List.mem_map.mp member
        unfold Table.rewrite at own ⊢
        split at own <;> simp_all [Revoked]
    | revoke token revokedAt =>
        obtain ⟨old, present, rfl⟩ := List.mem_map.mp member
        unfold Table.rewrite at own ⊢
        split at own <;> simp_all [Revoked]

theorem revoke_revokes (session token : String) (revokedAt : Time) (tick : Tick) (db : Db)
    (held : (db.findToken token).map Token.id = some session) (count : Nat)
    (answered : (perform tick (.revokeToken token revokedAt) db).1 = .ok count) :
    Revoked session (perform tick (.revokeToken token revokedAt) db).2 := by
  obtain ⟨held, found, own⟩ := Option.map_eq_some_iff.mp held
  obtain ⟨present, same⟩ := (db.find_token_mem token held).mp found
  have rows := execute_tokens _ _ _ _ _ (perform_ok _ _ _ _ answered)
  intro row member identity
  rw [rows] at member
  obtain ⟨old, before, rfl⟩ := List.mem_map.mp member
  by_cases matched : old.token = token
  · simp [Table.rewrite, matched]
  · have equal : old = held := by
      refine db.token_id_inj old held before present ?_
      rw [own]
      simpa [Table.rewrite, matched] using identity
    exact absurd (equal ▸ same) matched

/-- Every answered logout has left its session revoked. -/
def LogoutsKept (world : Db) (trace : List Entry) : Prop :=
  ∀ entry ∈ trace, ∀ token ∈ revokedToken entry.query,
    (∃ count, (perform entry.tick entry.query entry.before).1 = .ok count) →
      ∀ session, sessionOf trace entry.task = some session → Revoked session world

theorem logouts_kept (state : State) (schedule : List Action) (sessions : AllSessions env state)
    (initial : LogoutsKept state.world state.trace)
    (guarded : (server env).Guarded (LogoutGuard env) state schedule) :
    LogoutsKept ((server env).run state schedule).world
      ((server env).run state schedule).trace := by
  have strong := Machine.guarded_invariant (AllSessions env)
    (fun state action sessions allowed => sessions_step env state action sessions allowed.1)
    state schedule sessions guarded
  refine Machine.trace_invariant LogoutsKept ?_ state schedule sessions.1 initial strong
  intro state index tick task query resume coherent present awaits allowed kept
  obtain ⟨⟨-, held⟩, sessions⟩ := allowed
  have stands := session_stands env state coherent index task present
    (sessions.2 task (List.mem_of_getElem? present)) query (by rw [awaits]; rfl)
  obtain ⟨acts, -⟩ := stands_statement _ _ _ stands
  intro entry member token revokes answered session own
  rcases List.mem_cons.mp member with rfl | old
  · have still := held _ (Machine.upcoming_answered (server env) state index tick task query resume
      present awaits rfl) token revokes
    -- Before it revokes, the log-out has read, so its session is known by then.
    have begun : history index state.trace ≠ [] := by
      generalize history index state.trace = past at stands
      generalize task.request = request at stands
      rintro rfl
      cases stands with
      | refresh body past statement awaits => cases awaits; simp [revokedToken] at revokes
      | logout body past statement awaits => cases awaits; simp [revokedToken] at revokes
    rw [session_cons (entryOf state index tick task query) state.trace index begun] at own
    cases query with
    | revokeToken other revokedAt =>
        obtain rfl : other = token := by simpa [revokedToken] using revokes
        obtain ⟨count, answered⟩ := answered
        exact revoke_revokes session other revokedAt tick state.world (still.trans own) count
          answered
    | _ => simp [revokedToken] at revokes
  · rw [session_cons _ state.trace entry.task (begun_of_mem state.trace entry old)] at own
    exact revoked_statement session tick query state.world acts
      (kept entry old token revokes answered session own)

/-- Reads of tasks that came after a point find the session revoked. -/
def ReadsRevoked (session : String) (tasks : Nat) (world : Db) (trace : List Entry) : Prop :=
  Revoked session world ∧ ∀ entry ∈ trace, tasks ≤ entry.task → Revoked session entry.before

theorem reads_revoked (session : String) (tasks : Nat) (state : State) (schedule : List Action)
    (sessions : AllSessions env state)
    (initial : ReadsRevoked session tasks state.world state.trace)
    (guarded : (server env).Guarded (LogoutGuard env) state schedule) :
    ReadsRevoked session tasks ((server env).run state schedule).world
      ((server env).run state schedule).trace := by
  have strong := Machine.guarded_invariant (AllSessions env)
    (fun state action sessions allowed => sessions_step env state action sessions allowed.1)
    state schedule sessions guarded
  refine Machine.trace_invariant (ReadsRevoked session tasks) ?_ state schedule sessions.1 initial
    strong
  intro state index tick task query resume coherent present awaits allowed revoked
  have stands := session_stands env state coherent index task present
    (allowed.2.2 task (List.mem_of_getElem? present)) query (by rw [awaits]; rfl)
  obtain ⟨acts, -⟩ := stands_statement _ _ _ stands
  refine ⟨revoked_statement session tick query state.world acts revoked.1, ?_⟩
  intro entry member late
  rcases List.mem_cons.mp member with rfl | old
  · exact revoked.1
  · exact revoked.2 entry old late

theorem replied_logout (state : State) (coherent : (server env).Coherent state) (index : Nat)
    (body : LogoutRequest)
    (replied : Replied state index (.logout body) (res.ok (.message "Logged out"))) :
    LoggedOut body.refreshToken (history index state.trace) := by
  obtain ⟨task, present, request, settled⟩ := replied
  obtain ⟨tick, follows⟩ := coherent.follows index task present
  rw [request, settled] at follows
  obtain ⟨response, follows, same⟩ := map_done perform (logout body) some tick _ _ follows
  obtain rfl := Option.some.inj same
  rcases logout_follows body tick _ _ follows with
    ⟨statement, awaits, -⟩ | ⟨error, thrown⟩ | ⟨error, status, code, refused⟩ | ⟨-, done⟩
  · simp [Residual.awaiting] at awaits
  · cases thrown
  · simp [res.ok, res.err] at refused
  · exact done

theorem replied_refresh (state : State) (coherent : (server env).Coherent state) (index : Nat)
    (body : RefreshTokensRequest) (response : Response) (accessToken : AccessToken)
    (newToken : String) (replied : Replied state index (.refreshTokens body) response)
    (tokens : response.body = .tokens accessToken newToken) :
    Refreshed body.refreshToken newToken accessToken.sub (history index state.trace) := by
  obtain ⟨task, present, request, settled⟩ := replied
  obtain ⟨tick, follows⟩ := coherent.follows index task present
  rw [request, settled] at follows
  obtain ⟨answer, follows, same⟩ := map_done perform (refreshTokens body) some tick _ _ follows
  obtain rfl := Option.some.inj same
  rcases refresh_follows body tick _ _ follows with
    ⟨statement, awaits, -⟩ | ⟨error, thrown⟩ | ⟨error, status, code, refused⟩ |
      ⟨access, token, equal, done⟩
  · simp [Residual.awaiting] at awaits
  · cases thrown
  · obtain rfl := Residual.done.inj refused
    cases tokens
  · obtain rfl := Residual.done.inj equal
    cases tokens
    exact done

/-- Once a logout of a session has answered, no refresh started later succeeds
on the session. -/
def LogoutFinal (answered final : State) : Prop :=
  ∀ out again body body' session accessToken newToken,
    Replied answered out (.logout body) (res.ok (.message "Logged out")) →
    sessionOf answered.trace out = some session → answered.tasks.length ≤ again →
    Replied final again (.refreshTokens body') (res.ok (.tokens accessToken newToken)) →
    sessionOf final.trace again ≠ some session

theorem logout_final (db : Db) (before after : List Action)
    (guarded : (server env).Guarded (LogoutGuard env) (start db) (before ++ after)) :
    LogoutFinal ((server env).run (start db) before)
      ((server env).run (start db) (before ++ after)) := by
  intro out again body body' session accessToken newToken logged acts later refreshed
  obtain ⟨first, second⟩ := (Machine.guarded_append _ before after).mp guarded
  rw [Machine.run_append] at refreshed ⊢
  have sessions := sessions_run env (start db) before (sessions_start env db) (by
    exact Machine.guarded_mono (fun _ _ allowed => allowed.1) _ _ first)
  have kept := logouts_kept env (start db) before (sessions_start env db)
    (by simp [LogoutsKept, start]) first
  generalize (server env).run (start db) before = middle at *
  -- The log-out has been answered, so its update has found and revoked the row.
  have revoked : Revoked session middle.world := by
    have past := replied_logout env middle sessions.1 out body logged
    generalize same : history out middle.trace = steps at past
    cases past with
    | revoked select revoke row found live query answered =>
        have known : revoke ∈ history out middle.trace := by simp [same]
        obtain ⟨entry, member, rfl, rfl⟩ := (mem_history out middle.trace revoke).mp known
        exact kept entry member body.refreshToken
          (by rw [show entry.query = entry.toEvent.query from rfl,
            query]; rfl) answered session acts
  have reads := reads_revoked env session middle.tasks.length middle after sessions
    ⟨revoked, fun entry member late => by
      obtain ⟨task, present, -⟩ := sessions.1.owner entry member
      have inside := (List.getElem?_eq_some_iff.mp present).1
      omega⟩ second
  have coherent := Machine.coherent_run middle after sessions.1
  have past := replied_refresh env _ coherent again body' _ accessToken newToken refreshed rfl
  generalize same : history again ((server env).run middle after).trace = steps at past
  cases past with
  | rotated select owner rotate row found usable cooled holder query answered =>
      have known : select ∈ history again ((server env).run middle after).trace := by simp [same]
      obtain ⟨entry, member, own, rfl⟩ := (mem_history again _ select).mp known
      obtain ⟨present, -⟩ := (entry.before.find_token_mem _ row).mp found.row
      -- The rotation read its row after that, and no revoked row is usable.
      have stale := reads.2 entry member (own ▸ later) row present
      unfold sessionOf
      rw [same]
      simp only [List.head?_cons, Option.bind_some, read_session _ _ _ found, ne_eq,
        Option.some.injEq]
      exact fun identity => stale identity usable.1

end Logout

section Rotation
variable (env : Env) (db : Db)

def rotatedToken : Statement → Option String
  | .rotateToken token _ _ _ => some token
  | _ => none

def generatedToken : Statement → Option String
  | .rotateToken _ newToken _ _ => some newToken
  | _ => none

/-- The tokens of a run: those stored at its start and those generated in it. -/
def tokensOf (trace : List Entry) : List String :=
  db.tokens.rows.map Token.token ++ trace.filterMap fun entry => generatedToken entry.query

theorem distinct_suffix (short long : List Entry) (ends : short <:+ long)
    (distinct : (tokensOf db long).Nodup) : (tokensOf db short).Nodup :=
  distinct.sublist ((List.Sublist.refl _).append (ends.sublist.filterMap _))

/-- When a refresh rotates, the row it has read still holds its token. -/
def RotatesHeld (state : State) (action : Action) : Prop :=
  ∀ entry ∈ (server env).upcoming state action, ∀ token ∈ rotatedToken entry.query,
    (state.world.findToken token).map Token.id = sessionOf state.trace entry.task

instance (state : State) (action : Action) : Decidable (RotatesHeld env state action) :=
  inferInstanceAs (Decidable (∀ entry ∈ (server env).upcoming state action, _))

def RotationGuard (state : State) (action : Action) : Prop :=
  SessionsArrive action ∧ RotatesHeld env state action

instance (state : State) (action : Action) : Decidable (RotationGuard env state action) :=
  inferInstanceAs (Decidable (_ ∧ _))

def Rotates (token : String) (entry : Entry) : Prop :=
  token ∈ rotatedToken entry.query ∧
    ∃ count, (perform entry.tick entry.query entry.before).1 = .ok count

/-- Every stored token is a token of the run; a rotated one is gone for good, so
that it was rotated once. -/
structure Rotated (world : Db) (trace : List Entry) : Prop where
  known : ∀ row ∈ world.tokens.rows, row.token ∈ tokensOf db trace
  spent : ∀ entry ∈ trace, ∀ token, Rotates token entry →
    token ∈ tokensOf db trace ∧ world.findToken token = none
  once : ∀ first ∈ trace, ∀ second ∈ trace, ∀ token, Rotates token first → Rotates token second →
    first.task = second.task
  held : ∀ entry ∈ trace, ∀ token ∈ rotatedToken entry.query,
    (entry.before.findToken token).map Token.id = sessionOf trace entry.task

theorem find_token_none (world : Db) (token : String) :
    world.findToken token = none ↔ ∀ row ∈ world.tokens.rows, row.token ≠ token := by
  simp [Db.findToken, Table.find_none]

section Answered
variable (state : State) (index : Nat) (tick : Tick) (task : Task) (query : Statement)
  (distinct : (tokensOf db (entryOf state index tick task query :: state.trace)).Nodup)

theorem tokens_cons (entry : Entry) (trace : List Entry) (token : String) :
    token ∈ tokensOf db (entry :: trace) ↔
      token ∈ tokensOf db trace ∨ generatedToken entry.query = some token := by
  simp only [tokensOf, List.mem_append, List.filterMap_cons]
  cases generatedToken entry.query with
  | none => simp
  | some other =>
      simp only [List.mem_cons, Option.some.injEq]
      tauto

include distinct in
theorem generated_fresh (token : String) (generates : generatedToken query = some token) :
    token ∉ tokensOf db state.trace := by
  intro old
  simp only [tokensOf, List.filterMap_cons, generates] at distinct
  have apart := (List.nodup_middle.mp distinct)
  exact (List.nodup_cons.mp apart).1 old

theorem rows_after (acts : TokenStatement query) (row : Token)
    (member : row ∈ (perform tick query state.world).2.tokens.rows) :
    (∃ old ∈ state.world.tokens.rows, old.token = row.token) ∨
      generatedToken query = some row.token := by
  rcases perform_tokens tick query state.world with same | same
  · exact Or.inl ⟨row, same ▸ member, rfl⟩
  · rw [same] at member
    cases acts with
    | read statement reads =>
        rw [reads] at member
        exact Or.inl ⟨row, member, rfl⟩
    | rotate token newToken expiresAt lastUsedAt =>
        obtain ⟨old, present, rfl⟩ := List.mem_map.mp member
        unfold Table.rewrite
        split
        · exact Or.inr rfl
        · exact Or.inl ⟨old, present, rfl⟩
    | revoke token revokedAt =>
        obtain ⟨old, present, rfl⟩ := List.mem_map.mp member
        refine Or.inl ⟨old, present, ?_⟩
        unfold Table.rewrite
        split <;> rfl

include distinct in
theorem absent_after (acts : TokenStatement query) (token : String)
    (known : token ∈ tokensOf db state.trace) (absent : state.world.findToken token = none) :
    (perform tick query state.world).2.findToken token = none := by
  rw [find_token_none] at absent ⊢
  intro row member same
  rcases rows_after state tick query acts row member with ⟨old, present, equal⟩ | generates
  · exact absent old present (equal.trans same)
  · exact generated_fresh db state index tick task query distinct token (same ▸ generates) known

theorem rotation_absent (token newToken : String) (expiresAt lastUsedAt : Time)
    (apart : newToken ≠ token) (count : Nat)
    (answered : (perform tick (.rotateToken token newToken expiresAt lastUsedAt) state.world).1 =
      .ok count) :
    (perform tick (.rotateToken token newToken expiresAt lastUsedAt) state.world).2.findToken
      token = none := by
  rw [find_token_none]
  intro row member
  rw [execute_tokens _ _ _ _ _ (perform_ok _ _ _ _ answered)] at member
  obtain ⟨old, -, rfl⟩ := List.mem_map.mp member
  unfold Table.rewrite
  split
  · exact apart
  · next other => simpa using other

end Answered

theorem rotated_answered (state : State) (index : Nat) (tick : Tick) (task : Task)
    (query : Statement) (acts : TokenStatement query)
    (begun : ∀ token ∈ rotatedToken query, history index state.trace ≠ [] ∧
      sessionOf state.trace index ≠ none)
    (held : ∀ token ∈ rotatedToken query,
      (state.world.findToken token).map Token.id = sessionOf state.trace index)
    (distinct : (tokensOf db (entryOf state index tick task query :: state.trace)).Nodup)
    (rotated : Rotated db state.world state.trace) :
    Rotated db (perform tick query state.world).2
      (entryOf state index tick task query :: state.trace) := by
  -- A rotation finds its token stored, so the token is one of the run.
  have stored : ∀ token ∈ rotatedToken query, ∃ row ∈ state.world.tokens.rows,
      row.token = token := by
    intro token rotates
    obtain ⟨session, own⟩ := Option.ne_none_iff_exists'.mp (begun token rotates).2
    obtain ⟨row, found, -⟩ := Option.map_eq_some_iff.mp ((held token rotates).trans own)
    exact ⟨row, (state.world.find_token_mem token row).mp found⟩
  have runs : ∀ token ∈ rotatedToken query, token ∈ tokensOf db state.trace := by
    intro token rotates
    obtain ⟨row, member, rfl⟩ := stored token rotates
    exact rotated.known row member
  have unspent : ∀ token, Rotates token (entryOf state index tick task query) →
      ∀ entry ∈ state.trace, ¬ Rotates token entry := by
    intro token here entry member there
    obtain ⟨row, present, same⟩ := stored token here.1
    exact (find_token_none state.world token).mp (rotated.spent entry member token there).2 row
      present same
  refine ⟨?_, ?_, ?_, ?_⟩
  · intro row member
    rw [tokens_cons]
    rcases rows_after state tick query acts row member with ⟨old, present, same⟩ | generates
    · exact Or.inl (same ▸ rotated.known old present)
    · exact Or.inr generates
  · intro entry member token rotates
    rw [tokens_cons]
    rcases List.mem_cons.mp member with rfl | old
    · have known := runs token rotates.1
      refine ⟨Or.inl known, ?_⟩
      obtain ⟨matched, count, answered⟩ := rotates
      cases query with
      | rotateToken other newToken expiresAt lastUsedAt =>
          obtain rfl : other = token := by simpa [rotatedToken] using matched
          refine rotation_absent state tick other newToken expiresAt lastUsedAt ?_ count answered
          rintro rfl
          exact generated_fresh db state index tick task _ distinct newToken rfl known
      | _ => simp [rotatedToken] at matched
    · obtain ⟨known, absent⟩ := rotated.spent entry old token rotates
      exact ⟨Or.inl known, absent_after db state index tick task query distinct acts token
        known absent⟩
  · intro first left second right token one two
    rcases List.mem_cons.mp left with rfl | left <;> rcases List.mem_cons.mp right with rfl | right
    · rfl
    · exact absurd two (unspent token one second right)
    · exact absurd one (unspent token two first left)
    · exact rotated.once first left second right token one two
  · intro entry member token rotates
    rcases List.mem_cons.mp member with rfl | old
    · rw [session_cons (entryOf state index tick task query) state.trace index
        (begun token rotates).1]
      exact held token rotates
    · rw [session_cons _ state.trace entry.task (begun_of_mem state.trace entry old)]
      exact rotated.held entry old token rotates

theorem rotated_run (schedule : List Action)
    (distinct : (tokensOf db ((server env).run (start db) schedule).trace).Nodup)
    (guarded : (server env).Guarded (RotationGuard env) (start db) schedule) :
    Rotated db ((server env).run (start db) schedule).world
      ((server env).run (start db) schedule).trace := by
  have fresh := Machine.guarded_trace (fun trace => (tokensOf db trace).Nodup)
    (distinct_suffix db) (start db) schedule distinct guarded
  have strong := Machine.guarded_invariant (AllSessions env)
    (fun state action sessions allowed => sessions_step env state action sessions allowed.1.1)
    (start db) schedule (sessions_start env db) fresh
  refine Machine.trace_invariant (Rotated db) ?_ (start db) schedule
    ((server env).coherent_start db)
    ⟨fun row member => ?_, by simp [start], by simp [start], by simp [start]⟩ strong
  · intro state index tick task query resume coherent present awaits allowed rotated
    obtain ⟨⟨⟨-, held⟩, distinct⟩, sessions⟩ := allowed
    have stands := session_stands env state coherent index task present
      (sessions.2 task (List.mem_of_getElem? present)) query (by rw [awaits]; rfl)
    have answers : (server env).step state (.advance index tick) =
        (server env).answer state index task query resume tick := by
      simp [Machine.step, present, awaits, server]
    rw [answers] at distinct
    refine rotated_answered db state index tick task query (stands_statement _ _ _ stands).1 ?_ ?_
      distinct rotated
    · intro token rotates
      unfold sessionOf
      generalize history index state.trace = past at stands
      generalize task.request = request at stands
      cases stands with
      | refresh body past statement awaits =>
          cases awaits with
          | rotate select owner row found usable cooled => simp [read_session _ _ _ found]
          | _ => simp [rotatedToken] at rotates
      | logout body past statement awaits => cases awaits <;> simp [rotatedToken] at rotates
    · exact held _ (Machine.upcoming_answered (server env) state index tick task query
        resume present awaits rfl)
  · exact List.mem_append_left _ (List.mem_map_of_mem member)

/-- At most one refresh with a given token succeeds, and the token it returns is
the one it stored in the row of its session. -/
structure RotatedOnce (state : State) : Prop where
  once : ∀ first second body body' access newToken access' newToken',
    Replied state first (.refreshTokens body) (res.ok (.tokens access newToken)) →
    Replied state second (.refreshTokens body') (res.ok (.tokens access' newToken')) →
    body.refreshToken = body'.refreshToken → first = second
  stored : ∀ index body access newToken,
    Replied state index (.refreshTokens body) (res.ok (.tokens access newToken)) →
    ∃ entry ∈ state.trace, entry.task = index ∧ body.refreshToken ∈ rotatedToken entry.query ∧
      ∃ row ∈ (perform entry.tick entry.query entry.before).2.tokens.rows,
        some row.id = sessionOf state.trace index ∧ row.token = newToken

theorem replied_rotates (state : State) (coherent : (server env).Coherent state) (index : Nat)
    (body : RefreshTokensRequest) (access : AccessToken) (newToken : String)
    (replied : Replied state index (.refreshTokens body) (res.ok (.tokens access newToken))) :
    ∃ entry ∈ state.trace, entry.task = index ∧ Rotates body.refreshToken entry ∧
      generatedToken entry.query = some newToken ∧ sessionOf state.trace index ≠ none := by
  have past := replied_refresh env state coherent index body _ access newToken replied rfl
  generalize same : history index state.trace = steps at past
  cases past with
  | rotated select owner rotate row found usable cooled holder query answered =>
      have known : rotate ∈ history index state.trace := by simp [same]
      obtain ⟨entry, member, own, rfl⟩ := (mem_history index _ rotate).mp known
      have asked : entry.query = _ := query
      refine ⟨entry, member, own, ⟨by rw [asked]; rfl, answered⟩, by rw [asked]; rfl, ?_⟩
      unfold sessionOf
      rw [same]
      simp [read_session _ _ _ found]

theorem rotated_once (schedule : List Action)
    (distinct : (tokensOf db ((server env).run (start db) schedule).trace).Nodup)
    (guarded : (server env).Guarded (RotationGuard env) (start db) schedule) :
    RotatedOnce ((server env).run (start db) schedule) := by
  have rotated := rotated_run env db schedule distinct guarded
  have coherent := Machine.coherent_run (start db) schedule
    ((server env).coherent_start db)
  generalize (server env).run (start db) schedule = final at *
  -- Two answers for one token come from one rotation, and the rotation has found the row.
  refine ⟨?_, ?_⟩
  · intro first second body body' access newToken access' newToken' one two same
    obtain ⟨left, member, rfl, rotates, -⟩ :=
      replied_rotates env final coherent first body access newToken one
    obtain ⟨right, member', rfl, rotates', -⟩ :=
      replied_rotates env final coherent second body' access' newToken' two
    exact rotated.once left member right member' body.refreshToken rotates (same ▸ rotates')
  · intro index body access newToken replied
    obtain ⟨entry, member, rfl, ⟨matched, count, answered⟩, generates, begun⟩ :=
      replied_rotates env final coherent index body access newToken replied
    refine ⟨entry, member, rfl, matched, ?_⟩
    obtain ⟨session, own⟩ := Option.ne_none_iff_exists'.mp begun
    have held := rotated.held entry member body.refreshToken matched
    obtain ⟨row, found, identity⟩ := Option.map_eq_some_iff.mp (held.trans own)
    obtain ⟨present, same⟩ := (entry.before.find_token_mem _ row).mp found
    rw [execute_tokens _ _ _ _ _ (perform_ok _ _ _ _ answered)]
    cases query : entry.query with
    | rotateToken token other expiresAt lastUsedAt =>
        rw [query] at matched generates
        obtain rfl : token = body.refreshToken := by simpa [rotatedToken] using matched
        obtain rfl : other = newToken := by simpa [generatedToken] using generates
        refine ⟨_, List.mem_map_of_mem present, ?_, ?_⟩
        · simp [Table.rewrite, same, identity, own]
        · simp [Table.rewrite, same]
    | _ => simp [query, rotatedToken] at matched

end Rotation

/-! One session whose token is used by two requests. -/
section Racing

def owner : Auth := { id := "owner", provider := .phone, identifier := "2125550123", email := none }

def tokenA : String := "tz4a98xxat96iws9zmbrgj3a"
def tokenB : String := "b0000000000000000000000b"
def tokenC : String := "c0000000000000000000000c"

def device : Token :=
  { id := "device", authId := "owner", token := tokenA, deviceInfo := none,
    expiresAt := days 30, revokedAt := none, lastUsedAt := 0 }

def oneSession : Db where
  auth := { rows := [owner], distinct := List.pairwise_singleton _ _ }
  users := Table.empty
  otps := Table.empty
  tokens := { rows := [device], distinct := List.pairwise_singleton _ _ }
  users_auth := by simp [Table.empty]
  tokens_auth := by simp [owner, device]

def refreshWith (token : String) : Request := .refreshTokens { refreshToken := token }
def logoutWith (token : String) : Request := .logout { refreshToken := token }

def at10 (draw : String) : Tick := tickAt (minutes 10) draw
def at20 (draw : String) : Tick := tickAt (minutes 20) draw

def logoutAlone : List Action :=
  [.arrive (logoutWith tokenA) (at10 ""), .advance 0 (at10 ""), .advance 0 (at10 "")]

def lateRefresh (index : Nat) (token : String) : List Action :=
  [.arrive (refreshWith token) (at20 ""), .advance index (at20 ""), .advance index (at20 tokenC),
    .advance index (at20 "")]

theorem logout_final_alone :
    LogoutFinal ((server sampleEnv).run (start oneSession) logoutAlone)
      ((server sampleEnv).run (start oneSession) (logoutAlone ++ lateRefresh 1 tokenA)) :=
  logout_final sampleEnv oneSession logoutAlone (lateRefresh 1 tokenA) (by decide)

-- The refresh of task 1 rotates between the read and the write of the logout.
def logoutRaced : List Action :=
  [.arrive (logoutWith tokenA) (at10 ""), .arrive (refreshWith tokenA) (at10 ""),
    .advance 0 (at10 ""), .advance 1 (at10 ""), .advance 1 (at10 tokenB), .advance 1 (at10 ""),
    .advance 0 (at10 "")]

def loggedOut : State := (server sampleEnv).run (start oneSession) logoutRaced

def refreshedAgain : State :=
  (server sampleEnv).run (start oneSession) (logoutRaced ++ lateRefresh 2 tokenB)

theorem logout_not_final : ¬ ∀ (env : Env) (db : Db) (before after : List Action),
    (∀ action ∈ before ++ after, SessionsArrive action) →
      LogoutFinal ((server env).run (start db) before)
        ((server env).run (start db) (before ++ after)) := by
  intro final
  have replied : Replied loggedOut 0 (logoutWith tokenA) (res.ok (.message "Logged out")) :=
    ⟨_, rfl, rfl, rfl⟩
  have succeeded : Replied refreshedAgain 2 (refreshWith tokenB)
      (res.ok (.tokens { sub := "owner", iat := 1200, exp := 3000 } tokenC)) := ⟨_, rfl, rfl, rfl⟩
  have refused := final sampleEnv oneSession logoutRaced (lateRefresh 2 tokenB) (by decide) 0 2 _ _
    "device" _ _ replied (by decide) (by decide) succeeded
  exact refused (by decide)

def refreshTwice : List Action :=
  [.arrive (refreshWith tokenA) (at10 ""), .advance 0 (at10 ""), .advance 0 (at10 tokenB),
    .advance 0 (at10 ""), .arrive (refreshWith tokenA) (at10 ""), .advance 1 (at10 "")]

theorem rotated_once_in_turn :
    RotatedOnce ((server sampleEnv).run (start oneSession) refreshTwice) :=
  rotated_once sampleEnv oneSession refreshTwice (by decide) (by decide)

-- Both refreshes have read the row when the first of them rotates it.
def refreshRaced : List Action :=
  [.arrive (refreshWith tokenA) (at10 ""), .arrive (refreshWith tokenA) (at10 ""),
    .advance 0 (at10 ""), .advance 0 (at10 tokenB), .advance 1 (at10 ""), .advance 1 (at10 tokenC),
    .advance 0 (at10 ""), .advance 1 (at10 "")]

def rotatedTwice : State := (server sampleEnv).run (start oneSession) refreshRaced

theorem rotation_raced : ¬ ∀ (env : Env) (db : Db) (schedule : List Action),
    (∀ action ∈ schedule, SessionsArrive action) →
    (tokensOf db ((server env).run (start db) schedule).trace).Nodup →
      RotatedOnce ((server env).run (start db) schedule) := by
  intro once
  have first : Replied rotatedTwice 0 (refreshWith tokenA)
      (res.ok (.tokens { sub := "owner", iat := 600, exp := 2400 } tokenB)) := ⟨_, rfl, rfl, rfl⟩
  have second : Replied rotatedTwice 1 (refreshWith tokenA)
      (res.ok (.tokens { sub := "owner", iat := 600, exp := 2400 } tokenC)) := ⟨_, rfl, rfl, rfl⟩
  have same := (once sampleEnv oneSession refreshRaced (by decide) (by decide)).once 0 1 _ _ _ _ _ _
    first second rfl
  exact absurd same (by decide)

end Racing
end TopInspect.SessionRaces
