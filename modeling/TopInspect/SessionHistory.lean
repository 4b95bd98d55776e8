import TopInspect.SessionServing

/-! Sessions over whole runs of requests served one after another. The tokens
table is compared with the history it stands for: which tokens were handed out
and when, and which of them are spent by now. -/
namespace TopInspect.SessionHistory

open Resumption AuthSchema AuthStatements AuthHandlers AUTH_CONFIG AuthExecution
open SessionPaths SessionServing RowTable
open Serial hiding Run Served State Turn

section Specification

def tokenOf : Body → Option String
  | .tokens _ refreshToken => some refreshToken
  | _ => none

theorem token_of_plain (body : Body) (plain : ∀ access token, body ≠ .tokens access token) :
    tokenOf body = none := by
  cases body with
  | tokens access token => exact absurd rfl (plain access token)
  | _ => rfl

/-- The refresh token that the answer to a request handed out. -/
def handedOut (record : Served) : Option String :=
  match record.result with
  | .ok (some response) => tokenOf response.body
  | _ => none

def succeeded (record : Served) : Bool :=
  match record.result with
  | .ok (some response) => response.status = 200
  | _ => false

/-- The refresh token that a refresh or a logout carries. -/
def presented : Request → Option String
  | .refreshTokens body => some body.refreshToken
  | .logout body => some body.refreshToken
  | _ => none

/-- The refresh token that a successful refresh or logout used up. -/
def spent (record : Served) : Option String :=
  if succeeded record then presented record.request else none

/-- The token was handed out at that time and not spent since. -/
def Live (served : List Served) (token : String) (issuedAt : Time) : Prop :=
  ∃ later issue earlier, served = later ++ issue :: earlier ∧ handedOut issue = some token ∧
    issue.tick.now = issuedAt ∧ ∀ record ∈ later, spent record ≠ some token

structure Lineage (env : Env) (record : Served) (earlier : List Served) : Prop where
  refresh : ∀ body, record.request = .refreshTokens body →
    (succeeded record = true ↔ ∃ issuedAt, Live earlier body.refreshToken issuedAt ∧
      record.tick.now ≤ issuedAt + days REFRESH_TOKEN_EXPIRY_DAYS ∧
      issuedAt + minutes REFRESH_COOLDOWN_MINUTES ≤ record.tick.now)
  logout : ∀ body, record.request = .logout body →
    (succeeded record = true ↔ ∃ issuedAt, Live earlier body.refreshToken issuedAt)
  refused : presented record.request ≠ none → succeeded record = false →
    (exec perform (handler env record.request) record.opening).2.world = record.before

theorem live_cons (record : Served) (served : List Served) (token : String) (issuedAt : Time) :
    Live (record :: served) token issuedAt ↔
      (handedOut record = some token ∧ record.tick.now = issuedAt) ∨
        (spent record ≠ some token ∧ Live served token issuedAt) := by
  constructor
  · rintro ⟨later, issue, earlier, split, issues, time, unspent⟩
    cases later with
    | nil =>
        obtain ⟨rfl, rfl⟩ := List.cons.inj split
        exact Or.inl ⟨issues, time⟩
    | cons first rest =>
        obtain ⟨rfl, rfl⟩ := List.cons.inj split
        obtain ⟨own, others⟩ := List.forall_mem_cons.mp unspent
        exact Or.inr ⟨own, rest, issue, earlier, rfl, issues, time, others⟩
  · rintro (⟨issues, time⟩ | ⟨own, later, issue, earlier, rfl, issues, time, others⟩)
    · exact ⟨[], record, served, rfl, issues, time, by simp⟩
    · exact ⟨record :: later, issue, earlier, rfl, issues, time,
        List.forall_mem_cons.mpr ⟨own, others⟩⟩

end Specification

section Ledger

def drawn (served : List Served) : List String := served.flatMap fun record => generated record.log

@[simp] theorem mem_drawn_cons (token : String) (record : Served) (served : List Served) :
    token ∈ drawn (record :: served) ↔ token ∈ generated record.log ∨ token ∈ drawn served := by
  simp [drawn]

/-- How the table stands for the served requests: its live rows are the live
tokens, each with the window its hand-out opened. -/
structure Stands (rows : List Token) (served : List Served) : Prop where
  live : ∀ token issuedAt, (∃ row ∈ rows, row.token = token ∧ row.revokedAt = none ∧
    row.lastUsedAt = issuedAt) ↔ Live served token issuedAt
  window : ∀ row ∈ rows, row.expiresAt = row.lastUsedAt + days REFRESH_TOKEN_EXPIRY_DAYS
  known : ∀ row ∈ rows, row.token ∈ drawn served

inductive Effect (record : Served) (rows : List Token) : List Token → Prop where
  | kept (none_out : handedOut record = none) (none_spent : spent record = none) :
      Effect record rows rows
  | issued (token : String) (row : Token) (out : handedOut record = some token)
      (none_spent : spent record = none) (session : NewSession record.tick.now token row)
      (written : token ∈ generated record.log) : Effect record rows (rows ++ [row])
  | rotated (token newToken : String) (row : Token) (stored : row ∈ rows) (own : row.token = token)
      (live : row.revokedAt = none) (out : handedOut record = some newToken)
      (used : spent record = some token) (written : newToken ∈ generated record.log) :
      Effect record rows (rows.map (Table.rewrite (fun row => row.token = token) fun row =>
        { row with token := newToken, expiresAt := record.tick.now + days REFRESH_TOKEN_EXPIRY_DAYS,
                   lastUsedAt := record.tick.now }))
  | revoked (token : String) (revokedAt : Time) (none_out : handedOut record = none)
      (used : spent record = some token) :
      Effect record rows (rows.map (Table.rewrite (fun row => row.token = token) fun row =>
        { row with revokedAt := some revokedAt }))

variable (record : Served) (rows : List Token) (served : List Served)

theorem stands_kept (none_out : handedOut record = none) (none_spent : spent record = none)
    (stands : Stands rows served) : Stands rows (record :: served) where
  live := by
    intro token issuedAt
    rw [live_cons, stands.live]
    simp [none_out, none_spent]
  window := stands.window
  known := fun row member => List.mem_append_right _ (stands.known row member)

theorem stands_issued (token : String) (row : Token) (out : handedOut record = some token)
    (none_spent : spent record = none) (session : NewSession record.tick.now token row)
    (written : token ∈ generated record.log) (stands : Stands rows served) :
    Stands (rows ++ [row]) (record :: served) where
  live := by
    intro other issuedAt
    rw [live_cons, ← stands.live, out, none_spent]
    constructor
    · rintro ⟨found, member, own, live, used⟩
      rcases List.mem_append.mp member with old | new
      · exact Or.inr ⟨by simp, found, old, own, live, used⟩
      · obtain rfl := List.mem_singleton.mp new
        exact Or.inl ⟨by rw [← own, session.token], session.used.symm.trans used⟩
    · rintro (⟨same, time⟩ | ⟨-, found, old, own, live, used⟩)
      · obtain rfl := Option.some.inj same
        exact ⟨row, List.mem_append_right _ (List.mem_singleton.mpr rfl), session.token,
          session.live, session.used.trans time⟩
      · exact ⟨found, List.mem_append_left _ old, own, live, used⟩
  window := by
    intro found member
    rcases List.mem_append.mp member with old | new
    · exact stands.window found old
    · obtain rfl := List.mem_singleton.mp new
      rw [session.expires, session.used]
  known := by
    intro found member
    rcases List.mem_append.mp member with old | new
    · exact List.mem_append_right _ (stands.known found old)
    · obtain rfl := List.mem_singleton.mp new
      exact List.mem_append_left _ (session.token ▸ written)

theorem stands_rotated (token newToken : String) (row : Token) (stored : row ∈ rows)
    (own : row.token = token) (live : row.revokedAt = none)
    (out : handedOut record = some newToken) (used : spent record = some token)
    (written : newToken ∈ generated record.log) (stands : Stands rows served) :
    Stands (rows.map (Table.rewrite (fun row => row.token = token) fun row =>
      { row with token := newToken, expiresAt := record.tick.now + days REFRESH_TOKEN_EXPIRY_DAYS,
                 lastUsedAt := record.tick.now })) (record :: served) where
  live := by
    intro other issuedAt
    rw [live_cons, ← stands.live, out, used]
    constructor
    · rintro ⟨found, member, rfl, alive, rfl⟩
      obtain ⟨old, present, rfl⟩ := List.mem_map.mp member
      by_cases same : old.token = token
      · exact Or.inl (by simp [Table.rewrite, same])
      · simp only [Table.rewrite, same, decide_false, Bool.false_eq_true, if_false] at alive ⊢
        exact Or.inr ⟨by simp [Ne.symm same], old, present, rfl, alive, rfl⟩
    · rintro (⟨same, rfl⟩ | ⟨apart, old, present, rfl, alive, rfl⟩)
      · obtain rfl := Option.some.inj same
        exact ⟨_, List.mem_map_of_mem stored, by simp [Table.rewrite, own, live]⟩
      · have other : ¬ old.token = token := fun same => apart (by rw [same])
        exact ⟨_, List.mem_map_of_mem present, by simp [Table.rewrite, other, alive]⟩
  window := by
    intro found member
    obtain ⟨old, present, rfl⟩ := List.mem_map.mp member
    by_cases same : old.token = token
    · simp [Table.rewrite, same]
    · simpa [Table.rewrite, same] using stands.window old present
  known := by
    intro found member
    obtain ⟨old, present, rfl⟩ := List.mem_map.mp member
    by_cases same : old.token = token
    · simpa [Table.rewrite, same] using Or.inl written
    · simpa [Table.rewrite, same] using Or.inr (stands.known old present)

theorem stands_revoked (token : String) (revokedAt : Time) (none_out : handedOut record = none)
    (used : spent record = some token) (stands : Stands rows served) :
    Stands (rows.map (Table.rewrite (fun row => row.token = token) fun row =>
      { row with revokedAt := some revokedAt })) (record :: served) where
  live := by
    intro other issuedAt
    rw [live_cons, ← stands.live, none_out, used]
    constructor
    · rintro ⟨found, member, rfl, alive, rfl⟩
      obtain ⟨old, present, rfl⟩ := List.mem_map.mp member
      by_cases same : old.token = token
      · simp [Table.rewrite, same] at alive
      · simp only [Table.rewrite, same, decide_false, Bool.false_eq_true, if_false] at alive ⊢
        exact Or.inr ⟨by simp [Ne.symm same], old, present, rfl, alive, rfl⟩
    · rintro (⟨same, -⟩ | ⟨apart, old, present, rfl, alive, rfl⟩)
      · cases same
      · have other : ¬ old.token = token := fun same => apart (by rw [same])
        exact ⟨_, List.mem_map_of_mem present, by simp [Table.rewrite, other, alive]⟩
  window := by
    intro found member
    obtain ⟨old, present, rfl⟩ := List.mem_map.mp member
    by_cases same : old.token = token <;>
      simpa [Table.rewrite, same] using stands.window old present
  known := by
    intro found member
    obtain ⟨old, present, rfl⟩ := List.mem_map.mp member
    have known := stands.known old present
    by_cases same : old.token = token
    · rw [same] at known
      simpa [Table.rewrite, same] using Or.inr known
    · simpa [Table.rewrite, same] using Or.inr known

theorem stands_effect (after : List Token) (effect : Effect record rows after)
    (stands : Stands rows served) : Stands after (record :: served) := by
  cases effect with
  | kept none_out none_spent => exact stands_kept record _ served none_out none_spent stands
  | issued token row out none_spent session written =>
      exact stands_issued record rows served token row out none_spent session written stands
  | rotated token newToken row stored own live out used written =>
      exact stands_rotated record rows served token newToken row stored own live out used written
        stands
  | revoked token revokedAt none_out used =>
      exact stands_revoked record rows served token revokedAt none_out used stands

end Ledger

section Decisions
variable (db : Db) (served : List Served) (stands : Stands db.tokens.rows served)

include stands in
theorem admits_live (token : String) (present : Time) :
    (∃ row, db.findToken token = some row ∧ Admits row present) ↔
      ∃ issuedAt, Live served token issuedAt ∧
        present ≤ issuedAt + days REFRESH_TOKEN_EXPIRY_DAYS ∧
        issuedAt + minutes REFRESH_COOLDOWN_MINUTES ≤ present := by
  constructor
  · rintro ⟨row, found, ⟨live, timely⟩, cooled⟩
    obtain ⟨stored, own⟩ := (db.find_token_mem token row).mp found
    refine ⟨row.lastUsedAt, (stands.live _ _).mp ⟨row, stored, own, live, rfl⟩, ?_, ?_⟩
    · rw [← stands.window row stored]
      exact Int.not_lt.mp timely
    · unfold Cooled at cooled
      simp only [Time] at *
      omega
  · rintro ⟨issuedAt, live, timely, cooled⟩
    obtain ⟨row, stored, own, alive, rfl⟩ := (stands.live _ _).mpr live
    refine ⟨row, (db.find_token_mem token row).mpr ⟨stored, own⟩, ⟨alive, ?_⟩, ?_⟩
    · rw [stands.window row stored]
      exact Int.not_lt.mpr timely
    · unfold Cooled
      simp only [Time] at *
      omega

include stands in
theorem alive_live (token : String) :
    (∃ row, db.findToken token = some row ∧ row.revokedAt = none) ↔
      ∃ issuedAt, Live served token issuedAt := by
  constructor
  · rintro ⟨row, found, live⟩
    obtain ⟨stored, own⟩ := (db.find_token_mem token row).mp found
    exact ⟨row.lastUsedAt, (stands.live _ _).mp ⟨row, stored, own, live, rfl⟩⟩
  · rintro ⟨issuedAt, live⟩
    obtain ⟨row, stored, own, alive, -⟩ := (stands.live _ _).mpr live
    exact ⟨row, (db.find_token_mem token row).mpr ⟨stored, own⟩, alive⟩

end Decisions

section Serving
variable (env : Env) (state : State) (caller : Option Nat) (tick : Tick) (ticks : Nat → Tick)

/-- The turn is free of outages, and both clocks show one instant throughout. -/
def Punctual (turn : Turn) : Prop :=
  Reliable turn ∧
    ∀ n, (turn.clock n).now = (turn.clock 0).now ∧ (turn.clock n).dbNow = (turn.clock 0).now

theorem issuers (request : Request) (visits : external request = true)
    (fresh : presented request = none) :
    ∃ program, handler env request = some <$> program ∧ Issuing program := by
  cases request with
  | requestOTP body => exact ⟨_, rfl, issuing_send body⟩
  | phoneSignup body => exact ⟨_, rfl, issuing_sign_up body⟩
  | phoneSignIn body => exact ⟨_, rfl, issuing_sign_in body⟩
  | oauthSignIn provider body => exact ⟨_, rfl, issuing_oauth_sign_in env provider body⟩
  | oauthSignup body => exact ⟨_, rfl, issuing_oauth_sign_up env body⟩
  | refreshTokens body => cases fresh
  | logout body => cases fresh
  | background job => cases visits

structure Outcome (request : Request) : Prop where
  calm : Calm (recordOf env state caller request tick ticks).log
  effect : Effect (recordOf env state caller request tick ticks) state.world.tokens.rows
    (serve (server env) state caller request tick ticks).world.tokens.rows

section Instants
variable (steady : ∀ n, (ticks n).outage = .none)
  (instant : ∀ n, (ticks n).now = tick.now ∧ (ticks n).dbNow = tick.now)
  (here : tick.dbNow = tick.now)

include here instant in
theorem opening_instant (request : Request) :
    Instant tick.now (recordOf env state caller request tick ticks).opening := by
  intro n
  cases n with
  | zero => exact ⟨rfl, here⟩
  | succ n => exact instant n

include steady instant here in
theorem outcome_issuing (request : Request) (visits : external request = true)
    (fresh : presented request = none) : Outcome env state caller tick ticks request := by
  obtain ⟨program, wraps, issuing⟩ := issuers env request visits fresh
  obtain ⟨result, log, world⟩ := record_map env state caller request tick ticks some program wraps
  obtain ⟨history, grows, calm, outcome⟩ := issuing tick.now
    (recordOf env state caller request tick ticks).opening steady
    (opening_instant env state caller tick ticks instant here request)
  have logged : (recordOf env state caller request tick ticks).log = history := log.trans grows
  have unspent : spent (recordOf env state caller request tick ticks) = none := by
    simp [spent, recordOf, fresh]
  refine ⟨logged ▸ calm, ?_⟩
  rw [world]
  rcases outcome with ⟨same, plain⟩ | ⟨response, access, token, row, answered, body, added, session,
    written⟩
  · rw [same]
    refine .kept ?_ unspent
    cases answered : (exec perform program
        (recordOf env state caller request tick ticks).opening).1 with
    | error error => simp [handedOut, result, answered, Except.map]
    | ok response =>
        have none_out := token_of_plain response.body fun access token =>
          plain response access token
          answered
        simp [handedOut, result, answered, Except.map, none_out]
  · rw [added]
    refine .issued token row ?_ unspent session (logged ▸ written)
    simp [handedOut, result, answered, Except.map, body, tokenOf]

structure Decision (request : Request) (admitted : Prop) : Prop where
  outcome : Outcome env state caller tick ticks request
  success : succeeded (recordOf env state caller request tick ticks) = true ↔ admitted
  refused : succeeded (recordOf env state caller request tick ticks) = false →
    (serve (server env) state caller request tick ticks).world = state.world

theorem decision_refused (request : Request) (program : Handler Response) (admitted : Prop)
    (wraps : handler env request = some <$> program) (not_admitted : ¬ admitted)
    (refuses : Refuses (recordOf env state caller request tick ticks).opening
      (exec perform program (recordOf env state caller request tick ticks).opening)) :
    Decision env state caller tick ticks request admitted := by
  obtain ⟨result, log, world⟩ := record_map env state caller request tick ticks some program wraps
  obtain ⟨error, status, code, answered, failed⟩ := refuses.answer
  obtain ⟨history, grows, calm, -⟩ := refuses.log
  have logged : (recordOf env state caller request tick ticks).log = history := log.trans grows
  have unmoved : (serve (server env) state caller request tick ticks).world = state.world :=
    world.trans refuses.world
  have failure : succeeded (recordOf env state caller request tick ticks) = false := by
    simp [succeeded, result, answered, Except.map, res.err, failed]
  refine ⟨⟨logged ▸ calm, ?_⟩, by simp [failure, not_admitted], fun _ => unmoved⟩
  rw [unmoved]
  refine .kept ?_ (by simp [spent, failure])
  simp [handedOut, result, answered, Except.map, res.err, tokenOf]

include steady instant here in
theorem decision_refresh (body : RefreshTokensRequest)
    (stands : Stands state.world.tokens.rows state.served)
    (distinct : (drawn (recordOf env state caller (.refreshTokens body) tick ticks ::
      state.served)).Nodup) :
    Decision env state caller tick ticks (.refreshTokens body)
      (∃ row, state.world.findToken body.refreshToken = some row ∧ Admits row tick.now) := by
  have present := opening_instant env state caller tick ticks instant here (.refreshTokens body)
  by_cases admitted : ∃ row, state.world.findToken body.refreshToken = some row ∧
      Admits row tick.now
  · obtain ⟨row, found, admits⟩ := admitted
    obtain ⟨result, log, world⟩ := record_map env state caller (.refreshTokens body) tick ticks some
      (refreshTokens body) rfl
    obtain ⟨history, grows, calm, drew, rotates⟩ := refresh_admitted
      (recordOf env state caller (.refreshTokens body) tick ticks).opening steady tick.now present
      body row found admits
    have logged : (recordOf env state caller (.refreshTokens body) tick ticks).log = history :=
      log.trans grows
    obtain ⟨stored, own⟩ := (state.world.find_token_mem _ row).mp found
    -- The new token is drawn afresh, so no row has it.
    have apart : ∀ other ∈ state.world.tokens.rows, other.token ≠ (ticks 1).refreshToken := by
      intro other member same
      have disjoint := List.disjoint_of_nodup_append
        (show (generated _ ++ drawn state.served).Nodup from distinct)
      refine disjoint ?_ (stands.known other member)
      rw [logged, drew, same]
      exact List.mem_singleton.mpr rfl
    obtain ⟨⟨access, answered⟩, rows⟩ := rotates apart
    have success : succeeded (recordOf env state caller (.refreshTokens body) tick ticks) =
      true := by
      simp [succeeded, result, answered, Except.map, res.ok]
    refine ⟨⟨logged ▸ calm, ?_⟩, ?_, by simp [success]⟩
    · rw [world, rows]
      refine .rotated body.refreshToken (ticks 1).refreshToken row stored own admits.1.1 ?_ ?_ ?_
      · simp [handedOut, result, answered, Except.map, res.ok, tokenOf]
        rfl
      · rw [spent, if_pos success]
        rfl
      · rw [logged, drew]
        exact List.mem_singleton.mpr rfl
    · exact iff_of_true success ⟨row, found, admits⟩
  · exact decision_refused env state caller tick ticks (.refreshTokens body)
      (refreshTokens body) _ rfl admitted
      (refresh_refused (recordOf env state caller (.refreshTokens body) tick ticks).opening
        steady tick.now present body fun row found admits => admitted ⟨row, found, admits⟩)

include steady in
theorem decision_logout (body : LogoutRequest) :
    Decision env state caller tick ticks (.logout body)
      (∃ row, state.world.findToken body.refreshToken = some row ∧ row.revokedAt = none) := by
  by_cases admitted : ∃ row, state.world.findToken body.refreshToken = some row ∧
      row.revokedAt = none
  · obtain ⟨row, found, live⟩ := admitted
    obtain ⟨result, log, world⟩ := record_map env state caller (.logout body) tick ticks some
      (logout body) rfl
    obtain ⟨answered, ⟨history, grows, calm, -⟩, rows⟩ := logout_admitted
      (recordOf env state caller (.logout body) tick ticks).opening steady body row found live
    have logged : (recordOf env state caller (.logout body) tick ticks).log = history :=
      log.trans grows
    have success : succeeded (recordOf env state caller (.logout body) tick ticks) = true := by
      simp [succeeded, result, answered, Except.map, res.ok]
    refine ⟨⟨logged ▸ calm, ?_⟩, iff_of_true success ⟨row, found, live⟩, by simp [success]⟩
    rw [world, rows]
    refine .revoked body.refreshToken _ ?_ ?_
    · simp [handedOut, result, answered, Except.map, res.ok, tokenOf]
    · rw [spent, if_pos success]
      rfl
  · exact decision_refused env state caller tick ticks (.logout body) (logout body) _ rfl admitted
      (logout_refused (recordOf env state caller (.logout body) tick ticks).opening steady body
        fun row found live => admitted ⟨row, found, live⟩)

theorem outcome_job (job : Job) (keeps : ∀ id, job ≠ .deleteAuth id) :
    Outcome env state caller tick ticks (.background job) := by
  have idle : runJob job = pure () := by
    cases job with
    | deleteAuth id => exact absurd rfl (keeps id)
    | sendOTP phone otp => rfl
    | sendEmail recipient subject template => rfl
  obtain ⟨result, log, world⟩ := record_map env state caller (.background job) tick ticks
    (fun _ => none) (pure ()) (congrArg (fun program => (fun _ => none) <$> program) idle)
  refine ⟨?_, ?_⟩
  · rw [log]
    exact fun event member => absurd member List.not_mem_nil
  · rw [world]
    refine .kept ?_ (ite_self none)
    simp [handedOut, result, Except.map]

/-- Jobs that delete nothing. -/
def Tame (request : Request) : Prop :=
  ∃ job, request = .background job ∧ ∀ id, job ≠ .deleteAuth id

include steady instant here in
/-- Serving any request meets the specification of it, and the table goes on
standing for the history. -/
theorem served_stands (request : Request) (sound : external request = true ∨ Tame request)
    (stands : Stands state.world.tokens.rows state.served)
    (distinct : (drawn (recordOf env state caller request tick ticks :: state.served)).Nodup) :
    Outcome env state caller tick ticks request ∧
      Lineage env (recordOf env state caller request tick ticks) state.served := by
  rcases sound with visits | ⟨job, rfl, keeps⟩
  · cases carried : presented request with
    | none =>
        refine ⟨outcome_issuing env state caller tick ticks steady instant here request visits
          carried,
          fun body same => ?_, fun body same => ?_, fun presents => absurd carried presents⟩
        · rw [show request = .refreshTokens body from same] at carried
          cases carried
        · rw [show request = .logout body from same] at carried
          cases carried
    | some token =>
        cases request with
        | refreshTokens body =>
            have decided := decision_refresh env state caller tick ticks steady instant here body
              stands distinct
            refine ⟨decided.outcome, fun other same => ?_, fun other same => (by cases same),
              fun _ => decided.refused⟩
            cases same
            exact decided.success.trans
              (admits_live state.world state.served stands body.refreshToken tick.now)
        | logout body =>
            have decided := decision_logout env state caller tick ticks steady body
            refine ⟨decided.outcome, fun other same => (by cases same), fun other same => ?_,
              fun _ => decided.refused⟩
            cases same
            exact decided.success.trans
              (alive_live state.world state.served stands body.refreshToken)
        | requestOTP body => cases carried
        | phoneSignup body => cases carried
        | phoneSignIn body => cases carried
        | oauthSignIn provider body => cases carried
        | oauthSignup body => cases carried
        | background job => cases visits
  · exact ⟨outcome_job env state caller tick ticks job keeps, fun body same => (by cases same),
      fun body same => (by cases same), fun presents => absurd rfl presents⟩

end Instants
end Serving

section Runs
variable (env : Env)

structure Ledger (state : State) : Prop where
  tame : ∀ request ∈ state.queue, Tame request
  stands : Stands state.world.tokens.rows state.served
  lineage : ∀ later record earlier, state.served = later ++ record :: earlier →
    Lineage env record earlier

theorem ledger_served (state : State) (caller : Option Nat) (request : Request) (tick : Tick)
    (ticks : Nat → Tick) (steady : ∀ n, (ticks n).outage = .none)
    (instant : ∀ n, (ticks n).now = tick.now ∧ (ticks n).dbNow = tick.now)
    (here : tick.dbNow = tick.now) (sound : external request = true ∨ Tame request)
    (distinct : (drawn (serve (server env) state caller request tick ticks).served).Nodup)
    (ledger : Ledger env state) :
    Ledger env (serve (server env) state caller request tick ticks) := by
  obtain ⟨outcome, lineage⟩ := served_stands env state caller tick ticks steady instant here request
    sound ledger.stands distinct
  refine ⟨?_, stands_effect _ _ _ _ outcome.effect ledger.stands, ?_⟩
  · intro waiting member
    rcases List.mem_append.mp member with old | new
    · exact ledger.tame waiting old
    · obtain ⟨event, logged, spawns⟩ := List.mem_flatMap.mp new
      have calm := outcome.calm event logged
      simp only [server, spawned] at spawns
      split at spawns
      · next asked =>
          refine ⟨_, List.mem_singleton.mp spawns, fun id same => ?_⟩
          rw [asked, same] at calm
          cases calm
      · exact absurd spawns List.not_mem_nil
  · intro later record earlier split
    cases later with
    | nil =>
        obtain ⟨rfl, rfl⟩ := List.cons.inj split
        exact lineage
    | cons first rest => exact ledger.lineage rest record earlier (List.cons.inj split).2

theorem drawn_served (state : State) (caller : Option Nat) (request : Request) (tick : Tick)
    (ticks : Nat → Tick)
    (distinct : (drawn (serve (server env) state caller request tick ticks).served).Nodup) :
    (drawn state.served).Nodup :=
  (List.nodup_append.mp (show (generated _ ++ drawn state.served).Nodup from distinct)).2.1

/-- In every run of requests at one instant each, without outages and with
distinct tokens drawn, the history decides every refresh and every logout, and
a refused one leaves the database as it was. -/
theorem refresh_refines_lineage (db : Db) (vacant : db.tokens.rows = []) (turns : List Turn)
    (guarded : Guarded (server env) (fun _ turn => Punctual turn) (idle db) turns)
    (distinct : (drawn (serveAll (server env) (idle db) turns).served).Nodup)
    (later : List Served) (record : Served) (earlier : List Served)
    (split : (serveAll (server env) (idle db) turns).served = later ++ record :: earlier) :
    Lineage env record earlier := by
  have initial : Ledger env (idle db) :=
    { tame := fun request member => absurd member List.not_mem_nil
      stands :=
        { live := by
            intro token issuedAt
            constructor
            · rintro ⟨row, member, -⟩
              rw [show (idle db : State).world.tokens.rows = [] from vacant] at member
              exact absurd member List.not_mem_nil
            · rintro ⟨later, issue, earlier, split, -⟩
              cases later <;> cases split
          window := fun row member => absurd (vacant ▸ member) List.not_mem_nil
          known := fun row member => absurd (vacant ▸ member) List.not_mem_nil }
      lineage := fun later record earlier split => by cases later <;> cases split }
  have ledger := guarded_serve (server env) (fun _ turn => Punctual turn)
    (fun state => (drawn state.served).Nodup → Ledger env state)
    (fun state caller request tick ticks before visits punctual distinct =>
      ledger_served env state (some caller) request tick ticks (fun n => punctual.1 (n + 1))
        (fun n => punctual.2 (n + 1)) (punctual.2 0).2 (Or.inl visits) distinct
        (before (drawn_served env state (some caller) request tick ticks distinct)))
    (fun state request rest tick ticks before pending punctual distinct =>
      have ledger := before (drawn_served env { state with queue := rest } none request tick ticks
        distinct)
      ledger_served env { state with queue := rest } none request tick ticks
        (fun n => punctual.1 (n + 1)) (fun n => punctual.2 (n + 1)) (punctual.2 0).2
        (Or.inr (ledger.tame request (pending ▸ List.mem_cons_self))) distinct
        ⟨fun waiting member => ledger.tame waiting (pending ▸ List.mem_cons_of_mem _ member),
          ledger.stands, ledger.lineage⟩)
    (idle db) turns (fun _ => initial) guarded
  exact (ledger distinct).lineage later record earlier split

theorem visits_punctual (visits : List Visit) (state : State) :
    Guarded (server env) (fun _ turn => Punctual turn) state (visits.map Visit.turn) := by
  induction visits generalizing state with
  | nil => trivial
  | cons visit rest ih =>
      refine ⟨⟨fun n => ?_, fun n => ?_⟩, ih _⟩ <;> rw [Visit.clock_turn]
      · rfl
      · rw [Visit.clock_turn]
        exact ⟨rfl, rfl⟩

-- A sign-up by phone, and a refresh in the first instant the cooldown is over.
def signUpThenRefresh : List Visit :=
  [{ caller := 0, request := .requestOTP { phone := "2125550123", purpose := .signup },
     present := 0,
     draw := "c7q0a4x0000qzrmn831i7rn9" },
   { caller := 0, present := 1000, draw := "tz4a98xxat96iws9zmbrgj3a",
     request := .phoneSignup { phone := "2125550123", code := "493021", name := "Ada",
                               gender := .female, birthYear := 1990, deviceInfo := none } },
   { caller := 0, request := .refreshTokens { refreshToken := "tz4a98xxat96iws9zmbrgj3a" },
     present := 301000, draw := "n8v2e6k0qj5w3ypl7d1ruxsb" }]

def signedUp : State :=
  serveAll (server sampleEnv) (idle Db.empty) (signUpThenRefresh.map Visit.turn)

theorem refresh_refines_sign_up :
    ∃ record earlier, signedUp.served = record :: earlier ∧ succeeded record = true ∧
      Lineage sampleEnv record earlier :=
  ⟨_, _, rfl, by decide, refresh_refines_lineage sampleEnv Db.empty rfl
    (signUpThenRefresh.map Visit.turn) (visits_punctual sampleEnv signUpThenRefresh (idle Db.empty))
    (by decide) [] _ _ rfl⟩

end Runs

end TopInspect.SessionHistory
