import TopInspect.ClientSegments

/-! Whose session the client store holds. refreshTokens and logOut write the store
after an await without looking at what it holds by then, so an answer that comes
late writes over a log-out or over another sign-in. -/
namespace TopInspect.ClientSessions

open Resumption
open AuthHandlers (truthy truthy_some)
open ClientStore ClientApi ClientSegments
open Interleaving hiding Entry State Action Task

/-- The answer of a sign-in or sign-up whose tokens are stored. -/
def signsIn : Query → Bool
  | .storeSession asksSignup (some data) => !(asksSignup && wantsSignup data)
  | _ => false

def clears : Query → Bool
  | .clearAll => true
  | .googleSignedOut refreshToken => (truthy refreshToken).isNone
  | _ => false

def renews : Query → Bool
  | .finishRefresh _ (.ok (some _)) => true
  | _ => false

def startsLogOut : Query → Bool
  | .startLogOut => true
  | _ => false

section Sessions
variable (device : Device)

def after (entry : Entry) : AuthStore :=
  (perform device entry.tick entry.query entry.before).2.store

/-- No sign-in has stored tokens since the last clearAll, and there are none. -/
def Cleared (trace : List Entry) (store : AuthStore) : Prop :=
  ∀ later entry earlier, trace = later ++ entry :: earlier → clears entry.query = true →
    (∀ other ∈ later, signsIn other.query = false) → store.tokens = (none, none)

/-- A refresh token of the session that these entries began and renewed. -/
def OfSession (entries : List Entry) (refreshToken : String) : Prop :=
  ∃ entry ∈ entries, (signsIn entry.query = true ∨ renews entry.query = true) ∧
    (after device entry).refreshToken = some refreshToken

/-- What may change the tokens of the session that `signIn` began. -/
inductive Rightful (entry : Entry) (middle : List Entry) (signIn : Entry) : Prop where
  | signIn (signs : signsIn entry.query = true)
  | logOut (first : Entry) (later : first ∈ middle) (own : first.task = entry.task)
      (starts : startsLogOut first.query = true) (ends : clears entry.query = true)
  | refresh (promise : Nat) (refreshToken : String)
      (request : entry.request = .refreshCall promise refreshToken)
      (held : OfSession device (middle ++ [signIn]) refreshToken)

/-- After a clearAll the tokens stay away until the next sign-in, and after a
sign-in only its own refreshes, later log-outs and later sign-ins change them. -/
structure SessionHeld (state : State) : Prop where
  cleared : Cleared state.trace state.world.store
  kept : ∀ later entry middle signIn earlier,
    state.trace = later ++ entry :: (middle ++ signIn :: earlier) →
    signsIn signIn.query = true → (∀ other ∈ middle, signsIn other.query = false) →
    (after device entry).tokens ≠ entry.before.store.tokens →
    Rightful device entry middle signIn

/-- No sign-in and no clearAll falls between the start of a refresh and the
storing of its answer, and no sign-in between the start of a log-out and its
clearAll. -/
def InOrder (state : State) (action : Action) : Prop :=
  ∀ entry ∈ (client device).upcoming state action,
    (renews entry.query = true →
      ∀ other ∈ state.trace.take (state.trace.length - entry.born),
        signsIn other.query = false ∧ clears other.query = false) ∧
    (clears entry.query = true →
      ∀ other ∈ since (fun other => other.task = entry.task ∧ startsLogOut other.query = true)
        state.trace, signsIn other.query = false)

instance (state : State) (action : Action) : Decidable (InOrder device state action) :=
  inferInstanceAs (Decidable (∀ entry ∈ (client device).upcoming state action, _ ∧ _))

end Sessions

/-! Everything a segment can do to what is saved of the store. -/
section Tokens
variable (device : Device)

theorem start_saved (world : World) :
    (startRefresh world).world.store.partialize = world.store.partialize := by
  unfold startRefresh
  split
  · exact partialize_error _ _
  · exact partialize_begin _

theorem lock_saved (world : World) :
    (takeLock world).world.store.partialize = world.store.partialize := by
  unfold takeLock
  split
  · rfl
  · exact start_saved world

theorem saved_kept (tick : Tick) (query : Query) (world : World) (plain : signsIn query = false)
    (keeps : clears query = false) (old : renews query = false) :
    (perform device tick query world).2.store.partialize = world.store.partialize := by
  cases query with
  | intercept config =>
      rcases intercept_lock device tick config world with
        ⟨-, url, shape⟩ | ⟨-, sending, started, -, shape⟩
      · simpa [perform, shape, Segment.map] using lock_saved world
      · simp [perform, shape]
  | receive config =>
      rcases receive_lock device tick config world with ⟨-, shape⟩ | ⟨-, shape⟩
      · simpa [perform, shape, Segment.map] using lock_saved world
      · simp [perform, shape, Segment.map, receive_world]
  | receiveAgain config => simp [perform, segmentOf, receive_world]
  | resumeRequest promise config =>
      rcases resume_cases promise config world with ⟨error, -, shape⟩ | ⟨-, sending, shape⟩
      · simp [perform, segmentOf, shape]
      · simp [perform, segmentOf, shape]
  | resumeResponse promise config =>
      rcases resume_cases promise config world with ⟨error, -, shape⟩ | ⟨-, sending, shape⟩
      · simp [perform, segmentOf, shape]
      · simp [perform, segmentOf, shape]
  | callRefresh => exact start_saved world
  | settled promise => rfl
  | finishRefresh promise outcome =>
      rcases outcome with error | (none | data)
      · exact partialize_error _ _
      · exact partialize_error _ _
      · cases old
  | startLogOut => rfl
  | googleSignedOut refreshToken =>
      cases present : truthy refreshToken with
      | none => simp [clears, present] at keeps
      | some token =>
          simp only [perform, segmentOf, googleSignedOut, present]
          exact partialize_begin _
  | clearAll => cases keeps
  | beginLoading => exact partialize_begin _
  | storeSession asksSignup data =>
      cases data with
      | none => rfl
      | some data =>
          have asks : asksSignup = true ∧ wantsSignup data = true := by simpa [signsIn] using plain
          simp [perform, segmentOf, storeSession, asks, AuthStore.partialize]
  | storeOtp data => rfl
  | setErrorState thrown => exact partialize_error _ _

theorem tokens_kept (tick : Tick) (query : Query) (world : World) (plain : signsIn query = false)
    (keeps : clears query = false) (old : renews query = false) :
    (perform device tick query world).2.store.tokens = world.store.tokens := by
  have kept := saved_kept device tick query world plain keeps old
  exact congrArg (fun saved => (saved.accessToken, saved.refreshToken)) kept

theorem clear_tokens (tick : Tick) (query : Query) (world : World) (cleared : clears query = true) :
    (perform device tick query world).2.store.tokens = (none, none) := by
  cases query with
  | clearAll => exact tokens_clear _
  | googleSignedOut refreshToken =>
      have absent : truthy refreshToken = none := by simpa [clears] using cleared
      simp [perform, segmentOf, googleSignedOut, absent]
  | _ => cases cleared

end Tokens

section Runs
variable {device : Device}

theorem split_past {α : Type} (first rest later earlier : List α) (entry : α)
    (same : first ++ rest = later ++ entry :: earlier) (outside : entry ∉ first) :
    ∃ middle, later = first ++ middle ∧ rest = middle ++ entry :: earlier := by
  rcases List.append_eq_append_iff.mp same with ⟨middle, split, tail⟩ | ⟨excess, split, tail⟩
  · exact ⟨middle, split, tail⟩
  · cases excess with
    | nil => exact ⟨[], by simpa using split.symm, by simpa using tail.symm⟩
    | cons head others =>
        obtain ⟨rfl, -⟩ := List.cons.inj tail
        exact absurd (by simp [split]) outside

def Sourced (device : Device) (trace : List Entry) (store : AuthStore) : Prop :=
  ∀ middle signIn earlier, trace = middle ++ signIn :: earlier → signsIn signIn.query = true →
    (∀ other ∈ middle, signsIn other.query = false) →
    ∀ refreshToken, store.refreshToken = some refreshToken →
      OfSession device (middle ++ [signIn]) refreshToken

/-- The entry that started a refresh, in whose world its refresh token was read. -/
def StartedBy (device : Device) (trace : List Entry) (born : Nat) (refreshToken : String) : Prop :=
  ∃ spawn earlier, trace.drop (trace.length - born) = spawn :: earlier ∧
    mayRefresh spawn.query = true ∧ spawn.before.store.refreshToken = some refreshToken ∧
    Cleared earlier spawn.before.store ∧ Sourced device earlier spawn.before.store

structure InSession (device : Device) (state : State) : Prop where
  held : SessionHeld device state
  sourced : Sourced device state.trace state.world.store
  started : ∀ task ∈ state.tasks, ∀ promise refreshToken,
    task.request = .refreshCall promise refreshToken →
      StartedBy device state.trace task.born refreshToken

theorem in_session_start (store : AuthStore) : InSession device (start (opened store)) where
  held := ⟨by simp [start, Cleared], by simp [start]⟩
  sourced := by simp [start, Sourced]
  started := by simp [start]

theorem started_cons (entry : Entry) (trace : List Entry) (born : Nat) (refreshToken : String)
    (known : born ≤ trace.length) (started : StartedBy device trace born refreshToken) :
    StartedBy device (entry :: trace) born refreshToken := by
  obtain ⟨spawn, earlier, dropped, rest⟩ := started
  refine ⟨spawn, earlier, ?_, rest⟩
  rw [List.length_cons, Nat.sub_add_comm known, List.drop_succ_cons]
  exact dropped

theorem of_session_mono (entries more : List Entry) (refreshToken : String)
    (within : ∀ entry ∈ entries, entry ∈ more) (held : OfSession device entries refreshToken) :
    OfSession device more refreshToken := by
  obtain ⟨entry, member, stores⟩ := held
  exact ⟨entry, within entry member, stores⟩

theorem may_refresh_plain (query : Query) (starts : mayRefresh query = true) :
    signsIn query = false ∧ clears query = false := by
  cases query <;> first | exact ⟨rfl, rfl⟩ | cases starts

/-- No sign-in and no clearAll since a refresh read its token: it belongs to the
session of the last sign-in, and nothing was cleared since. -/
theorem started_in_session (trace : List Entry) (born : Nat) (refreshToken : String)
    (started : StartedBy device trace born refreshToken)
    (quiet : ∀ other ∈ trace.take (trace.length - born),
      signsIn other.query = false ∧ clears other.query = false) :
    (∀ later entry earlier, trace = later ++ entry :: earlier → clears entry.query = true →
      ¬ ∀ other ∈ later, signsIn other.query = false) ∧
    (∀ middle signIn earlier, trace = middle ++ signIn :: earlier → signsIn signIn.query = true →
      (∀ other ∈ middle, signsIn other.query = false) →
      OfSession device (middle ++ [signIn]) refreshToken) := by
  obtain ⟨spawn, before, dropped, starts, token, cleared, sourced⟩ := started
  obtain ⟨unsigned, unclear⟩ := may_refresh_plain spawn.query starts
  have cut : (trace.take (trace.length - born) ++ [spawn]) ++ before = trace := by
    rw [List.append_assoc, List.singleton_append, ← dropped, List.take_append_drop]
  have recent : ∀ other ∈ trace.take (trace.length - born) ++ [spawn],
      signsIn other.query = false ∧ clears other.query = false := by
    intro other member
    rcases List.mem_append.mp member with newer | own
    · exact quiet other newer
    · obtain rfl := List.mem_singleton.mp own
      exact ⟨unsigned, unclear⟩
  refine ⟨fun later entry earlier same clearing plain => ?_,
    fun middle signIn earlier same signs plain => ?_⟩
  · obtain ⟨rest, rfl, tail⟩ := split_past _ before later earlier entry (cut.trans same)
      (fun member => by simp [(recent entry member).2] at clearing)
    have empty := cleared rest entry earlier tail clearing
      (fun other member => plain other (List.mem_append_right _ member))
    simp [AuthStore.tokens, token] at empty
  · obtain ⟨rest, rfl, tail⟩ := split_past _ before middle earlier signIn (cut.trans same)
      (fun member => by simp [(recent signIn member).1] at signs)
    have own := sourced rest signIn earlier tail signs
      (fun other member => plain other (List.mem_append_right _ member)) refreshToken token
    refine of_session_mono _ _ refreshToken (fun entry member => ?_) own
    rw [List.append_assoc]
    exact List.mem_append_right _ member

section Answers
variable (entry : Entry) (trace : List Entry)

theorem cleared_cons (cleared : Cleared trace entry.before.store)
    (refreshed : renews entry.query = true → ∀ later clear earlier,
      trace = later ++ clear :: earlier → clears clear.query = true →
      ¬ ∀ other ∈ later, signsIn other.query = false) :
    Cleared (entry :: trace) (after device entry) := by
  intro later clear earlier same clearing plain
  rcases List.cons_eq_append_iff.mp same with ⟨rfl, now⟩ | ⟨rest, rfl, tail⟩
  · obtain ⟨rfl, -⟩ := List.cons.inj now
    exact clear_tokens device _ _ _ clearing
  · by_cases clearing' : clears entry.query = true
    · exact clear_tokens device _ _ _ clearing'
    · have others := fun other member => plain other (List.mem_cons_of_mem _ member)
      by_cases old : renews entry.query = true
      · exact absurd others (refreshed old rest clear earlier tail clearing)
      · have kept := tokens_kept device entry.tick entry.query entry.before
          (plain entry (by simp)) (by simpa using clearing') (by simpa using old)
        exact kept.trans (cleared rest clear earlier tail clearing others)

theorem sourced_cons (sourced : Sourced device trace entry.before.store) :
    Sourced device (entry :: trace) (after device entry) := by
  intro middle signIn earlier same signs plain refreshToken stored
  rcases List.cons_eq_append_iff.mp same with ⟨rfl, now⟩ | ⟨rest, rfl, tail⟩
  · obtain ⟨rfl, -⟩ := List.cons.inj now
    exact ⟨signIn, by simp, Or.inl signs, stored⟩
  · by_cases old : renews entry.query = true
    · exact ⟨entry, by simp, Or.inr old, stored⟩
    · by_cases clearing : clears entry.query = true
      · have empty := clear_tokens device entry.tick entry.query entry.before clearing
        have absent : (after device entry).refreshToken = none := congrArg Prod.snd empty
        simp [absent] at stored
      · have kept := tokens_kept device entry.tick entry.query entry.before
          (plain entry (by simp)) (by simpa using clearing) (by simpa using old)
        have same : (after device entry).refreshToken = entry.before.store.refreshToken :=
          congrArg Prod.snd kept
        have own := sourced rest signIn earlier tail signs
          (fun other member => plain other (List.mem_cons_of_mem _ member)) refreshToken
          (same.symm.trans stored)
        exact of_session_mono _ _ refreshToken (fun other member => List.mem_cons_of_mem _ member)
          own

end Answers

theorem log_out_started (state : State) (coherent : (client device).Coherent state) (index : Nat)
    (task : Task) (query : Query) (present : state.tasks[index]? = some task)
    (awaits : task.residual.awaiting = some query) (clearing : clears query = true) :
    ∃ first ∈ state.trace, first.task = index ∧ startsLogOut first.query = true := by
  have request : task.request = .logOut := by
    have belongs := task_belongs device state coherent index task query present awaits
    cases query with
    | clearAll => exact belongs
    | googleSignedOut refreshToken => exact belongs
    | _ => cases clearing
  obtain ⟨tick, follows⟩ := coherent.follows index task present
  rw [request] at follows
  obtain ⟨middle, follows, awaits⟩ :=
    map_awaits (perform device) logOut (fun _ => Result.done) tick _ _ query follows awaits
  rcases follows_call (perform device) _ _ tick _ middle follows with
    ⟨-, stands⟩ | ⟨event, rest, past, same, -⟩
  · obtain rfl := Option.some.inj (awaits.symm.trans stands)
    cases clearing
  · obtain ⟨first, member, own, rfl⟩ := (mem_history index state.trace event).mp (by simp [past])
    exact ⟨first, member, own, by rw [show first.query = .startLogOut from same]; rfl⟩

theorem mark_within {mark : Entry → Prop} [DecidablePred mark] (trace : List Entry)
    (marked : ∃ first ∈ trace, mark first)
    (plain : ∀ other ∈ since mark trace, signsIn other.query = false)
    (apart : ∀ first, mark first → signsIn first.query = false)
    (middle : List Entry) (signIn : Entry) (earlier : List Entry)
    (same : trace = middle ++ signIn :: earlier) (signs : signsIn signIn.query = true) :
    ∃ first ∈ middle, mark first := by
  induction trace generalizing middle with
  | nil => simp at same
  | cons newest rest ih =>
      rcases List.cons_eq_append_iff.mp same with ⟨rfl, now⟩ | ⟨others, rfl, tail⟩
      · obtain ⟨rfl, rfl⟩ := List.cons.inj now
        by_cases own : mark signIn
        · simp [apart signIn own] at signs
        · rw [since_cons mark signIn earlier own] at plain
          simp [plain signIn (by simp)] at signs
      · by_cases own : mark newest
        · exact ⟨newest, by simp, own⟩
        · rw [since_cons mark newest rest own] at plain
          obtain ⟨first, member, holds⟩ := marked
          have older : first ∈ rest := (List.mem_cons.mp member).resolve_left
            (fun equal => own (equal ▸ holds))
          obtain ⟨found, inside, marks⟩ := ih ⟨first, older, holds⟩
            (fun other present => plain other (List.mem_cons_of_mem _ present)) others tail
          exact ⟨found, List.mem_cons_of_mem _ inside, marks⟩

theorem renew_started (state : State) (coherent : (client device).Coherent state)
    (session : InSession device state) (index : Nat) (task : Task) (query : Query)
    (present : state.tasks[index]? = some task) (awaits : task.residual.awaiting = some query)
    (renewing : renews query = true) :
    ∃ promise refreshToken, task.request = .refreshCall promise refreshToken ∧
      StartedBy device state.trace task.born refreshToken := by
  have belongs := task_belongs device state coherent index task query present awaits
  cases query with
  | finishRefresh promise outcome =>
      obtain ⟨refreshToken, request⟩ := belongs
      exact ⟨promise, refreshToken, request,
        session.started task (List.mem_of_getElem? present) promise refreshToken request⟩
  | _ => cases renewing

theorem rightful_answered (state : State) (coherent : (client device).Coherent state)
    (session : InSession device state) (entry : Entry) (task : Task)
    (present : state.tasks[entry.task]? = some task)
    (awaits : task.residual.awaiting = some entry.query)
    (request : entry.request = task.request) (born : entry.born = task.born)
    (quiet : renews entry.query = true →
      ∀ other ∈ state.trace.take (state.trace.length - entry.born),
        signsIn other.query = false ∧ clears other.query = false)
    (unsigned : clears entry.query = true →
      ∀ other ∈ since (fun other => other.task = entry.task ∧ startsLogOut other.query = true)
        state.trace, signsIn other.query = false)
    (middle : List Entry) (signIn : Entry) (earlier : List Entry)
    (same : state.trace = middle ++ signIn :: earlier) (signs : signsIn signIn.query = true)
    (plain : ∀ other ∈ middle, signsIn other.query = false)
    (changes : (after device entry).tokens ≠ entry.before.store.tokens) :
    Rightful device entry middle signIn := by
  -- Only sign-ins, clearings and renewals change the tokens.
  by_cases signing : signsIn entry.query = true
  · exact .signIn signing
  by_cases clearing : clears entry.query = true
  · obtain ⟨first, later, own, starts⟩ := mark_within state.trace
      (log_out_started state coherent entry.task task entry.query present awaits clearing)
      (unsigned clearing)
      (fun first marked => by
        cases query : first.query <;> simp [query, startsLogOut, signsIn] at marked ⊢)
      middle signIn earlier same signs
    exact .logOut first later own starts clearing
  by_cases renewing : renews entry.query = true
  · obtain ⟨promise, refreshToken, called, started⟩ :=
      renew_started state coherent session entry.task task entry.query present awaits renewing
    have own := (started_in_session state.trace task.born refreshToken started
      (born ▸ quiet renewing)).2 middle signIn earlier same signs plain
    exact .refresh promise refreshToken (request.trans called) own
  · have kept := tokens_kept device entry.tick entry.query entry.before
      (by simpa using signing) (by simpa using clearing) (by simpa using renewing)
    exact absurd kept changes

theorem in_session_step (state : State) (action : Action)
    (coherent : (client device).Coherent state) (session : InSession device state)
    (ordered : InOrder device state action) :
    InSession device ((client device).step state action) := by
  have transition := (client device).step_transition state action
  generalize (client device).step state action = last at transition ⊢
  cases transition with
  | idle => exact session
  | arrived request tick external =>
      refine ⟨⟨session.held.cleared, session.held.kept⟩, session.sourced,
        fun task member promise refreshToken asks => ?_⟩
      rcases List.mem_append.mp member with old | new
      · exact session.started task old promise refreshToken asks
      · obtain rfl := List.mem_singleton.mp new
        obtain rfl : request = .refreshCall promise refreshToken := asks
        cases external
  | answered index tick task query resume present awaits ready =>
      have stands : task.residual.awaiting = some query := by rw [awaits]; rfl
      obtain ⟨quiet, unsigned⟩ := ordered _ (Machine.upcoming_answered _ state index tick task query
        resume present awaits ready)
      let entry : Entry :=
        { query, tick, before := state.world, task := index,
          request := task.request, born := task.born }
      refine ⟨⟨?_, ?_⟩, sourced_cons entry state.trace session.sourced, ?_⟩
      -- A refresh that stores its tokens belongs to this session: no log-out has cleared since.
      · refine cleared_cons entry state.trace session.held.cleared fun renewing => ?_
        obtain ⟨promise, refreshToken, called, started⟩ :=
          renew_started state coherent session index task query present stands renewing
        exact (started_in_session state.trace task.born refreshToken started (quiet renewing)).1
      · intro later other middle signIn earlier same signs plain changes
        rcases List.cons_eq_append_iff.mp same with ⟨rfl, now⟩ | ⟨rest, rfl, tail⟩
        · obtain ⟨rfl, split⟩ := List.cons.inj now
          exact rightful_answered state coherent session entry task present stands rfl rfl quiet
            unsigned middle signIn earlier split.symm signs plain changes
        · exact session.held.kept rest other middle signIn earlier tail signs plain changes
      -- A refresh that starts here sends the token of the session as it stands.
      · intro other member promise refreshToken asks
        obtain ⟨place, inside, equal⟩ := List.getElem_of_mem member
        have lookup := (List.getElem?_eq_getElem inside).trans (congrArg some equal)
        rcases (client device).answer_tasks state index task query resume tick
          present place other lookup with ⟨rfl, rfl⟩ | ⟨-, old⟩ | ⟨-, request, started, rfl⟩
        · exact started_cons entry state.trace task.born refreshToken
            (coherent.born place task present)
            (session.started task (List.mem_of_getElem? present) promise refreshToken asks)
        · exact started_cons entry state.trace other.born refreshToken
            (coherent.born place other old)
            (session.started other (List.mem_of_getElem? old) promise refreshToken asks)
        · obtain rfl : request = .refreshCall promise refreshToken := asks
          rcases spawned_cases device tick query state.world _ started with
            impossible | ⟨starts, -, token, same, held⟩
          · cases impossible
          · cases same
            refine ⟨entry, state.trace, ?_, starts, truthy_some _ _ held, session.held.cleared,
              session.sourced⟩
            simp [Machine.launch, Machine.answer, entry]

/-- Where refreshes and log-outs stay within one session, tokens that are gone stay away until the
next sign-in, and only what belongs to it changes those that it has brought. -/
theorem sessions_held (device : Device) (store : AuthStore) (schedule : List Action)
    (ordered : (client device).Guarded (InOrder device) (start (opened store)) schedule) :
    SessionHeld device ((client device).run (start (opened store)) schedule) :=
  ((client device).guarded_run _ (fun state => (client device).Coherent state ∧
    InSession device state)
    (fun state action both ordered => ⟨Machine.coherent_step state action both.1,
      in_session_step state action both.1 both.2 ordered⟩)
    _ schedule ⟨(client device).coherent_start _, in_session_start store⟩ ordered).2.held

end Runs

/-! A refresh that is answered after the store has been cleared. -/
section Late

def signInAgain : Request :=
  .signInWithPhone { phone := "2125550123", code := "123456", deviceInfo := none }

-- One task: every segment of a sign-in or of a log-out with the same answer.
def throughout (index : Nat) (segments : Nat) (reply : Reply) : List Action :=
  List.replicate segments (.advance index (at0 reply))

def inTurn : List Action :=
  let answered := Reply.success (some renewed)
  [.arrive signInAgain (at0 answered)] ++ throughout 0 4 answered ++
    [.arrive .refreshTokens (at0 answered)] ++ throughout 1 1 answered ++ throughout 2 3 answered ++
    throughout 1 1 answered ++ [.arrive .logOut (at0 answered)] ++ throughout 3 5 answered

theorem sessions_held_in_turn :
    SessionHeld phone ((client phone).run (start (opened signedIn)) inTurn) :=
  sessions_held phone signedIn inTurn (by decide)

-- The refresh is sent before the log-out and answered after it.
def lateAnswer : List Action :=
  let answered := Reply.success (some renewed)
  [.arrive .refreshTokens (at0 answered)] ++ throughout 0 1 answered ++ throughout 1 1 answered ++
    [.arrive .logOut (at0 answered)] ++ throughout 2 5 answered ++ throughout 1 2 answered

def clearedThenRenewed : State := (client phone).run (start (opened signedIn)) lateAnswer

theorem sessions_lost : ¬ ∀ (device : Device) (store : AuthStore) (schedule : List Action),
    SessionHeld device ((client device).run (start (opened store)) schedule) := by
  intro held
  have cleared : Cleared clearedThenRenewed.trace clearedThenRenewed.world.store :=
    (held phone signedIn lateAnswer).cleared
  have split := (List.take_append_drop 2 clearedThenRenewed.trace).symm
  rw [List.drop_eq_getElem_cons (show 2 < clearedThenRenewed.trace.length by decide)] at split
  have empty := cleared _ _ _ split (by decide) (by decide)
  exact absurd empty (by decide)

end Late
end TopInspect.ClientSessions
