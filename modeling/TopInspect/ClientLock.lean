import TopInspect.ClientSegments

/-! The refresh lock of the API client. refreshPromise is taken where a request
finds its access token stale and given back by each waiter that resumes, but
only past an await that did not throw: a refresh that fails keeps the lock. -/
namespace TopInspect.ClientLock

open Resumption
open AuthHandlers (truthy)
open ClientStore ClientApi ClientSegments
open Interleaving hiding Entry State Action Task

def Waits (task : Task) (promise : Nat) : Prop :=
  task.residual.awaiting.bind refreshAwaited = some promise

def urlSent : Query → Option String
  | .receive config => some config.url
  | .receiveAgain config => some config.url
  | _ => none

section Lock
variable (device : Device)

/-- The promise an entry put into the empty refreshPromise. -/
def taken (entry : Entry) : Option Nat :=
  match entry.before.refreshPromise with
  | some _ => none
  | none => (perform device entry.tick entry.query entry.before).2.refreshPromise

def lastTaken (trace : List Entry) : Option Nat := trace.findSome? (taken device)

def WasTaken (trace : List Entry) (promise : Nat) : Prop :=
  ∃ entry ∈ trace, taken device entry = some promise

/-- No POST /auth/token/refresh is in flight and every waiter of the last
refresh that took the lock has resumed. -/
structure Quiet (state : State) : Prop where
  answered : ∀ task ∈ state.tasks,
    task.residual.awaiting.bind urlSent ≠ some "/auth/token/refresh"
  resumed : ∀ promise, lastTaken device state.trace = some promise →
    ∀ task ∈ state.tasks, ¬ Waits task promise

/-- The lock is free, and the next request that needs a refresh while there is a
refresh token starts a new one and waits for it. -/
structure Released (state : State) : Prop where
  free : state.world.refreshPromise = none
  fresh : ∀ action entry refreshToken, (client device).upcoming state action = some entry →
    needsRefresh device entry.tick state.world entry.query = true →
    truthy state.world.store.refreshToken = some refreshToken →
    (client device).spawned entry.tick entry.query state.world =
        [.refreshCall state.world.promises.length refreshToken] ∧
      ∃ task, ((client device).step state action).tasks[entry.task]? = some task ∧
        Waits task state.world.promises.length

end Lock

/-! What the programs guarantee as long as the lock is in order. -/
section Programs
variable (device : Device)

theorem leads_intercepted (config : Config) : Leads handover (intercepted config) := by
  refine leads_call_bind _ _ (fun _ => rfl) ?_ ?_
  · intro answer tick follower led
    cases answer with
    | proceed sending => cases led
    | wait promise sending =>
        obtain rfl := Option.some.inj led
        rfl
  · intro answer
    cases answer with
    | proceed sending => exact leads_pure _
    | wait promise sending => exact leads_call _ fun _ => rfl

theorem leads_sent (config : Config) : Leads handover (sent config) :=
  leads_catch _ _ (leads_intercepted config) fun _ => leads_throw _

theorem leads_retried (config : Config) : Leads handover (retried config) :=
  leads_bind _ _ (leads_sent config) fun _ => leads_call _ fun _ => rfl

theorem leads_api (config : Config) : Leads handover (api config) := by
  refine leads_bind _ _ (leads_sent config) fun sending => ?_
  refine leads_call_bind _ _ (fun _ => rfl) ?_ ?_
  · intro answer tick follower led
    cases answer with
    | resolved data => cases led
    | expired promise sending =>
        obtain rfl := Option.some.inj led
        rfl
  · intro answer
    cases answer with
    | resolved data => exact leads_pure _
    | expired promise sending =>
        exact leads_bind _ _ (leads_call _ fun _ => rfl) fun _ => leads_retried _

theorem leads_outcome (config : Config) : Leads handover (outcomeOf config) :=
  leads_catch _ _ (leads_map _ (leads_api config)) fun _ => leads_pure _

theorem leads_operation (config : Config) (store : Option ResponseData → Client Result)
    (stores : ∀ data, Leads handover (store data)) : Leads handover (operation config store) := by
  refine leads_bind _ _ (leads_call _ fun _ => rfl) fun _ => ?_
  refine leads_catch _ _ (leads_bind _ _ (leads_api config) stores) fun thrown => ?_
  exact leads_bind _ _ (leads_call _ fun _ => rfl) fun _ => leads_throw _

theorem leads_log_out : Leads handover logOut := by
  refine leads_bind _ _ (leads_call _ fun _ => rfl) fun refreshToken => ?_
  refine leads_bind _ _ (leads_call _ fun _ => rfl) fun config => ?_
  cases config with
  | none => exact leads_pure _
  | some config =>
      exact leads_bind _ _ (leads_outcome config) fun _ => leads_call _ fun _ => rfl

theorem leads_program (request : Request) : Leads handover (program device request) := by
  have otp : ∀ data, Leads handover (keepOtp data) := fun data => leads_call _ fun _ => rfl
  have session : ∀ asks data, Leads handover (keepSession asks data) :=
    fun asks data => leads_call _ fun _ => rfl
  cases request with
  | call config => exact leads_map _ (leads_api config)
  | refreshTokens =>
      exact leads_map _ (leads_bind _ _ (leads_call _ fun _ => rfl) fun _ =>
        leads_call _ fun _ => rfl)
  | logOut => exact leads_map _ leads_log_out
  | sendOtp req => exact leads_operation _ _ otp
  | signUpWithPhone req => exact leads_operation _ _ (session _)
  | signInWithPhone req => exact leads_operation _ _ (session _)
  | signInWithGoogle idToken => exact leads_operation _ _ (session _)
  | signInWithApple idToken => exact leads_operation _ _ (session _)
  | signUpWithOAuth req => exact leads_operation _ _ (session _)
  | refreshCall promise refreshToken =>
      exact leads_map _ (leads_bind _ _ (leads_outcome _) fun _ => leads_call _ fun _ => rfl)

def Waiting (held : Nat → Prop) (query : Query) : Prop :=
  ∀ promise, refreshAwaited query = some promise → held promise

def Grants : (query : Query) → Except ErrorResponse query.Answer → Prop
  | .intercept _, result => ∃ intercepted, result = .ok intercepted
  | .resumeRequest _ _, result => ∃ config, result = .ok config
  | .resumeResponse _ _, result => ∃ config, result = .ok config
  | .receive _, result =>
      (∃ data, result = .ok (.resolved (some data))) ∨
        ∃ promise config, result = .ok (.expired promise config)
  | .receiveAgain _, result => ∃ data, result = .ok (some data)
  | _, _ => True

def Settles : Query → Prop
  | .finishRefresh _ outcome => ∃ data, outcome = .ok (some data)
  | _ => True

variable (held : Nat → Prop) (backed : Prop)

/-- What a program is told, `backed` when it is a refresh that holds the lock. -/
def Told (query : Query) (result : Except ErrorResponse query.Answer) : Prop :=
  (∀ follower, handover query result = some follower → Waiting held follower) ∧
    (backed → Grants query result)

def Asks (query : Query) : Prop := Waiting held query ∧ (backed → Settles query)

variable {held backed}

theorem asks_apart (query : Query) (idle : refreshAwaited query = none) (settles : Settles query) :
    Asks held backed query :=
  ⟨fun promise waits => by simp [idle] at waits, fun _ => settles⟩

theorem ensures_intercepted (config : Config) :
    Ensures (Told held backed) (Asks held backed) (intercepted config)
      fun result => backed → ∃ sending, result = .ok sending := by
  refine ensures_bind _ _ (ensures_call _ (asks_apart _ rfl trivial) fun result told => ?_)
  rcases result with error | (sending | ⟨promise, sending⟩)
  · intro live
    obtain ⟨answer, impossible⟩ := told.2 live
    cases impossible
  · exact ensures_pure _ fun _ => ⟨sending, rfl⟩
  · exact ensures_call _ ⟨told.1 _ rfl, fun _ => trivial⟩ fun result resumed => resumed.2

theorem ensures_sent (config : Config) :
    Ensures (Told held backed) (Asks held backed) (sent config)
      fun result => backed → ∃ sending, result = .ok sending := by
  refine ensures_catch _ _ (ensures_mono (ensures_intercepted config) ?_)
  rintro (error | sending) holds
  · refine ensures_throw _ fun live => ?_
    obtain ⟨answer, impossible⟩ := holds live
    cases impossible
  · exact holds

theorem ensures_retried (config : Config) :
    Ensures (Told held backed) (Asks held backed) (retried config)
      fun result => backed → ∃ data, result = .ok (some data) := by
  refine ensures_bind _ _ (ensures_mono (ensures_sent config) ?_)
  rintro (error | sending) holds
  · intro live
    obtain ⟨answer, impossible⟩ := holds live
    cases impossible
  · exact ensures_call _ (asks_apart _ rfl trivial) fun result told => told.2

theorem ensures_api (config : Config) :
    Ensures (Told held backed) (Asks held backed) (api config)
      fun result => backed → ∃ data, result = .ok (some data) := by
  refine ensures_bind _ _ (ensures_mono (ensures_sent config) ?_)
  rintro (error | sending) holds
  · intro live
    obtain ⟨answer, impossible⟩ := holds live
    cases impossible
  refine ensures_bind _ _ (ensures_call _ (asks_apart _ rfl trivial) fun result told => ?_)
  rcases result with error | (data | ⟨promise, sending⟩)
  · intro live
    rcases told.2 live with
      ⟨answer, impossible⟩ | ⟨promise, config, impossible⟩ <;> cases impossible
  · refine ensures_pure _ fun live => ?_
    rcases told.2 live with ⟨answer, same⟩ | ⟨promise, config, impossible⟩
    · cases same
      exact ⟨answer, rfl⟩
    · cases impossible
  · refine ensures_bind _ _
      (ensures_call _ ⟨told.1 _ rfl, fun _ => trivial⟩ fun result resumed => ?_)
    rcases result with error | sending
    · intro live
      obtain ⟨answer, impossible⟩ := resumed.2 live
      cases impossible
    · exact ensures_retried sending

theorem ensures_outcome (config : Config) :
    Ensures (Told held backed) (Asks held backed) (outcomeOf config)
      fun result => ∀ outcome, result = .ok outcome → backed →
      ∃ data, outcome = .ok (some data) := by
  refine ensures_catch _ _ (ensures_map _ (ensures_mono (ensures_api config) ?_))
  rintro (error | data) holds
  · refine ensures_pure _ ?_
    rintro outcome - live
    obtain ⟨data, impossible⟩ := holds live
    cases impossible
  · rintro outcome same live
    obtain ⟨answer, rfl⟩ : ∃ answer, data = some answer := by
      obtain ⟨answer, known⟩ := holds live
      exact ⟨answer, Except.ok.inj known⟩
    exact ⟨answer, (Except.ok.inj same).symm⟩

theorem ensures_refresh (promise : Nat) (refreshToken : String) :
    Ensures (Told held backed) (Asks held backed) (refreshCall promise refreshToken)
      fun _ => True := by
  refine ensures_bind _ _ (ensures_mono (ensures_outcome _) ?_)
  rintro (error | outcome) holds
  · trivial
  · refine ensures_call _ ⟨fun _ waits => (by cases waits), holds outcome rfl⟩ fun _ _ => trivial

theorem ensures_operation (config : Config) (store : Option ResponseData → Client Result)
    (stores : ∀ data, Ensures (Told held backed) (Asks held backed) (store data) fun _ => True) :
    Ensures (Told held backed) (Asks held backed) (operation config store) fun _ => True := by
  refine ensures_then _ _ (ensures_call _ (asks_apart _ rfl trivial) fun _ _ => trivial) fun _ => ?_
  refine ensures_catch _ _ (ensures_mono (ensures_then _ _ (ensures_api config) stores) ?_)
  rintro (thrown | result) -
  · exact ensures_then _ _ (ensures_call _ (asks_apart _ rfl trivial) fun _ _ => trivial)
      fun _ => ensures_throw _ trivial
  · trivial

theorem ensures_log_out :
    Ensures (Told held backed) (Asks held backed) logOut fun _ => True := by
  refine ensures_then _ _ (ensures_call _ (asks_apart _ rfl trivial) fun _ _ => trivial)
    fun refreshToken => ?_
  refine ensures_then _ _ (ensures_call _ (asks_apart _ rfl trivial) fun _ _ => trivial)
    fun config => ?_
  cases config with
  | none => exact ensures_pure _ trivial
  | some config =>
      exact ensures_then _ _ (ensures_outcome config) fun _ =>
        ensures_call _ (asks_apart _ rfl trivial) fun _ _ => trivial

theorem ensures_program (request : Request) :
    Ensures (Told held backed) (Asks held backed) (program device request) fun _ => True := by
  have otp : ∀ data, Ensures (Told held backed) (Asks held backed) (keepOtp data) fun _ => True :=
    fun data => ensures_call _ (asks_apart _ rfl trivial) fun _ _ => trivial
  have session : ∀ asks data, Ensures (Told held backed) (Asks held backed) (keepSession asks data)
      fun _ => True :=
    fun asks data => ensures_call _ (asks_apart _ rfl trivial) fun _ _ => trivial
  cases request with
  | call config => exact ensures_then _ _ (ensures_api config) fun _ => ensures_pure _ trivial
  | refreshTokens =>
      exact ensures_map _ (ensures_then _ _
        (ensures_call _ (asks_apart _ rfl trivial) fun _ _ => trivial) fun _ =>
          ensures_call _ (asks_apart _ rfl trivial) fun _ _ => trivial)
  | logOut => exact ensures_map _ ensures_log_out
  | sendOtp req => exact ensures_operation _ _ otp
  | signUpWithPhone req => exact ensures_operation _ _ (session _)
  | signInWithPhone req => exact ensures_operation _ _ (session _)
  | signInWithGoogle idToken => exact ensures_operation _ _ (session _)
  | signInWithApple idToken => exact ensures_operation _ _ (session _)
  | signUpWithOAuth req => exact ensures_operation _ _ (session _)
  | refreshCall promise refreshToken => exact ensures_map _ (ensures_refresh promise refreshToken)

end Programs

section Runs
variable (device : Device)

def ownPromise : Request → Option Nat
  | .refreshCall promise _ => some promise
  | _ => none

def Backed (trace : List Entry) (request : Request) : Prop :=
  ∃ promise ∈ ownPromise request, WasTaken device trace promise

/-- A reply that passes for an answer with a body. -/
def granted : Reply → Bool
  | .success data => data.isSome
  | .response _ (some body) => (truthy body.code).isNone && body.data.isSome
  | _ => false

-- An answer EXPIRED_TOKEN leaves the refresh waiting for itself.
def accepted (reply : Reply) : Query → Bool
  | .receive config => granted reply || (isExpired reply && !config.retry)
  | .receiveAgain _ => granted reply
  | _ => true

/-- Every refresh that takes the lock finds a refresh token and is answered with
a body. -/
def RefreshesSucceed (state : State) (action : Action) : Prop :=
  ∀ entry ∈ (client device).upcoming state action,
    (taken device entry ≠ none → truthy entry.before.store.refreshToken ≠ none) ∧
      (Backed device state.trace entry.request →
        accepted entry.tick.reply entry.query = true)

instance (trace : List Entry) (promise : Nat) : Decidable (WasTaken device trace promise) :=
  inferInstanceAs (Decidable (∃ entry ∈ trace, taken device entry = some promise))

instance (trace : List Entry) (request : Request) : Decidable (Backed device trace request) :=
  inferInstanceAs (Decidable (∃ promise ∈ ownPromise request, WasTaken device trace promise))

instance (state : State) (action : Action) : Decidable (RefreshesSucceed device state action) :=
  inferInstanceAs (Decidable (∀ entry ∈ (client device).upcoming state action,
    (taken device entry ≠ none → truthy entry.before.store.refreshToken ≠ none) ∧
      (Backed device state.trace entry.request → accepted entry.tick.reply entry.query = true)))

variable {device}

theorem taken_fresh (entry : Entry) (promise : Nat) (took : taken device entry = some promise) :
    promise = entry.before.promises.length ∧ ∃ settlement,
      (perform device entry.tick entry.query entry.before).2.promises =
        entry.before.promises ++ [settlement] ∧
      (truthy entry.before.store.refreshToken ≠ none → settlement = .pending) := by
  unfold taken at took
  split at took
  · cases took
  · next free =>
      cases lock_step device entry.tick entry.query entry.before with
      | joined other follower held => simp [free] at held
      | took follower settlement free leads waits idle locked grown pending =>
          refine ⟨Option.some.inj (took.symm.trans locked), settlement, grown, fun pays => ?_⟩
          obtain ⟨refreshToken, token⟩ := Option.ne_none_iff_exists'.mp pays
          exact (pending refreshToken token).1
      | resumed other waits leads freed => simp [freed] at took
      | failed other error waits rejected leads same => simp [same, free] at took
      | settled other outcome settlement finishes kept => simp [kept, free] at took
      | called settlement calls kept => simp [kept, free] at took
      | apart leads idle kept => simp [kept, free] at took

theorem last_taken (trace : List Entry) (promise : Nat)
    (last : lastTaken device trace = some promise) : WasTaken device trace promise := by
  obtain ⟨entry, member, took⟩ := List.exists_of_findSome?_eq_some last
  exact ⟨entry, member, took⟩

theorem was_taken_cons (entry : Entry) (trace : List Entry) (promise : Nat) :
    WasTaken device (entry :: trace) promise ↔
      taken device entry = some promise ∨ WasTaken device trace promise := by
  simp [WasTaken]

theorem grows_promises (tick : Tick) (query : Query) (world : World) :
    world.promises.length ≤ (perform device tick query world).2.promises.length := by
  cases lock_step device tick query world with
  | joined promise follower held leads waits idle same => exact Nat.le_of_eq (by rw [same])
  | took follower settlement free leads waits idle locked grown => simp [grown]
  | resumed promise waits leads freed same => exact Nat.le_of_eq (by rw [same])
  | failed promise error waits rejected leads same => exact Nat.le_of_eq (by rw [same])
  | settled promise outcome settlement finishes kept settles => simp [settles]
  | called settlement calls kept grown => simp [grown]
  | apart leads idle kept same => exact Nat.le_of_eq (by rw [same])

/-- The lock is held for a refresh that someone waits for and that has not
failed, and every refresh behind it was answered. -/
structure Locked (device : Device) (state : State) : Prop where
  held : ∀ promise, state.world.refreshPromise = some promise →
    lastTaken device state.trace = some promise ∧ ∃ task ∈ state.tasks, Waits task promise
  sound : ∀ promise, WasTaken device state.trace promise →
    promise < state.world.promises.length ∧
      ∀ error, state.world.promises[promise]? ≠ some (.rejected error)
  fresh : ∀ task ∈ state.tasks, ∀ promise ∈ ownPromise task.request,
    promise < state.world.promises.length
  told : ∀ entry ∈ state.trace,
    Told (WasTaken device state.trace) (Backed device state.trace entry.request) entry.query
      (perform device entry.tick entry.query entry.before).1

theorem locked_start (store : AuthStore) : Locked device (start (opened store)) where
  held := by simp [start, opened]
  sound := by simp [start, WasTaken]
  fresh := by simp [start]
  told := by simp [start]

theorem locked_asks (state : State) (coherent : (client device).Coherent state)
    (locked : Locked device state) (index : Nat) (task : Task) (query : Query)
    (present : state.tasks[index]? = some task) (awaits : task.residual.awaiting = some query) :
    Asks (WasTaken device state.trace) (Backed device state.trace task.request) query := by
  refine Machine.awaits_ensured _ _ _ state coherent index task query
    (ensures_program device task.request) ?_ present awaits
  intro entry member _ same
  exact same ▸ locked.told entry member

theorem backed_earlier (entry : Entry) (trace : List Entry) (request : Request)
    (known : ∀ promise ∈ ownPromise request, promise < entry.before.promises.length)
    (backed : Backed device (entry :: trace) request) : Backed device trace request := by
  obtain ⟨promise, own, taken⟩ := backed
  rcases (was_taken_cons entry trace promise).mp taken with now | earlier
  · obtain ⟨rfl, -⟩ := taken_fresh entry promise now
    exact absurd (known _ own) (Nat.lt_irrefl _)
  · exact ⟨promise, own, earlier⟩

theorem told_mono (entry : Entry) (trace : List Entry) (request : Request) (query : Query)
    (result : Except ErrorResponse query.Answer)
    (known : ∀ promise ∈ ownPromise request, promise < entry.before.promises.length)
    (told : Told (WasTaken device trace) (Backed device trace request) query result) :
    Told (WasTaken device (entry :: trace)) (Backed device (entry :: trace) request) query
      result := by
  refine ⟨fun follower led promise waits => ?_, fun backed => ?_⟩
  · exact (was_taken_cons entry trace promise).mpr (Or.inr (told.1 follower led promise waits))
  · exact told.2 (backed_earlier entry trace request known backed)

theorem receive_granted (reply : Reply) (world : World) (grants : granted reply = true) :
    ∃ data, (receiveAgain reply world).outcome = .ok (some data) := by
  rcases reply with data | ⟨status, body⟩ | code
  · obtain ⟨data, rfl⟩ := Option.isSome_iff_exists.mp grants
    exact ⟨data, rfl⟩
  · cases body with
    | none => cases grants
    | some body =>
        simp only [granted, Bool.and_eq_true] at grants
        obtain ⟨data, known⟩ := Option.isSome_iff_exists.mp grants.2
        exact ⟨data, by simp [receiveAgain, refuse, deliver, grants.1, known]⟩
  · cases grants

theorem grants_accepted (tick : Tick) (query : Query) (world : World)
    (answered : accepted tick.reply query = true)
    (sound : ∀ promise, refreshAwaited query = some promise →
      ∀ error, world.promises[promise]? ≠ some (.rejected error)) :
    Grants query (perform device tick query world).1 := by
  cases query with
  | intercept config =>
      rcases intercept_lock device tick config world with
        ⟨-, url, shape⟩ | ⟨-, sending, started, -, shape⟩
      · cases held : world.refreshPromise with
        | some promise =>
            exact ⟨.wait promise { config with url },
              by simp [perform, shape, Segment.map, lock_held world promise held, Except.map]⟩
        | none =>
            obtain ⟨settlement, outcome, -⟩ := lock_free world held
            exact ⟨.wait world.promises.length { config with url },
              by simp [perform, shape, Segment.map, outcome, Except.map]⟩
      · exact ⟨.proceed sending, by simp [perform, shape]⟩
  | receive config =>
      rcases receive_lock device tick config world with ⟨-, shape⟩ | ⟨plain, shape⟩
      · cases held : world.refreshPromise with
        | some promise =>
            exact Or.inr ⟨promise, { config with retry := true },
              by simp [perform, shape, Segment.map, lock_held world promise held, Except.map]⟩
        | none =>
            obtain ⟨settlement, outcome, -⟩ := lock_free world held
            exact Or.inr ⟨world.promises.length, { config with retry := true },
              by simp [perform, shape, Segment.map, outcome, Except.map]⟩
      · have grants : granted tick.reply = true := by
          simpa [accepted, show (isExpired tick.reply && !config.retry) = false from plain]
            using answered
        obtain ⟨data, outcome⟩ := receive_granted tick.reply world grants
        exact Or.inl ⟨data, by simp [perform, shape, Segment.map, outcome, Except.map]⟩
  | receiveAgain config => exact receive_granted tick.reply world answered
  | resumeRequest promise config =>
      rcases resume_cases promise config world with ⟨error, rejected, -⟩ | ⟨-, sending, shape⟩
      · exact absurd rejected (sound promise rfl error)
      · exact ⟨sending, by simp [perform, segmentOf, shape]⟩
  | resumeResponse promise config =>
      rcases resume_cases promise config world with ⟨error, rejected, -⟩ | ⟨-, sending, shape⟩
      · exact absurd rejected (sound promise rfl error)
      · exact ⟨sending, by simp [perform, segmentOf, shape]⟩
  | _ => trivial

theorem answer_waits (state : State) (coherent : (client device).Coherent state) (index : Nat)
    (tick : Tick) (task : Task) (query follower : Query) (promise : Nat)
    (resume : Except ErrorResponse query.Answer → Tick →
      Residual Query Query.Answer ErrorResponse Tick Result)
    (present : state.tasks[index]? = some task) (awaits : task.residual = .await query resume)
    (led : handover query (perform device tick query state.world).1 = some follower)
    (waits : refreshAwaited follower = some promise) :
    ∃ later, ((client device).answer state index task query resume tick).tasks[index]? =
      some later ∧
      Waits later promise := by
  have stands := Machine.answer_leads handover state coherent index tick task query follower resume
    (leads_program device task.request) present awaits led
  refine ⟨_, (client device).answer_task_own state index task query resume tick present, ?_⟩
  simpa [Waits, stands] using waits

theorem still_waits (state : State) (index : Nat) (tick : Tick) (task : Task) (query : Query)
    (resume : Except ErrorResponse query.Answer → Tick →
      Residual Query Query.Answer ErrorResponse Tick Result)
    (present : state.tasks[index]? = some task) (awaits : task.residual = .await query resume)
    (promise : Nat) (idle : refreshAwaited query = none)
    (waiter : ∃ other ∈ state.tasks, Waits other promise) :
    ∃ other ∈ ((client device).answer state index task query resume tick).tasks,
      Waits other promise := by
  obtain ⟨other, member, waits⟩ := waiter
  obtain ⟨place, inside, rfl⟩ := List.getElem_of_mem member
  have found := List.getElem?_eq_getElem inside
  by_cases own : place = index
  · subst own
    obtain rfl := Option.some.inj (found.symm.trans present)
    simp [Waits, awaits, Residual.awaiting, idle] at waits
  · have later := (client device).answer_task_other state index task query resume
      tick place _ found own
    exact ⟨_, List.mem_of_getElem? later, waits⟩

section Answers
variable (state : State) (coherent : (client device).Coherent state)
  (locked : Locked device state) (index : Nat) (tick : Tick) (task : Task) (query : Query)
  (resume : Except ErrorResponse query.Answer → Tick →
    Residual Query Query.Answer ErrorResponse Tick Result)
  (present : state.tasks[index]? = some task) (awaits : task.residual = .await query resume)

def entryOf (state : State) (index : Nat) (tick : Tick) (task : Task) (query : Query) : Entry :=
  { query, tick, before := state.world, task := index, request := task.request, born := task.born }

include coherent locked present awaits

theorem answered_asks :
    Asks (WasTaken device state.trace) (Backed device state.trace task.request) query :=
  locked_asks state coherent locked index task query present (by rw [awaits]; rfl)

theorem waits_sound (promise : Nat) (waits : refreshAwaited query = some promise) :
    ∀ error, state.world.promises[promise]? ≠ some (.rejected error) :=
  (locked.sound promise ((answered_asks state coherent locked index task query resume present
    awaits).1 promise waits)).2

theorem held_answered :
    ∀ promise, (perform device tick query state.world).2.refreshPromise = some promise →
      lastTaken device (entryOf state index tick task query :: state.trace) = some promise ∧
        ∃ other ∈ ((client device).answer state index task query resume tick).tasks,
          Waits other promise := by
  intro promise after
  let entry := entryOf state index tick task query
  -- Until the lock is taken or given back, the promise and its waiter stay.
  have older (kept : state.world.refreshPromise = some promise) :
      lastTaken device (entry :: state.trace) = some promise := by
    simpa [lastTaken, taken, entry, entryOf, kept] using (locked.held promise kept).1
  have apart (idle : refreshAwaited query = none)
      (kept : (perform device tick query state.world).2.refreshPromise =
        state.world.refreshPromise) :
      lastTaken device (entry :: state.trace) = some promise ∧
        ∃ other ∈ ((client device).answer state index task query resume tick).tasks,
          Waits other promise := by
    rw [kept] at after
    exact ⟨older after, still_waits state index tick task query resume present awaits promise idle
      (locked.held promise after).2⟩
  cases lock_step device tick query state.world with
  | joined other follower held leads waits idle same => exact apart idle (by rw [same])
  | took follower settlement free leads waits idle now =>
      obtain rfl := Option.some.inj (now.symm.trans after)
      refine ⟨?_, ?_⟩
      · simp [lastTaken, taken, entryOf, free, now]
      · obtain ⟨later, found, stands⟩ :=
          answer_waits state coherent index tick task query follower _
          resume present awaits leads waits
        exact ⟨later, List.mem_of_getElem? found, stands⟩
  | resumed other waits leads freed => simp [freed] at after
  | failed other error waits rejected =>
      exact absurd rejected (waits_sound state coherent locked index task query resume present
        awaits other waits error)
  | settled other outcome settlement finishes kept => exact apart (by rw [finishes]; rfl) kept
  | called settlement calls kept => exact apart (by rw [calls]; rfl) kept
  | apart leads idle kept => exact apart idle kept

theorem sound_answered
    (pays : taken device (entryOf state index tick task query) ≠ none →
      truthy state.world.store.refreshToken ≠ none) :
    ∀ promise, WasTaken device (entryOf state index tick task query :: state.trace) promise →
      promise < (perform device tick query state.world).2.promises.length ∧
        ∀ error, (perform device tick query state.world).2.promises[promise]? ≠
          some (.rejected error) := by
  intro promise was
  have asks := answered_asks state coherent locked index task query resume present awaits
  have belongs := task_belongs device state coherent index task query present (by rw [awaits]; rfl)
  rcases (was_taken_cons _ _ _).mp was with now | earlier
  · -- The lock was taken for a refresh that has a token to send.
    obtain ⟨rfl, settlement, grown, pending⟩ := taken_fresh _ _ now
    obtain rfl := pending (pays (by simp [now]))
    have grown : (perform device tick query state.world).2.promises =
        state.world.promises ++ [.pending] := grown
    simp [grown, entryOf]
  · obtain ⟨inside, sound⟩ := locked.sound promise earlier
    refine ⟨Nat.lt_of_lt_of_le inside (grows_promises tick query state.world), fun error => ?_⟩
    cases lock_step device tick query state.world with
    | joined other follower held leads waits idle same => rw [same]; exact sound error
    | took follower settlement free leads waits idle locked grown =>
        rw [grown, List.getElem?_append_left inside]
        exact sound error
    | resumed other waits leads freed same => rw [same]; exact sound error
    | failed other thrown waits rejected leads same => rw [same]; exact sound error
    | settled other outcome settlement finishes kept settles granted =>
        rw [settles, List.getElem?_set]
        split
        · next same =>
            subst same finishes
            obtain ⟨refreshToken, request⟩ := belongs
            have backed : Backed device state.trace task.request :=
              ⟨other, by simp [request, ownPromise], earlier⟩
            obtain ⟨data, answered⟩ := asks.2 backed
            simp [granted data answered, inside]
        · exact sound error
    | called settlement calls kept grown =>
        rw [grown, List.getElem?_append_left inside]
        exact sound error
    | apart leads idle kept same => rw [same]; exact sound error

omit coherent awaits in
theorem fresh_answered :
    ∀ other ∈ ((client device).answer state index task query resume tick).tasks,
      ∀ promise ∈ ownPromise other.request,
        promise < (perform device tick query state.world).2.promises.length := by
  intro other member promise own
  obtain ⟨place, inside, same⟩ := List.getElem_of_mem member
  have lookup := (List.getElem?_eq_getElem inside).trans (congrArg some same)
  rcases (client device).answer_tasks state index task query resume tick present
    place other lookup with ⟨-, rfl⟩ | ⟨-, old⟩ | ⟨-, request, started, rfl⟩
  · exact Nat.lt_of_lt_of_le (locked.fresh task (List.mem_of_getElem? present) promise own)
      (grows_promises tick query state.world)
  · exact Nat.lt_of_lt_of_le (locked.fresh other (List.mem_of_getElem? old) promise own)
      (grows_promises tick query state.world)
  · rcases spawned_cases device tick query state.world request started with
      rfl | ⟨-, grown, refreshToken, rfl, -⟩
    · cases own
    · obtain rfl := Option.some.inj own
      simp [grown]

theorem told_answered
    (answers : Backed device state.trace task.request → accepted tick.reply query = true) :
    ∀ entry ∈ entryOf state index tick task query :: state.trace,
      Told (WasTaken device (entryOf state index tick task query :: state.trace))
        (Backed device (entryOf state index tick task query :: state.trace) entry.request)
        entry.query (perform device entry.tick entry.query entry.before).1 := by
  intro entry member
  rcases List.mem_cons.mp member with rfl | old
  -- Whoever is led to wait by this segment waits for a refresh that was taken.
  · refine ⟨fun follower led promise waits => ?_, fun backed => ?_⟩
    · refine (was_taken_cons _ _ _).mpr ?_
      have led : handover query (perform device tick query state.world).1 = some follower := led
      cases lock_step device tick query state.world with
      | joined other next held leads stands =>
          obtain rfl := Option.some.inj (leads.symm.trans led)
          obtain rfl := Option.some.inj (stands.symm.trans waits)
          exact Or.inr (last_taken _ _ (locked.held other held).1)
      | took next settlement free leads stands idle now =>
          obtain rfl := Option.some.inj (leads.symm.trans led)
          refine Or.inl ?_
          simp only [taken, entryOf, free]
          exact now.trans (stands.symm.trans waits)
      | resumed other stands leads => simp [leads] at led
      | failed other error stands rejected leads => simp [leads] at led
      | settled other outcome settlement finishes =>
          subst finishes
          cases led
      | called settlement calls =>
          subst calls
          cases led
      | apart leads => simp [leads] at led
    · have earlier := backed_earlier _ _ _
        (locked.fresh task (List.mem_of_getElem? present)) backed
      exact grants_accepted tick query state.world (answers earlier)
        (waits_sound state coherent locked index task query resume present awaits)
  · obtain ⟨owner, found, same, -⟩ := coherent.owner entry old
    exact told_mono _ _ _ _ _
      (same ▸ locked.fresh owner (List.mem_of_getElem? found)) (locked.told entry old)

end Answers

theorem locked_step (state : State) (action : Action) (coherent : (client device).Coherent state)
    (locked : Locked device state) (succeeds : RefreshesSucceed device state action) :
    Locked device ((client device).step state action) := by
  have transition := (client device).step_transition state action
  generalize stepped : (client device).step state action = after at transition ⊢
  cases transition with
  | idle => exact locked
  | arrived request tick external =>
      refine ⟨fun promise held => ?_, locked.sound, fun task member promise own => ?_, locked.told⟩
      · obtain ⟨last, task, member, waits⟩ := locked.held promise held
        exact ⟨last, task, List.mem_append_left _ member, waits⟩
      · rcases List.mem_append.mp member with old | new
        · exact locked.fresh task old promise own
        · obtain rfl := List.mem_singleton.mp new
          cases request with
          | refreshCall promise refreshToken => cases external
          | _ => cases own
  | answered index tick task query resume present awaits ready =>
      obtain ⟨pays, answers⟩ := succeeds _ (Machine.upcoming_answered _ state index tick task query
        resume present awaits ready)
      exact ⟨held_answered state coherent locked index tick task query resume present awaits,
        sound_answered state coherent locked index tick task query resume present awaits pays,
        fresh_answered state locked index tick task query resume present,
        told_answered state coherent locked index tick task query resume present awaits answers⟩

theorem locked_run (store : AuthStore) (schedule : List Action)
    (guarded : (client device).Guarded (RefreshesSucceed device) (start (opened store)) schedule) :
    Locked device ((client device).run (start (opened store)) schedule) :=
  ((client device).guarded_run _ (fun state => (client device).Coherent state ∧ Locked device state)
    (fun state action both succeeds => ⟨Machine.coherent_step state action both.1,
      locked_step state action both.1 both.2 succeeds⟩)
    _ schedule ⟨(client device).coherent_start _, locked_start store⟩ guarded).2

/-- With the lock free, what needs a refresh starts one and is handed over to it. -/
theorem free_starts (tick : Tick) (query : Query) (world : World) (refreshToken : String)
    (free : world.refreshPromise = none) (needs : needsRefresh device tick world query = true)
    (token : truthy world.store.refreshToken = some refreshToken) :
    spawned device tick query world = [.refreshCall world.promises.length refreshToken] ∧
      ∃ follower, handover query (perform device tick query world).1 = some follower ∧
        refreshAwaited follower = some world.promises.length := by
  obtain ⟨settlement, outcome, -, -, pending⟩ := lock_free world free
  have started := (pending refreshToken token).2
  cases query with
  | intercept config =>
      rcases intercept_lock device tick config world with ⟨-, url, shape⟩ | ⟨plain, -⟩
      · exact ⟨by simp [spawned, shape, Segment.map, started],
          .resumeRequest world.promises.length { config with url },
          by simp [perform, shape, Segment.map, outcome, Except.map, handover], rfl⟩
      · simp [plain] at needs
  | receive config =>
      rcases receive_lock device tick config world with ⟨-, shape⟩ | ⟨plain, -⟩
      · exact ⟨by simp [spawned, shape, Segment.map, started],
          .resumeResponse world.promises.length { config with retry := true },
          by simp [perform, shape, Segment.map, outcome, Except.map, handover], rfl⟩
      · simp [plain] at needs
  | _ => cases needs

theorem released_of_locked (state : State) (coherent : (client device).Coherent state)
    (locked : Locked device state) (quiet : Quiet device state) : Released device state := by
  have free : state.world.refreshPromise = none := by
    cases held : state.world.refreshPromise with
    | none => rfl
    | some promise =>
        obtain ⟨last, task, member, waits⟩ := locked.held promise held
        exact absurd waits (quiet.resumed promise last task member)
  refine ⟨free, fun action entry refreshToken comes needs token => ?_⟩
  obtain ⟨starts, follower, led, waits⟩ :=
    free_starts entry.tick entry.query state.world refreshToken free needs token
  refine ⟨starts, ?_⟩
  obtain ⟨task, resume, present, awaits, -, stepped⟩ :=
    (client device).upcoming_step state action entry comes
  rw [stepped]
  exact answer_waits state coherent entry.task entry.tick task entry.query follower _ resume present
    awaits led waits

theorem lock_released (device : Device) (store : AuthStore) (schedule : List Action)
    (guarded : (client device).Guarded (RefreshesSucceed device) (start (opened store)) schedule)
    (quiet : Quiet device ((client device).run (start (opened store)) schedule)) :
    Released device ((client device).run (start (opened store)) schedule) :=
  released_of_locked _ (Machine.coherent_run _ schedule ((client device).coherent_start _))
    (locked_run store schedule guarded) quiet

end Runs

/-! A private request whose access token is stale. -/
section Stale

def profile : Request := .call (.post "~/users/me" (.app ""))

def refreshing (reply : Reply) : List Action :=
  let quiet := at0 (.success none)
  [.arrive profile quiet, .advance 0 quiet, .advance 1 quiet, .advance 1 (at0 reply),
    .advance 1 quiet, .advance 0 quiet, .advance 0 quiet]

instance (task : Task) (promise : Nat) : Decidable (Waits task promise) :=
  inferInstanceAs (Decidable (task.residual.awaiting.bind refreshAwaited = some promise))

instance (device : Device) (state : State) : Decidable (Quiet device state) :=
  decidable_of_iff
    ((∀ task ∈ state.tasks, task.residual.awaiting.bind urlSent ≠ some "/auth/token/refresh") ∧
      ∀ promise ∈ lastTaken device state.trace, ∀ task ∈ state.tasks, ¬ Waits task promise)
    ⟨fun both => ⟨both.1, both.2⟩, fun quiet => ⟨quiet.answered, quiet.resumed⟩⟩

theorem lock_released_refreshed :
    Released phone ((client phone).run (start (opened signedIn))
      (refreshing (.success (some renewed)))) :=
  lock_released phone signedIn (refreshing (.success (some renewed))) (by decide)
    (by decide)

theorem lock_kept : ¬ ∀ (device : Device) (store : AuthStore) (schedule : List Action),
    Quiet device ((client device).run (start (opened store)) schedule) →
      Released device ((client device).run (start (opened store)) schedule) := by
  intro released
  have quiet : Quiet phone ((client phone).run (start (opened signedIn))
      (refreshing (.failure (some "ERR_NETWORK")))) := by decide
  have kept : ((client phone).run (start (opened signedIn))
      (refreshing (.failure (some "ERR_NETWORK")))).world.refreshPromise = some 0 := by decide
  exact absurd ((released phone signedIn _ quiet).free.symm.trans kept) (by decide)

end Stale
end TopInspect.ClientLock
