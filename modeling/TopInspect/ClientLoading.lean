import TopInspect.ClientPromises
import TopInspect.ClientSessions

/-! The loading flag of the client store. Every operation sets it on entry and clears it
on its exits, but for a refresh that succeeds, which leaves it as it is. -/
namespace TopInspect.ClientLoading

open Resumption
open AuthHandlers (truthy)
open ClientStore ClientApi ClientSegments ClientPromises
open ClientSessions (renews signInAgain throughout)
open Interleaving hiding Entry State Action Task

/-- The operations that set the flag; refreshTokens is run by its refreshCall. -/
def setsFlag : Request → Bool
  | .call _ => false
  | .refreshTokens => false
  | _ => true

/-- The operations the app can wait for: sendOtp, the sign-ins and sign-ups, refreshTokens
and logOut. -/
def isOperation : Request → Bool
  | .call _ => false
  | _ => true

def Pending (task : Task) : Prop := task.residual.awaiting ≠ none

instance (task : Task) : Decidable (Pending task) := inferInstanceAs (Decidable (_ ≠ none))

def Idle (state : State) : Prop :=
  ∀ task ∈ state.tasks, isOperation task.request = true → ¬ Pending task

section Loading
variable (device : Device)

/-- When a refresh succeeds, another operation that sets the flag is pending. -/
def FlagOwned (state : State) (action : Action) : Prop :=
  ∀ entry ∈ (client device).upcoming state action, renews entry.query = true →
    ∃ task ∈ state.tasks.eraseIdx entry.task, setsFlag task.request = true ∧ Pending task

instance (state : State) (action : Action) : Decidable (FlagOwned device state action) :=
  inferInstanceAs (Decidable (∀ entry ∈ (client device).upcoming state action, _ → _))

/-- While the flag is set, an operation is pending that will clear it. -/
def Flagged (state : State) : Prop :=
  state.world.store.isLoading = true →
    ∃ task ∈ state.tasks, setsFlag task.request = true ∧ Pending task

end Loading

/-! The last answers of the operations. -/
section Programs

/-- The answers after which an operation may be over. -/
def lowers : (query : Query) → Except ErrorResponse query.Answer → Prop
  | .storeSession _ _, .ok _ => True
  | .storeOtp _, .ok _ => True
  | .setErrorState _, _ => True
  | .finishRefresh _ _, _ => True
  | .clearAll, _ => True
  | .googleSignedOut _, .ok none => True
  | .googleSignedOut _, .error _ => True
  | .beginLoading, .error _ => True
  | .startLogOut, .error _ => True
  | _, _ => False

def thrownOn (thrown : ErrorResponse) : Client Result := do
  let error ← call (Query.setErrorState thrown)
  throw error

theorem thrown_ends (thrown : ErrorResponse) : EndsBy lowers (thrownOn thrown) :=
  ends_call_bind (Query.setErrorState thrown) _ (fun _ => trivial) (fun _ _ _ => trivial)
    fun _ _ => trivial

theorem operation_ends (config : Config) (store : Option ResponseData → Client Result)
    (stores : ∀ data tick, (((store data tick).catchAt thrownOn tick).awaiting ≠ none ∧
      ((store data tick).catchAt thrownOn tick).EndsBy lowers)) :
    EndsBy lowers (operation config store) := by
  have rest := fun tick => ends_wrapped
    (fun residual now => (residual.bindAt store now).catchAt thrownOn now) (fun _ _ _ => rfl) stores
    (fun error now => ⟨nofun, thrown_ends error now⟩) (api config tick) tick
  refine ends_call_bind Query.beginLoading _ (fun _ => trivial) ?_ ?_
  · exact fun _ tick settled => absurd settled (rest tick).1
  · exact fun _ tick => (rest tick).2

theorem store_ends (query : Query) (handler : ErrorResponse → Client query.Answer)
    (closing : ∀ answer, lowers query (.ok answer))
    (handles : ∀ error tick, (handler error tick).awaiting ≠ none ∧
      (handler error tick).EndsBy lowers) (tick : Tick) :
    ((call query tick).catchAt handler tick).awaiting ≠ none ∧
      ((call query tick).catchAt handler tick).EndsBy lowers := by
  refine ⟨nofun, fun result now => ?_⟩
  cases result with
  | ok answer => exact ⟨fun _ => closing answer, trivial⟩
  | error error =>
      obtain ⟨awaits, ends⟩ := handles error now
      exact ⟨fun settled => absurd settled awaits, ends⟩

theorem outcome_ends {α : Type} (config : Config)
    (last : Except ErrorResponse (Option ResponseData) → Client α)
    (awaits : ∀ outcome tick, (last outcome tick).awaiting ≠ none)
    (ends : ∀ outcome, EndsBy lowers (last outcome)) (tick : Tick) :
    ((outcomeOf config >>= last) tick).awaiting ≠ none ∧
      ((outcomeOf config >>= last) tick).EndsBy lowers :=
  ends_wrapped (fun residual now =>
    ((residual.bindAt (fun value => pure (Except.ok value)) now).catchAt
      (fun error => pure (Except.error error)) now).bindAt last now) (fun _ _ _ => rfl)
    (fun _ now => ⟨awaits _ now, ends _ now⟩) (fun _ now => ⟨awaits _ now, ends _ now⟩) _ tick

theorem log_out_ends : EndsBy lowers logOut := by
  have cleared := fun config =>
    outcome_ends config (fun _ => call Query.clearAll) (fun _ _ => nofun)
    fun _ => ends_call Query.clearAll fun _ => trivial
  refine ends_call_bind Query.startLogOut _ (fun _ => trivial) (fun _ _ => nofun)
    fun refreshToken => ?_
  refine ends_call_bind (Query.googleSignedOut refreshToken) _ (fun _ => trivial) ?_ ?_
  · rintro (_ | config) tick settled
    · trivial
    · exact absurd settled (cleared config tick).1
  · rintro (_ | config)
    · exact fun _ => trivial
    · exact fun tick => (cleared config tick).2

theorem program_ends (device : Device) (request : Request) (sets : setsFlag request = true) :
    EndsBy lowers (program device request) := by
  -- Each operation ends in storing what has come, or the error that was thrown on the way.
  have otp : ∀ data tick, (((keepOtp data tick).catchAt thrownOn tick).awaiting ≠ none ∧
      ((keepOtp data tick).catchAt thrownOn tick).EndsBy lowers) := fun data =>
    store_ends (.storeOtp data) thrownOn (fun _ => trivial) fun error now =>
      ⟨nofun, thrown_ends error now⟩
  have session : ∀ asks data tick,
    (((keepSession asks data tick).catchAt thrownOn tick).awaiting ≠ none ∧
      ((keepSession asks data tick).catchAt thrownOn tick).EndsBy lowers) := fun asks data =>
    store_ends (.storeSession asks data) thrownOn (fun _ => trivial)
      fun error now => ⟨nofun, thrown_ends error now⟩
  cases request with
  | call config => cases sets
  | refreshTokens => cases sets
  | logOut => exact ends_map _ log_out_ends
  | sendOtp req => exact operation_ends _ _ otp
  | signUpWithPhone req => exact operation_ends _ _ (session _)
  | signInWithPhone req => exact operation_ends _ _ (session _)
  | signInWithGoogle idToken => exact operation_ends _ _ (session _)
  | signInWithApple idToken => exact operation_ends _ _ (session _)
  | signUpWithOAuth req => exact operation_ends _ _ (session _)
  | refreshCall promise refreshToken =>
      let last (outcome : Except ErrorResponse (Option ResponseData)) : Client Unit :=
        call (Query.finishRefresh promise outcome)
      have awaits : ∀ outcome tick, (last outcome tick).awaiting ≠ none :=
        fun _ _ => Option.some_ne_none _
      have ends : ∀ outcome, EndsBy lowers (last outcome) := fun outcome =>
        ends_call (Query.finishRefresh promise outcome) fun _ => trivial
      exact ends_map _ fun tick =>
        (outcome_ends (refreshConfig refreshToken) last awaits ends tick).2

end Programs

/-! What the segments do to the flag. -/
section Segments
variable (device : Device)

def raises : Query → Bool
  | .beginLoading => true
  | .googleSignedOut refreshToken => (truthy refreshToken).isSome
  | _ => false

theorem start_flag (world : World) (flagged : (startRefresh world).world.store.isLoading = true) :
    ∃ refreshToken, Request.refreshCall world.promises.length refreshToken ∈
      (startRefresh world).started := by
  unfold startRefresh at flagged ⊢
  split at flagged
  · cases flagged
  · next refreshToken token => exact ⟨refreshToken, by simp⟩

theorem lock_flag (world : World) (flagged : (takeLock world).world.store.isLoading = true) :
    world.store.isLoading = true ∨ ∃ promise refreshToken,
      Request.refreshCall promise refreshToken ∈ (takeLock world).started := by
  unfold takeLock at flagged ⊢
  split at flagged
  · exact Or.inl flagged
  · obtain ⟨refreshToken, started⟩ := start_flag world flagged
    exact Or.inr ⟨_, refreshToken, by simpa using started⟩

/-- The flag is set after a segment only if it was before, or is set by the segment,
or by the refresh that it starts. -/
theorem flag_set (tick : Tick) (query : Query) (world : World)
    (flagged : (perform device tick query world).2.store.isLoading = true) :
    raises query = true ∨ (∃ promise refreshToken,
      Request.refreshCall promise refreshToken ∈ spawned device tick query world) ∨
    world.store.isLoading = true ∧
      (lowers query (perform device tick query world).1 → renews query = true) := by
  -- A query that asks for the lock raises the flag only by starting a refresh.
  have locked (shared : ∀ result, ¬ lowers query result)
      (store : (perform device tick query world).2.store = (takeLock world).world.store)
      (starts : spawned device tick query world = (takeLock world).started) :
      raises query = true ∨ (∃ promise refreshToken,
        Request.refreshCall promise refreshToken ∈ spawned device tick query world) ∨
      world.store.isLoading = true ∧
        (lowers query (perform device tick query world).1 → renews query = true) := by
    rw [store] at flagged
    rw [starts]
    rcases lock_flag world flagged with before | started
    · exact Or.inr (Or.inr ⟨before, fun lower => absurd lower (shared _)⟩)
    · exact Or.inr (Or.inl started)
  -- One that leaves the store alone passes the flag on as it was.
  have kept (shared : ∀ result, ¬ lowers query result)
      (store : (perform device tick query world).2.store = world.store) :
      raises query = true ∨ (∃ promise refreshToken,
        Request.refreshCall promise refreshToken ∈ spawned device tick query world) ∨
      world.store.isLoading = true ∧
        (lowers query (perform device tick query world).1 → renews query = true) := by
    rw [store] at flagged
    exact Or.inr (Or.inr ⟨flagged, fun lower => absurd lower (shared _)⟩)
  cases query with
  | intercept config =>
      rcases intercept_lock device tick config world with
        ⟨-, url, shape⟩ | ⟨-, sending, started, only, shape⟩
      · exact locked (fun _ => id) (by rw [perform, shape]; rfl) (by rw [spawned, shape]; rfl)
      · exact kept (fun _ => id) (by rw [perform, shape])
  | receive config =>
      rcases receive_lock device tick config world with ⟨-, shape⟩ | ⟨-, shape⟩
      · exact locked (fun _ => id) (by rw [perform, shape]; rfl) (by rw [spawned, shape]; rfl)
      · exact kept (fun _ => id) (by rw [perform, shape, Segment.map, receive_world])
  | receiveAgain config =>
      exact kept (fun _ => id) (congrArg World.store (receive_world tick.reply world))
  | resumeRequest promise config =>
      rcases resume_cases promise config world with ⟨error, -, shape⟩ | ⟨-, sending, shape⟩
      · exact kept (fun _ => id) (by simp [perform, segmentOf, shape])
      · exact kept (fun _ => id) (by simp [perform, segmentOf, shape])
  | resumeResponse promise config =>
      rcases resume_cases promise config world with ⟨error, -, shape⟩ | ⟨-, sending, shape⟩
      · exact kept (fun _ => id) (by simp [perform, segmentOf, shape])
      · exact kept (fun _ => id) (by simp [perform, segmentOf, shape])
  | callRefresh =>
      obtain ⟨refreshToken, started⟩ := start_flag world flagged
      exact Or.inr (Or.inl ⟨_, refreshToken, started⟩)
  | settled promise => exact kept (fun _ => id) rfl
  | finishRefresh promise outcome =>
      rcases outcome with error | (none | data)
      · cases flagged
      · cases flagged
      · exact Or.inr (Or.inr ⟨flagged, fun _ => rfl⟩)
  | startLogOut => exact Or.inr (Or.inr ⟨flagged, False.elim⟩)
  | googleSignedOut refreshToken =>
      cases token : truthy refreshToken with
      | none =>
          simp only [perform, segmentOf, googleSignedOut, token] at flagged
          cases flagged
      | some present => exact Or.inl (by simp [raises, token])
  | clearAll => cases flagged
  | beginLoading => exact Or.inl rfl
  | storeSession asksSignup data =>
      cases data with
      | none => exact Or.inr (Or.inr ⟨flagged, False.elim⟩)
      | some data =>
          simp only [perform, segmentOf, storeSession] at flagged
          split at flagged
          · cases flagged
          · cases flagged
  | storeOtp data => cases flagged
  | setErrorState thrown => cases flagged

end Segments

section Runs
variable {device : Device}

theorem raises_goes_on (tick : Tick) (query : Query) (world : World)
    (raised : raises query = true) :
    ¬ lowers query (perform device tick query world).1 := by
  cases query with
  | beginLoading => exact id
  | googleSignedOut refreshToken =>
      obtain ⟨token, present⟩ := Option.isSome_iff_exists.mp raised
      simp only [perform, segmentOf, googleSignedOut, present]
      exact id
  | _ => cases raised

theorem raiser_sets (state : State) (coherent : (client device).Coherent state) (index : Nat)
    (task : Task) (query : Query) (present : state.tasks[index]? = some task)
    (awaits : task.residual.awaiting = some query) (raised : raises query = true) :
    setsFlag task.request = true := by
  have avoids : ∀ request, Avoids (fun query => setsFlag request = false ∧ raises query = true)
      (program device request) := by
    intro request
    cases request with
    | call config =>
        refine avoids_map _ (avoids_mono ?_ _ (avoids_api config))
        rintro query ⟨-, raised⟩
        cases query <;> first | rfl | cases raised
    | refreshTokens =>
        exact avoids_map _ (avoids_bind _ _ (avoids_call _ nofun) fun _ => avoids_call _ nofun)
    | _ => exact avoids_mono (fun query alien => nomatch alien.1) _ (program_belongs device _)
  have sets := Machine.awaits_outside (fun request query => setsFlag request = false ∧
    raises query = true)
    avoids state coherent index task query present awaits
  simpa [raised] using sets

theorem still_pending (state : State) (coherent : (client device).Coherent state) (index : Nat)
    (tick : Tick) (task : Task) (query : Query)
    (resume : Except ErrorResponse query.Answer → Tick →
      Residual Query Query.Answer ErrorResponse Tick Result)
    (present : state.tasks[index]? = some task) (awaits : task.residual = .await query resume)
    (sets : setsFlag task.request = true)
    (holds : ¬ lowers query (perform device tick query state.world).1) :
    (resume (perform device tick query state.world).1 tick).awaiting ≠ none := by
  obtain ⟨first, follows⟩ := coherent.follows index task present
  have ends := ends_follows (perform device) _ _ _
    (program_ends device task.request sets first) follows
  rw [awaits] at ends
  exact fun settled => holds ((ends _ tick).1 settled)

theorem flagged_step (state : State) (action : Action) (coherent : (client device).Coherent state)
    (flagged : Flagged state) (owned : FlagOwned device state action) :
    Flagged ((client device).step state action) := by
  have transition := (client device).step_transition state action
  generalize stepped : (client device).step state action = after at transition ⊢
  cases transition with
  | idle => exact flagged
  | arrived request tick external =>
      intro set
      obtain ⟨task, member, pending⟩ := flagged set
      exact ⟨task, List.mem_append_left _ member, pending⟩
  | answered index tick task query resume present awaits ready =>
      intro set
      have own := (client device).answer_task_own state index task query resume tick present
      have mine (sets : setsFlag task.request = true)
          (holds : ¬ lowers query (perform device tick query state.world).1) :
          ∃ other ∈ ((client device).answer state index task query resume tick).tasks,
            setsFlag other.request = true ∧ Pending other :=
        ⟨_, List.mem_of_getElem? own, sets,
          still_pending state coherent index tick task query resume present awaits sets holds⟩
      rcases flag_set device tick query state.world set with raised | started | ⟨before, clears⟩
      · exact mine (raiser_sets state coherent index task query present
          (by rw [awaits]; rfl) raised) (raises_goes_on tick query state.world raised)
      · obtain ⟨promise, refreshToken, started⟩ := started
        refine ⟨(client device).launch tick (state.trace.length + 1)
          (.refreshCall promise refreshToken), ?_, rfl, nofun⟩
        exact List.mem_append_right _ (List.mem_map_of_mem started)
      · have theirs (other : Task) (place : Nat) (apart : place ≠ index)
            (found : state.tasks[place]? = some other) :
            other ∈ ((client device).answer state index task query resume tick).tasks :=
          List.mem_of_getElem? ((client device).answer_task_other state index task query resume tick
            place other found apart)
        obtain ⟨other, member, sets, pending⟩ := flagged before
        obtain ⟨place, found⟩ := List.mem_iff_getElem?.mp member
        by_cases apart : place = index
        · subst apart
          obtain rfl : task = other := Option.some.inj (present.symm.trans found)
          by_cases lower : lowers query (perform device tick query state.world).1
          · -- Its own refresh has succeeded, so another operation is pending.
            have comes := Machine.upcoming_answered (client device) state place tick task query
              resume present awaits ready
            obtain ⟨third, known, sets, pending⟩ := owned _ comes (clears lower)
            obtain ⟨spot, elsewhere, found⟩ := List.mem_eraseIdx_iff_getElem?.mp known
            exact ⟨third, theirs third spot elsewhere found, sets, pending⟩
          · exact mine sets lower
        · exact ⟨other, theirs other place apart found, sets, pending⟩

theorem flagged_run (store : AuthStore) (schedule : List Action) (unset : store.isLoading = false)
    (guarded : (client device).Guarded (FlagOwned device) (start (opened store)) schedule) :
    Flagged ((client device).run (start (opened store)) schedule) :=
  ((client device).guarded_run _ (fun state => (client device).Coherent state ∧ Flagged state)
    (fun state action both owned => ⟨Machine.coherent_step state action both.1,
      flagged_step state action both.1 both.2 owned⟩)
    _ schedule ⟨(client device).coherent_start _, fun set => by simp [start, opened, unset] at set⟩
    guarded).2

end Runs

theorem flag_returns (device : Device) (store : AuthStore) (schedule : List Action)
    (unset : store.isLoading = false)
    (guarded : (client device).Guarded (FlagOwned device) (start (opened store)) schedule)
    (idle : Idle ((client device).run (start (opened store)) schedule)) :
    ((client device).run (start (opened store)) schedule).world.store.isLoading = false := by
  rw [← Bool.not_eq_true]
  intro set
  obtain ⟨task, member, sets, pending⟩ := flagged_run store schedule unset guarded set
  have operation : isOperation task.request = true := by
    cases request : task.request with
    | call config =>
        rw [request] at sets
        cases sets
    | _ => rfl
  exact idle task member operation pending

/-! A refresh, on its own and during a sign-in. -/
section Refreshes

instance (state : State) : Decidable (Idle state) :=
  inferInstanceAs (Decidable (∀ task ∈ state.tasks, _ → _))

def refreshing (reply : Reply) : List Action :=
  let quiet := at0 (.success none)
  [.arrive .refreshTokens quiet, .advance 0 quiet, .advance 1 quiet, .advance 1 (at0 reply),
    .advance 1 quiet, .advance 0 quiet]

def overlapping : List Action :=
  let answered := Reply.success (some renewed)
  [.arrive .refreshTokens (at0 answered)] ++ throughout 0 1 answered ++
    [.arrive signInAgain (at0 answered)] ++ throughout 2 1 answered ++ throughout 1 3 answered ++
    throughout 0 1 answered ++ throughout 2 3 answered

theorem flag_returns_overlapping :
    ((client phone).run (start (opened signedIn)) overlapping).world.store.isLoading = false :=
  flag_returns phone signedIn overlapping rfl (by decide) (by decide)

theorem flag_stays : ¬ ∀ (device : Device) (store : AuthStore) (schedule : List Action),
    store.isLoading = false → Idle ((client device).run (start (opened store)) schedule) →
    ((client device).run (start (opened store)) schedule).world.store.isLoading = false := by
  intro returns
  exact absurd (returns phone signedIn (refreshing (.success (some renewed))) rfl
    (by decide)) (by decide)

end Refreshes
end TopInspect.ClientLoading
