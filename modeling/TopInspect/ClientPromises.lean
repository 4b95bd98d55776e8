import TopInspect.ClientFailures
import TopInspect.ClientLock

/-! The promises of refreshTokens. Each belongs to one running refresh and is pending
until that refresh settles it; after that it never changes. -/
namespace TopInspect.ClientPromises

open Resumption
open AuthHandlers (truthy)
open ClientStore ClientApi ClientSegments
open ClientLock (ownPromise)
open ClientFailures (ending closes_api)
open Interleaving hiding Entry State Action Task

def unstarted : ErrorResponse := errorOf (.plain "No refresh token found, logging out")

/-- The promise a query settles. -/
def finished : Query → Option Nat
  | .finishRefresh promise _ => some promise
  | _ => none

section Segments
variable (device : Device)

def settlementOf : Except ErrorResponse (Option ResponseData) → Settlement
  | .error thrown => .rejected (errorOf thrown)
  | .ok none => .rejected (errorOf (.plain device.typeError))
  | .ok (some _) => .resolved

/-- Everything a segment can do to the promises, with the tasks it starts. -/
inductive PromiseStep (tick : Tick) (query : Query) (world : World) : Prop where
  | kept (same : (perform device tick query world).2.promises = world.promises)
      (starts : ∀ request ∈ spawned device tick query world, request = .logOut)
      (other : finished query = none)
  | started (refreshToken : String) (token : truthy world.store.refreshToken = some refreshToken)
      (grown : (perform device tick query world).2.promises = world.promises ++ [.pending])
      (starts : spawned device tick query world =
        [.refreshCall world.promises.length refreshToken])
      (other : finished query = none)
  | refused (token : truthy world.store.refreshToken = none)
      (grown : (perform device tick query world).2.promises =
        world.promises ++ [.rejected unstarted])
      (starts : spawned device tick query world = [.logOut])
      (other : finished query = none)
  | settled (promise : Nat) (outcome : Except ErrorResponse (Option ResponseData))
      (finishes : query = .finishRefresh promise outcome)
      (settles : (perform device tick query world).2.promises =
        world.promises.set promise (settlementOf device outcome))
      (starts : spawned device tick query world = [])

theorem refresh_step (tick : Tick) (query : Query) (world : World)
    (other : finished query = none)
    (promises : (perform device tick query world).2.promises = (startRefresh world).world.promises)
    (started : spawned device tick query world = (startRefresh world).started) :
    PromiseStep device tick query world := by
  cases token : truthy world.store.refreshToken with
  | none =>
      refine .refused token ?_ ?_ other
      · rw [promises]
        simp [startRefresh, token, ClientStore.setErrorState, unstarted]
      · rw [started]
        simp [startRefresh, token]
  | some refreshToken =>
      refine .started refreshToken token ?_ ?_ other
      · rw [promises]
        simp [startRefresh, token]
      · rw [started]
        simp [startRefresh, token]

theorem lock_promise_step {α : Type} (tick : Tick) (query : Query) (world : World)
    (other : finished query = none) (make : Nat → α)
    (promises : (perform device tick query world).2.promises =
      ((takeLock world).map make).world.promises)
    (started : spawned device tick query world = ((takeLock world).map make).started) :
    PromiseStep device tick query world := by
  cases held : world.refreshPromise with
  | some promise =>
      rw [lock_held world promise held] at promises started
      exact .kept promises (by simp [started, Segment.map]) other
  | none =>
      refine refresh_step device tick query world other ?_ ?_
      · rw [promises]
        simp [takeLock, held, Segment.map]
      · rw [started]
        simp [takeLock, held, Segment.map]

theorem promise_step (tick : Tick) (query : Query) (world : World) :
    PromiseStep device tick query world := by
  cases query with
  | intercept config =>
      rcases intercept_lock device tick config world with
        ⟨-, url, shape⟩ | ⟨-, sending, started, only, shape⟩
      · exact lock_promise_step device tick _ world rfl _ (by rw [perform, shape])
          (by rw [spawned, shape])
      · exact .kept (by rw [perform, shape]) (by rw [spawned, shape]; exact only) rfl
  | receive config =>
      rcases receive_lock device tick config world with ⟨-, shape⟩ | ⟨-, shape⟩
      · exact lock_promise_step device tick _ world rfl _ (by rw [perform, shape])
          (by rw [spawned, shape])
      · refine .kept ?_ ?_ rfl
        · rw [perform, shape, Segment.map, receive_world]
        · rw [spawned, shape]
          exact answer_started tick.reply world
  | receiveAgain config =>
      refine .kept ?_ (answer_started tick.reply world) rfl
      exact congrArg World.promises (receive_world tick.reply world)
  | resumeRequest promise config =>
      rcases resume_cases promise config world with ⟨error, -, shape⟩ | ⟨-, sending, shape⟩
      · exact .kept (by simp [perform, segmentOf, shape]) (by simp [spawned, segmentOf, shape]) rfl
      · exact .kept (by simp [perform, segmentOf, shape]) (by simp [spawned, segmentOf, shape]) rfl
  | resumeResponse promise config =>
      rcases resume_cases promise config world with ⟨error, -, shape⟩ | ⟨-, sending, shape⟩
      · exact .kept (by simp [perform, segmentOf, shape]) (by simp [spawned, segmentOf, shape]) rfl
      · exact .kept (by simp [perform, segmentOf, shape]) (by simp [spawned, segmentOf, shape]) rfl
  | callRefresh => exact refresh_step device tick _ world rfl rfl rfl
  | finishRefresh promise outcome =>
      rcases outcome with error | (none | data)
      · exact .settled promise _ rfl rfl rfl
      · exact .settled promise _ rfl rfl rfl
      · exact .settled promise _ rfl rfl rfl
  | googleSignedOut refreshToken =>
      obtain ⟨⟨store, after⟩, started⟩ := signed_out_world refreshToken world
      exact .kept (by simp [perform, segmentOf, after]) (by simp [spawned, segmentOf, started]) rfl
  | storeSession asksSignup data =>
      obtain ⟨⟨store, after⟩, started⟩ := session_world device asksSignup data world
      exact .kept (by simp [perform, segmentOf, after]) (by simp [spawned, segmentOf, started]) rfl
  | settled promise => exact .kept rfl (by simp [spawned, segmentOf]) rfl
  | startLogOut => exact .kept rfl (by simp [spawned, segmentOf]) rfl
  | clearAll => exact .kept rfl (by simp [spawned, segmentOf]) rfl
  | beginLoading => exact .kept rfl (by simp [spawned, segmentOf]) rfl
  | storeOtp data => exact .kept rfl (by simp [spawned, segmentOf, storeOtp]) rfl
  | setErrorState thrown => exact .kept rfl (by simp [spawned, segmentOf]) rfl

end Segments

section Programs
variable (device : Device)

def finishing : (query : Query) → Except ErrorResponse query.Answer →
    Option (Except ErrorResponse Unit)
  | .finishRefresh _ _, result => some result
  | _, _ => none

theorem leads_refresh (promise : Nat) (refreshToken : String) :
    Leads (fun query result => (ending query result).map (Query.finishRefresh promise))
      (program device (.refreshCall promise refreshToken)) := by
  apply leads_map
  intro tick
  exact leads_outcome_at ending (Query.finishRefresh promise)
    (fun outcome => call (Query.finishRefresh promise outcome)) (fun _ _ => rfl)
    (fun outcome => leads_call (Query.finishRefresh promise outcome) fun _ => rfl) _ tick
    (closes_api _ tick)

theorem closes_refresh (promise : Nat) (refreshToken : String) :
    Closes (fun query result => (finishing query result).map (Except.map fun _ => Result.done))
      (program device (.refreshCall promise refreshToken)) := by
  apply closes_map
  intro tick
  let last (outcome : Except ErrorResponse (Option ResponseData)) : Client Unit :=
    call (Query.finishRefresh promise outcome)
  have asks : ∀ outcome tick, (last outcome tick).awaiting ≠ none := fun _ _ =>
    Option.some_ne_none _
  refine (closes_outcome_at last asks (fun outcome => ?_) _ tick ?_).2
  · intro tick result now
    cases result <;> rfl
  · refine avoids_mono_at ?_ _ (avoids_api _ tick)
    rintro query ⟨result, ends⟩
    cases query with
    | finishRefresh promise outcome => rfl
    | _ => exact absurd rfl ends

end Programs

section Runs
variable (device : Device)

/-- refreshTokens was called here without a refresh token, and returned a rejected promise. -/
def Refuses (entry : Entry) : Prop :=
  truthy entry.before.store.refreshToken = none ∧
    (perform device entry.tick entry.query entry.before).2.promises.length =
      entry.before.promises.length + 1

def Apart (one other : Request) : Prop :=
  ∀ promise, ownPromise one = some promise → ownPromise other ≠ some promise

/-- Every promise belongs to one refresh, which settles it once, with what its request gave. -/
structure Promised (state : State) : Prop where
  fresh : ∀ task ∈ state.tasks, ∀ promise ∈ ownPromise task.request,
    promise < state.world.promises.length
  unique : (state.tasks.map (·.request)).Pairwise Apart
  pending : ∀ task ∈ state.tasks, ∀ promise ∈ ownPromise task.request,
    task.residual.awaiting ≠ none → state.world.promises[promise]? = some Settlement.pending
  kept : ∀ entry ∈ state.trace, ∀ (promise : Nat) (settlement : Settlement),
    entry.before.promises[promise]? = some settlement → settlement ≠ .pending →
    state.world.promises[promise]? = some settlement
  refused : ∀ entry ∈ state.trace, Refuses device entry →
    state.world.promises[entry.before.promises.length]? = some (.rejected unstarted)
  handed : ∀ entry ∈ state.trace, ∀ promise refreshToken,
    entry.request = .refreshCall promise refreshToken → ∀ outcome,
    ending entry.query (perform device entry.tick entry.query entry.before).1 = some outcome →
    (∃ task, state.tasks[entry.task]? = some task ∧ task.request = entry.request ∧
      task.residual.awaiting = some (.finishRefresh promise outcome)) ∨
    state.world.promises[promise]? = some (settlementOf device outcome)

theorem promised_start (store : AuthStore) : Promised device (start (opened store)) := by
  constructor
  all_goals simp [start]

variable {device}

theorem own_refresh (request : Request) (promise : Nat) (own : ownPromise request = some promise) :
    ∃ refreshToken, request = .refreshCall promise refreshToken := by
  cases request with
  | refreshCall mine refreshToken =>
      obtain rfl := Option.some.inj own
      exact ⟨refreshToken, rfl⟩
  | _ => cases own

theorem owner_unique (state : State) (promised : Promised device state) (first second : Nat)
    (one other : Task) (left : state.tasks[first]? = some one)
    (right : state.tasks[second]? = some other) (promise : Nat)
    (own : ownPromise one.request = some promise) (same : ownPromise other.request = some promise) :
    first = second := by
  obtain ⟨inside, rfl⟩ := List.getElem?_eq_some_iff.mp left
  obtain ⟨within, rfl⟩ := List.getElem?_eq_some_iff.mp right
  have apart := List.pairwise_iff_getElem.mp promised.unique
  rcases Nat.lt_trichotomy first second with before | equal | behind
  · have apart := apart first second (by simpa using inside) (by simpa using within) before
    simp only [List.getElem_map] at apart
    exact absurd same (apart promise own)
  · exact equal
  · have apart := apart second first (by simpa using within) (by simpa using inside) behind
    simp only [List.getElem_map] at apart
    exact absurd own (apart promise same)

section Answers
variable (state : State) (promised : Promised device state) (index : Nat) (tick : Tick)
  (task : Task) (query : Query)
  (resume : Except ErrorResponse query.Answer → Tick →
    Residual Query Query.Answer ErrorResponse Tick Result)
  (coherent : (client device).Coherent state) (present : state.tasks[index]? = some task)
  (awaits : task.residual = .await query resume)
include promised coherent present awaits

/-- A task that settles a promise runs the refresh it belongs to. -/
theorem finishes_own (promise : Nat) (finishes : finished query = some promise) :
    ownPromise task.request = some promise ∧
    state.world.promises[promise]? = some Settlement.pending := by
  have belongs := task_belongs device state coherent index task query present (by rw [awaits]; rfl)
  cases query with
  | finishRefresh other outcome =>
      obtain rfl := Option.some.inj finishes
      obtain ⟨refreshToken, request⟩ := belongs
      have own : ownPromise task.request = some other := by rw [request]; rfl
      exact ⟨own, promised.pending task (List.mem_of_getElem? present) other own
        (by rw [awaits]; nofun)⟩
  | _ => cases finishes

theorem settled_stays (promise : Nat) (settlement : Settlement)
    (held : state.world.promises[promise]? = some settlement) (settled : settlement ≠ .pending) :
    (perform device tick query state.world).2.promises[promise]? = some settlement := by
  have inside := (List.getElem?_eq_some_iff.mp held).1
  cases promise_step device tick query state.world with
  | kept same => rw [same, held]
  | started refreshToken token grown => rw [grown, List.getElem?_append_left inside, held]
  | refused token grown => rw [grown, List.getElem?_append_left inside, held]
  | settled other outcome finishes settles =>
      have still := (finishes_own state promised index task query resume coherent present
        awaits other (by rw [finishes]; rfl)).2
      have apart : other ≠ promise := by
        rintro rfl
        exact settled (Option.some.inj (held.symm.trans still))
      rw [settles, List.getElem?_set_ne apart, held]

omit coherent present awaits promised in
theorem spawned_promise (request : Request) (promise : Nat)
    (started : request ∈ spawned device tick query state.world)
    (own : ownPromise request = some promise) :
    promise = state.world.promises.length ∧ (perform device tick query state.world).2.promises =
      state.world.promises ++ [.pending] := by
  cases promise_step device tick query state.world with
  | kept same starts =>
      rw [starts request started] at own
      cases own
  | started refreshToken token grown starts =>
      rw [starts, List.mem_singleton] at started
      rw [started] at own
      exact ⟨(Option.some.inj own).symm, grown⟩
  | refused token grown starts =>
      rw [starts, List.mem_singleton] at started
      rw [started] at own
      cases own
  | settled other outcome finishes settles starts => simp [starts] at started

omit coherent awaits in
theorem requests_answered :
    (((client device).answer state index task query resume tick).tasks.map (·.request)).Pairwise
      Apart := by
  have requests := (client device).answer_requests state index task query resume tick present
  rw [show (((client device).answer state index task query resume tick).tasks.map (·.request)) =
    state.tasks.map (·.request) ++ spawned device tick query state.world from requests]
  rw [List.pairwise_append]
  refine ⟨promised.unique, ?_, ?_⟩
  · cases promise_step device tick query state.world with
    | kept same starts =>
        apply List.pairwise_of_forall_mem_list
        intro one member other _ promise own
        rw [starts one member] at own
        cases own
    | started refreshToken token grown starts => simp [starts]
    | refused token grown starts => simp [starts]
    | settled other outcome finishes settles starts => simp [starts]
  · intro one member other started promise own later
    obtain ⟨owner, known, rfl⟩ := List.mem_map.mp member
    have older := promised.fresh owner known promise own
    have newer := (spawned_promise state tick query other promise started later).1
    omega

omit coherent awaits in
theorem fresh_answered :
    ∀ other ∈ ((client device).answer state index task query resume tick).tasks,
      ∀ promise ∈ ownPromise other.request,
        promise < (perform device tick query state.world).2.promises.length := by
  intro other member promise own
  have grows := @ClientLock.grows_promises device tick query state.world
  obtain ⟨place, inside, same⟩ := List.getElem_of_mem member
  have lookup := (List.getElem?_eq_getElem inside).trans (congrArg some same)
  rcases (client device).answer_tasks state index task query resume tick present
    place other lookup with ⟨-, rfl⟩ | ⟨-, old⟩ | ⟨-, request, started, rfl⟩
  · exact Nat.lt_of_lt_of_le (promised.fresh task (List.mem_of_getElem? present) promise own) grows
  · exact Nat.lt_of_lt_of_le (promised.fresh other (List.mem_of_getElem? old) promise own) grows
  · obtain ⟨rfl, grown⟩ := spawned_promise state tick query request promise started own
    simp [grown]

omit promised in
theorem finished_ends (promise : Nat) (refreshToken : String)
    (request : task.request = .refreshCall promise refreshToken)
    (finishes : finished query ≠ none) :
    (resume (perform device tick query state.world).1 tick).awaiting = none := by
  have after := Machine.coherent_answered state coherent index tick task query resume present awaits
  obtain ⟨first, follows⟩ := after.follows index _
    ((client device).answer_task_own state index task query resume tick present)
  have closes := closes_refresh device promise refreshToken first
  rw [← request] at closes
  have member : (⟨query, tick, state.world⟩ : Event Query Tick World) ∈
      history index ((client device).answer state index task query resume tick).trace := by
    rw [mem_history]
    exact ⟨_, List.mem_cons_self, rfl, rfl⟩
  cases query with
  | finishRefresh other outcome =>
      have ended := (closes_follows (perform device) _ _ _ _ closes follows).1 _ member _ rfl
      simp only at ended
      rw [show (client device).perform = perform device from rfl] at ended
      rw [ended]
      cases (perform device tick (.finishRefresh other outcome) state.world).1 <;> rfl
  | _ => exact absurd rfl finishes

omit promised coherent present awaits in
/-- A pending promise stays so unless its refresh settles it. -/
theorem pending_stays (promise : Nat)
    (held : state.world.promises[promise]? = some Settlement.pending)
    (other : finished query ≠ some promise) :
    (perform device tick query state.world).2.promises[promise]? = some Settlement.pending := by
  have inside := (List.getElem?_eq_some_iff.mp held).1
  cases promise_step device tick query state.world with
  | kept same => rw [same, held]
  | started refreshToken token grown => rw [grown, List.getElem?_append_left inside, held]
  | refused token grown => rw [grown, List.getElem?_append_left inside, held]
  | settled settling outcome finishes settles =>
      have apart : settling ≠ promise := by
        rintro rfl
        exact other (by rw [finishes]; rfl)
      rw [settles, List.getElem?_set_ne apart, held]

theorem pending_answered :
    ∀ other ∈ ((client device).answer state index task query resume tick).tasks,
      ∀ promise ∈ ownPromise other.request, other.residual.awaiting ≠ none →
        (perform device tick query state.world).2.promises[promise]? = some Settlement.pending := by
  intro other member promise own awaiting
  obtain ⟨place, inside, same⟩ := List.getElem_of_mem member
  have lookup := (List.getElem?_eq_getElem inside).trans (congrArg some same)
  rcases (client device).answer_tasks state index task query resume tick present
    place other lookup with ⟨rfl, rfl⟩ | ⟨apart, old⟩ | ⟨-, request, started, rfl⟩
  · have held := promised.pending task (List.mem_of_getElem? present) promise own
      (by rw [awaits]; nofun)
    refine pending_stays state tick query promise held fun finishes => ?_
    obtain ⟨refreshToken, request⟩ := own_refresh task.request promise own
    exact awaiting (finished_ends state place tick task query resume coherent present awaits promise
      refreshToken request (by rw [finishes]; nofun))
  · have held := promised.pending other (List.mem_of_getElem? old) promise own awaiting
    refine pending_stays state tick query promise held fun finishes => ?_
    have mine := (finishes_own state promised index task query resume coherent present
      awaits promise finishes).1
    exact apart (owner_unique state promised place index other task old present promise own mine)
  · obtain ⟨rfl, grown⟩ := spawned_promise state tick query request promise started own
    simp [grown]

theorem kept_answered (entry : Entry)
    (known : entry ∈ ((client device).answer state index task query resume tick).trace)
    (promise : Nat) (settlement : Settlement)
    (held : entry.before.promises[promise]? = some settlement) (settled : settlement ≠ .pending) :
    (perform device tick query state.world).2.promises[promise]? = some settlement := by
  refine settled_stays state promised index tick task query resume coherent present awaits promise
    settlement ?_ settled
  rcases List.mem_cons.mp known with rfl | old
  · exact held
  · exact promised.kept entry old promise settlement held settled

theorem refused_answered (entry : Entry)
    (known : entry ∈ ((client device).answer state index task query resume tick).trace)
    (refuses : Refuses device entry) :
    (perform device tick query state.world).2.promises[entry.before.promises.length]? =
      some (.rejected unstarted) := by
  rcases List.mem_cons.mp known with rfl | old
  · obtain ⟨absent, longer⟩ := refuses
    cases promise_step device tick query state.world with
    | kept same => simp [same] at longer
    | started refreshToken token => simp [absent] at token
    | refused token grown => simp [grown]
    | settled other outcome finishes settles => simp [settles] at longer
  · exact settled_stays state promised index tick task query resume coherent present awaits _ _
      (promised.refused entry old refuses) nofun

theorem handed_answered (entry : Entry)
    (known : entry ∈ ((client device).answer state index task query resume tick).trace)
    (promise : Nat) (refreshToken : String)
    (request : entry.request = .refreshCall promise refreshToken)
    (outcome : Except ErrorResponse (Option ResponseData))
    (ends : ending entry.query (perform device entry.tick entry.query entry.before).1 =
      some outcome) :
    (∃ other, ((client device).answer state index task query resume tick).tasks[entry.task]? =
        some other ∧ other.request = entry.request ∧
        other.residual.awaiting = some (.finishRefresh promise outcome)) ∨
      (perform device tick query state.world).2.promises[promise]? =
        some (settlementOf device outcome) := by
  have own := (client device).answer_task_own state index task query resume tick present
  rcases List.mem_cons.mp known with rfl | old
  · have leads := leads_refresh device promise refreshToken
    rw [← show task.request = .refreshCall promise refreshToken from request] at leads
    have led := (client device).answer_leads _ state coherent index tick task query
      (.finishRefresh promise outcome) resume leads present awaits
      (by simp only [show (client device).perform = perform device from rfl]; rw [ends]; rfl)
    exact Or.inl ⟨_, own, rfl, led⟩
  · rcases promised.handed entry old promise refreshToken request outcome ends with
      ⟨other, found, same, awaiting⟩ | settled
    -- Its owner waited to end the refresh: either this segment is that end, or it still waits.
    · by_cases mine : entry.task = index
      · rw [mine] at found
        obtain rfl : task = other := Option.some.inj (present.symm.trans found)
        rw [awaits] at awaiting
        obtain rfl := Option.some.inj awaiting
        have held := (finishes_own state promised index task _ resume coherent present awaits
          promise rfl).2
        have inside := (List.getElem?_eq_some_iff.mp held).1
        refine Or.inr ?_
        cases promise_step device tick (.finishRefresh promise outcome) state.world with
        | settled settling result finishes settles =>
            obtain ⟨rfl, rfl⟩ := Query.finishRefresh.inj finishes
            rw [settles, List.getElem?_set_self inside]
        | kept same starts none => cases none
        | started refreshToken token grown starts none => cases none
        | refused token grown starts none => cases none
      · exact Or.inl ⟨other, (client device).answer_task_other state index task query resume tick
          entry.task other found mine, same, awaiting⟩
    · refine Or.inr (settled_stays state promised index tick task query resume coherent present
        awaits promise _ settled ?_)
      rcases outcome with error | (none | data)
      · nofun
      · nofun
      · nofun

end Answers

theorem promised_step (state : State) (action : Action) (coherent : (client device).Coherent state)
    (promised : Promised device state) : Promised device ((client device).step state action) := by
  have transition := (client device).step_transition state action
  generalize (client device).step state action = after at transition ⊢
  cases transition with
  | idle => exact promised
  | arrived request tick external =>
      -- No request from outside is the sending of a refresh.
      have foreign : ownPromise request = none := by
        cases request with
        | refreshCall promise refreshToken => cases external
        | _ => rfl
      refine ⟨?_, ?_, ?_, promised.kept, promised.refused, ?_⟩
      · intro task member promise own
        rcases List.mem_append.mp member with old | new
        · exact promised.fresh task old promise own
        · obtain rfl := List.mem_singleton.mp new
          exact absurd (foreign.symm.trans own) nofun
      · rw [List.map_append, List.pairwise_append]
        refine ⟨promised.unique, by simp, ?_⟩
        intro one _ other new promise _ later
        obtain rfl := List.mem_singleton.mp new
        exact absurd (foreign.symm.trans later) nofun
      · intro task member promise own
        rcases List.mem_append.mp member with old | new
        · exact promised.pending task old promise own
        · obtain rfl := List.mem_singleton.mp new
          exact absurd (foreign.symm.trans own) nofun
      · intro entry known promise refreshToken request outcome ends
        rcases promised.handed entry known promise refreshToken request outcome ends with
          ⟨task, found, rest⟩ | settled
        · have inside := (List.getElem?_eq_some_iff.mp found).1
          exact Or.inl ⟨task, (List.getElem?_append_left inside).trans found, rest⟩
        · exact Or.inr settled
  | answered index tick task query resume present awaits ready =>
      exact ⟨fresh_answered state promised index tick task query resume present,
        requests_answered state promised index tick task query resume present,
        pending_answered state promised index tick task query resume coherent present awaits,
        kept_answered state promised index tick task query resume coherent present awaits,
        refused_answered state promised index tick task query resume coherent present awaits,
        handed_answered state promised index tick task query resume coherent present awaits⟩

theorem promised_run (store : AuthStore) (schedule : List Action) :
    Promised device ((client device).run (start (opened store)) schedule) :=
  ((client device).guarded_run (fun _ _ => True)
    (fun state => (client device).Coherent state ∧ Promised device state)
    (fun state action both _ => ⟨Machine.coherent_step state action both.1,
      promised_step state action both.1 both.2⟩)
    _ schedule ⟨(client device).coherent_start _, promised_start device store⟩
    (Machine.guarded_trivial _ schedule)).2

end Runs
end TopInspect.ClientPromises
