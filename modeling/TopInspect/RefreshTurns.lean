import TopInspect.ClientPromises

/-! JavaScript's turns at the refresh lock. The waiters of a resolved promise resume before
anything else happens, so what the refresh has stored is still there when they read it. -/
namespace TopInspect.RefreshTurns

open Resumption
open ClientStore ClientApi ClientSegments
open ClientLock (Waits answer_waits)
open ClientPromises (promise_step Promised)
open Interleaving hiding Entry State Action Task

section Turns
variable (device : Device)

def isReleased (world : World) : Query → Bool
  | .resumeRequest promise _ => world.promises[promise]? = some .resolved
  | .resumeResponse promise _ => world.promises[promise]? = some .resolved
  | .settled promise => world.promises[promise]? = some .resolved
  | _ => false

/-- JavaScript's turns: the waiters of a resolved refresh resume before anything else happens.
The clock may move on meanwhile. -/
def InTurn (state : State) (action : Action) : Prop :=
  (∃ task ∈ state.tasks, task.residual.awaiting.any (isReleased state.world) = true) →
    ∃ entry ∈ (client device).upcoming state action, isReleased state.world entry.query = true

def lastFinish (trace : List Entry) : Option Entry :=
  trace.find? fun entry => (ClientPromises.finished entry.query).isSome

def Settled (state : State) : Prop :=
  ∀ task ∈ state.tasks, ¬ task.residual.awaiting.any (isReleased state.world) = true

/-- The lock is held for a refresh that has failed or that somebody waits for, and whoever may
resume finds a store that is as fresh as the latest refresh has left it. -/
structure Turned (fresh : AuthStore → Int → Prop) (state : State) : Prop where
  held : ∀ promise, state.world.refreshPromise = some promise →
    promise < state.world.promises.length ∧
      ((∃ error, state.world.promises[promise]? = some (.rejected error)) ∨
        ∃ task ∈ state.tasks, Waits task promise)
  inside : ∀ task ∈ state.tasks, ∀ promise, Waits task promise →
    promise < state.world.promises.length
  renewed : ∀ task ∈ state.tasks, ∀ promise, Waits task promise →
    state.world.promises[promise]? = some .resolved →
    ∃ last ∈ lastFinish state.trace, fresh state.world.store last.tick.now

end Turns

/-! A waiter waits for what it was handed over to. -/
section Programs

def handed (query : Query) (result : Except ErrorResponse query.Answer) (follower : Query) : Prop :=
  ∀ promise, refreshAwaited follower = some promise → handover query result = some follower

theorem opens_other (query : Query) (idle : refreshAwaited query = none) :
    Opens handed (call query : Client query.Answer) :=
  opens_call _ fun other result promise waits => by simp [idle] at waits

theorem chains_intercepted (config : Config) : Chains handed (intercepted config) := by
  refine chains_call_bind _ _ ?_ ?_
  · intro answer tick follower awaits promise waits
    cases answer with
    | proceed sending => cases awaits
    | wait held sending =>
        obtain rfl := Option.some.inj awaits
        rfl
  · intro answer
    cases answer with
    | proceed sending => exact chains_pure _
    | wait held sending => exact chains_call _

theorem opens_intercepted (config : Config) : Opens handed (intercepted config) := by
  intro tick follower awaits other result promise waits
  obtain rfl := Option.some.inj awaits
  cases waits

theorem chains_sent (config : Config) : Chains handed (sent config) :=
  chains_catch _ _ (chains_intercepted config) (fun _ => opens_throw _) fun _ => chains_throw _

theorem opens_sent (config : Config) : Opens handed (sent config) :=
  opens_catch _ _ (opens_intercepted config) fun _ => opens_throw _

theorem chains_retried (config : Config) : Chains handed (retried config) :=
  chains_bind _ _ (chains_sent config) (fun _ => opens_other _ rfl) fun _ => chains_call _

theorem opens_retried (config : Config) : Opens handed (retried config) :=
  opens_bind _ _ (opens_sent config) fun _ => opens_other _ rfl

theorem chains_received (config : Config) (rest : Received → Client (Option ResponseData))
    (resolved : ∀ data, rest (.resolved data) = pure data)
    (expired : ∀ promise sending, rest (.expired promise sending) =
      call (Query.resumeResponse promise sending) >>= retried) :
    Chains handed (call (Query.receive config) >>= rest) := by
  refine chains_call_bind _ _ ?_ ?_
  · intro answer tick follower awaits promise waits
    cases answer with
    | resolved data =>
        rw [resolved] at awaits
        cases awaits
    | expired held sending =>
        rw [expired] at awaits
        obtain rfl := Option.some.inj awaits
        rfl
  · intro answer
    cases answer with
    | resolved data =>
        rw [resolved]
        exact chains_pure _
    | expired held sending =>
        rw [expired]
        exact chains_bind _ _ (chains_call _) (fun _ => opens_retried _) fun _ => chains_retried _

theorem chains_api (config : Config) : Chains handed (api config) := by
  refine chains_bind _ _ (chains_sent config) (fun sending => ?_) fun sending => ?_
  · intro tick follower awaits other result promise waits
    obtain rfl := Option.some.inj awaits
    cases waits
  · exact chains_received sending _ (fun _ => rfl) fun _ _ => rfl

theorem opens_api (config : Config) : Opens handed (api config) :=
  opens_bind _ _ (opens_sent config) fun _ => by
    intro tick follower awaits other result promise waits
    obtain rfl := Option.some.inj awaits
    cases waits

theorem chains_outcome (config : Config) : Chains handed (outcomeOf config) :=
  chains_catch _ _ (chains_map _ (chains_api config)) (fun _ => opens_pure _) fun _ => chains_pure _

theorem opens_outcome (config : Config) : Opens handed (outcomeOf config) :=
  opens_catch _ _ (opens_map _ (opens_api config)) fun _ => opens_pure _

theorem chains_operation (config : Config) (store : Option ResponseData → Client Result)
    (opens : ∀ data, Opens handed (store data)) (stores : ∀ data, Chains handed (store data)) :
    Chains handed (operation config store) := by
  have fails (thrown : ErrorResponse) : Opens handed (do
      let error ← call (Query.setErrorState thrown)
      throw error : Client Result) :=
    opens_bind _ _ (opens_other _ rfl) fun _ => opens_throw _
  refine chains_bind _ _ (chains_call _) (fun _ => ?_) fun _ => ?_
  · exact opens_catch _ _ (opens_bind _ _ (opens_api config) opens) fails
  · refine chains_catch _ _ (chains_bind _ _ (chains_api config) opens stores) fails
      fun thrown => ?_
    exact chains_bind _ _ (chains_call _) (fun _ => opens_throw _) fun _ => chains_throw _

theorem opens_log_out_end (rest : Option Config → Client Unit) (nothing : rest none = pure ())
    (sends : ∀ config, rest (some config) = outcomeOf config >>= fun _ => call Query.clearAll)
    (config : Option Config) : Opens handed (rest config) := by
  cases config with
  | none =>
      rw [nothing]
      exact opens_pure _
  | some config =>
      rw [sends]
      exact opens_bind _ _ (opens_outcome config) fun _ => opens_other _ rfl

theorem chains_log_out : Chains handed logOut := by
  refine chains_bind _ _ (chains_call _) (fun _ => ?_) fun _ => ?_
  · exact opens_bind _ _ (opens_other _ rfl) (opens_log_out_end _ rfl fun _ => rfl)
  · refine chains_bind _ _ (chains_call _) (opens_log_out_end _ rfl fun _ => rfl) fun config => ?_
    cases config with
    | none => exact chains_pure _
    | some config =>
        exact chains_bind _ _ (chains_outcome config) (fun _ => opens_other _ rfl)
          fun _ => chains_call _

theorem chains_program (device : Device) (request : Request) :
    Chains handed (program device request) := by
  have otp : ∀ data, Opens handed (keepOtp data) ∧ Chains handed (keepOtp data) :=
    fun data => ⟨opens_other _ rfl, chains_call _⟩
  have session : ∀ asks data, Opens handed (keepSession asks data) ∧
      Chains handed (keepSession asks data) :=
    fun asks data => ⟨opens_other _ rfl, chains_call _⟩
  have operates (config : Config) (store : Option ResponseData → Client Result)
      (stores : ∀ data, Opens handed (store data) ∧ Chains handed (store data)) :
      Chains handed (operation config store) :=
    chains_operation config store (fun data => (stores data).1) fun data => (stores data).2
  cases request with
  | call config => exact chains_map _ (chains_api config)
  | refreshTokens =>
      exact chains_map _ (chains_bind _ _ (chains_call _) (fun _ => opens_other _ rfl)
        fun _ => chains_call _)
  | logOut => exact chains_map _ chains_log_out
  | sendOtp req => exact operates _ _ otp
  | signUpWithPhone req => exact operates _ _ (session _)
  | signInWithPhone req => exact operates _ _ (session _)
  | signInWithGoogle idToken => exact operates _ _ (session _)
  | signInWithApple idToken => exact operates _ _ (session _)
  | signUpWithOAuth req => exact operates _ _ (session _)
  | refreshCall promise refreshToken =>
      exact chains_map _ (chains_bind _ _ (chains_outcome _) (fun _ => opens_other _ rfl)
        fun _ => chains_call _)

theorem opens_program (device : Device) (request : Request) :
    Opens handed (program device request) := by
  have operates (config : Config) (store : Option ResponseData → Client Result) :
      Opens handed (operation config store) := by
    intro tick follower awaits other result promise waits
    obtain rfl := Option.some.inj awaits
    cases waits
  cases request with
  | call config => exact opens_map _ (opens_api config)
  | refreshTokens =>
      exact opens_map _ (opens_bind _ _ (opens_other _ rfl) fun _ => opens_other _ rfl)
  | logOut => exact opens_map _ (opens_bind _ _ (opens_other _ rfl) fun _ =>
      opens_bind _ _ (opens_other _ rfl) (opens_log_out_end _ rfl fun _ => rfl))
  | sendOtp req => exact operates _ _
  | signUpWithPhone req => exact operates _ _
  | signInWithPhone req => exact operates _ _
  | signInWithGoogle idToken => exact operates _ _
  | signInWithApple idToken => exact operates _ _
  | signUpWithOAuth req => exact operates _ _
  | refreshCall promise refreshToken =>
      exact opens_map _ (opens_bind _ _ (opens_outcome _) fun _ => opens_other _ rfl)

end Programs

section Runs
variable {device : Device} {fresh : AuthStore → Int → Prop}

theorem waits_released (world : World) (task : Task) (promise : Nat) (waits : Waits task promise)
    (resolved : world.promises[promise]? = some .resolved) :
    task.residual.awaiting.any (isReleased world) = true := by
  obtain ⟨query, awaits, stands⟩ := Option.bind_eq_some_iff.mp waits
  rw [awaits]
  cases query with
  | resumeRequest other config =>
      cases stands
      simp [isReleased, resolved]
  | resumeResponse other config =>
      cases stands
      simp [isReleased, resolved]
  | _ => cases stands

section Answers
variable (state : State) (index : Nat) (tick : Tick) (task : Task) (query : Query)
  (resume : Except ErrorResponse query.Answer → Tick →
    Residual Query Query.Answer ErrorResponse Tick Result)
  (coherent : (client device).Coherent state) (present : state.tasks[index]? = some task)
  (awaits : task.residual = .await query resume)
include coherent present awaits

theorem waits_answered (other : Task) (promise : Nat)
    (member : other ∈ ((client device).answer state index task query resume tick).tasks)
    (waits : Waits other promise) :
    (∃ place, place ≠ index ∧ state.tasks[place]? = some other) ∨
      ∃ follower, handover query (perform device tick query state.world).1 = some follower ∧
        refreshAwaited follower = some promise := by
  obtain ⟨place, inside, same⟩ := List.getElem_of_mem member
  have lookup := (List.getElem?_eq_getElem inside).trans (congrArg some same)
  rcases (client device).answer_tasks state index task query resume tick present place other lookup
    with ⟨-, rfl⟩ | ⟨apart, old⟩ | ⟨-, request, -, rfl⟩
  · obtain ⟨follower, next, stands⟩ := Option.bind_eq_some_iff.mp waits
    have chained :=
      (client device).answer_chains handed state coherent index tick task query follower
      resume (chains_program device task.request) present awaits next
    exact Or.inr ⟨follower, chained promise stands, stands⟩
  · exact Or.inl ⟨place, apart, old⟩
  · obtain ⟨follower, opening, stands⟩ := Option.bind_eq_some_iff.mp waits
    have opened := opens_program device request tick follower opening .clearAll (.ok ())
      promise stands
    cases opened

omit coherent in
theorem other_waits (promise : Nat) (apart : refreshAwaited query ≠ some promise)
    (waiter : ∃ other ∈ state.tasks, Waits other promise) :
    ∃ other ∈ ((client device).answer state index task query resume tick).tasks,
      Waits other promise := by
  obtain ⟨other, member, waits⟩ := waiter
  obtain ⟨place, inside, rfl⟩ := List.getElem_of_mem member
  have found := List.getElem?_eq_getElem inside
  by_cases own : place = index
  · subst own
    obtain rfl := Option.some.inj (found.symm.trans present)
    simp only [Waits, awaits, Residual.awaiting, Option.bind_some] at waits
    exact absurd waits apart
  · have later :=
      (client device).answer_task_other state index task query resume tick place _ found own
    exact ⟨_, List.mem_of_getElem? later, waits⟩

omit coherent present awaits in
theorem released_store (released : isReleased state.world query = true) :
    (perform device tick query state.world).2.store = state.world.store := by
  cases query with
  | resumeRequest other config =>
      rcases resume_cases other config state.world with ⟨error, -, shape⟩ | ⟨-, sending, shape⟩ <;>
        simp [perform, segmentOf, shape]
  | resumeResponse other config =>
      rcases resume_cases other config state.world with ⟨error, -, shape⟩ | ⟨-, sending, shape⟩ <;>
        simp [perform, segmentOf, shape]
  | settled other => rfl
  | _ => cases released

omit coherent present awaits in
theorem released_unfinished (released : isReleased state.world query = true) :
    ClientPromises.finished query = none := by
  cases query with
  | finishRefresh promise outcome => cases released
  | _ => rfl

theorem held_answered (promised : Promised device state) (turned : Turned fresh state) :
    ∀ promise, (perform device tick query state.world).2.refreshPromise = some promise →
      promise < (perform device tick query state.world).2.promises.length ∧
        ((∃ error, (perform device tick query state.world).2.promises[promise]? =
          some (.rejected error)) ∨
          ∃ other ∈ ((client device).answer state index task query resume tick).tasks,
            Waits other promise) := by
  intro promise after
  have grows := @ClientLock.grows_promises device tick query state.world
  have older (kept : state.world.refreshPromise = some promise)
      (apart : refreshAwaited query ≠ some promise) :
      promise < (perform device tick query state.world).2.promises.length ∧
        ((∃ error, (perform device tick query state.world).2.promises[promise]? =
          some (.rejected error)) ∨
          ∃ other ∈ ((client device).answer state index task query resume tick).tasks,
            Waits other promise) := by
    obtain ⟨inside, failed | waiter⟩ := turned.held promise kept
    · obtain ⟨error, rejected⟩ := failed
      exact ⟨Nat.lt_of_lt_of_le inside grows,
        Or.inl ⟨error, ClientPromises.settled_stays state promised
        index tick task query resume coherent present awaits promise _ rejected nofun⟩⟩
    · exact ⟨Nat.lt_of_lt_of_le inside grows, Or.inr (other_waits state index tick task query resume
        present awaits promise apart waiter)⟩
  have idles (idle : refreshAwaited query = none) : refreshAwaited query ≠ some promise := by
    simp [idle]
  cases lock_step device tick query state.world with
  | joined other follower held leads waits idle same =>
      exact older (by rw [← same]; exact after) (idles idle)
  | took follower settlement free leads waits idle now grown =>
      obtain rfl := Option.some.inj (now.symm.trans after)
      obtain ⟨later, found, stands⟩ := answer_waits state coherent index tick task query follower _
        resume present awaits leads waits
      exact ⟨by simp [grown], Or.inr ⟨later, List.mem_of_getElem? found, stands⟩⟩
  | resumed other waits leads freed => simp [freed] at after
  | failed other error waits rejected leads same =>
      have kept : state.world.refreshPromise = some promise := by rw [← same]; exact after
      by_cases own : other = promise
      · subst own
        exact ⟨Nat.lt_of_lt_of_le (turned.held other kept).1 grows,
          Or.inl ⟨error, by rw [same]; exact rejected⟩⟩
      · exact older kept (by simpa [waits] using own)
  | settled other outcome settlement finishes kept =>
      exact older (by rw [← kept]; exact after) (by rw [finishes]; nofun)
  | called settlement calls kept => exact older (by rw [← kept]; exact after) (by rw [calls]; nofun)
  | apart leads idle kept => exact older (by rw [← kept]; exact after) (idles idle)

omit coherent present awaits in
theorem handed_held (follower : Query) (promise : Nat)
    (leads : handover query (perform device tick query state.world).1 = some follower)
    (waits : refreshAwaited follower = some promise) :
    (state.world.refreshPromise = some promise ∧ (perform device tick query state.world).2 =
      state.world) ∨
      (promise = state.world.promises.length ∧ ∃ settlement,
        (perform device tick query state.world).2.promises = state.world.promises ++ [settlement] ∧
          settlement ≠ .resolved) := by
  cases lock_step device tick query state.world with
  | joined other next held led stands idle same =>
      obtain rfl := Option.some.inj (led.symm.trans leads)
      obtain rfl := Option.some.inj (stands.symm.trans waits)
      exact Or.inl ⟨held, same⟩
  | took next settlement free led stands idle now grown =>
      obtain rfl := Option.some.inj (led.symm.trans leads)
      obtain rfl := Option.some.inj (stands.symm.trans waits)
      -- A refresh that has just been started cannot be over yet.
      refine Or.inr ⟨rfl, settlement, grown, ?_⟩
      rintro rfl
      cases promise_step device tick query state.world with
      | kept same => simp [same] at grown
      | started refreshToken token pending => simp [pending] at grown
      | refused token rejected => simp [rejected] at grown
      | settled other outcome finishes settles =>
          have lengths := congrArg List.length (settles.symm.trans grown)
          simp at lengths
  | resumed other stands led => simp [led] at leads
  | failed other error stands rejected led => simp [led] at leads
  | settled other outcome settlement finishes =>
      subst finishes
      cases leads
  | called settlement calls =>
      subst calls
      cases leads
  | apart led => simp [led] at leads

theorem inside_answered (turned : Turned fresh state) :
    ∀ other ∈ ((client device).answer state index task query resume tick).tasks,
      ∀ promise, Waits other promise →
        promise < (perform device tick query state.world).2.promises.length := by
  intro other member promise waits
  have grows := @ClientLock.grows_promises device tick query state.world
  rcases waits_answered state index tick task query resume coherent present awaits other
    promise member
    waits with ⟨place, -, old⟩ | ⟨follower, leads, stands⟩
  · exact Nat.lt_of_lt_of_le (turned.inside other (List.mem_of_getElem? old) promise waits) grows
  · rcases handed_held state tick query follower promise leads stands with
      ⟨held, -⟩ | ⟨rfl, settlement, grown, -⟩
    · exact Nat.lt_of_lt_of_le (turned.held promise held).1 grows
    · simp [grown]

omit coherent present awaits in
theorem resolves_now (promise : Nat) (inside : promise < state.world.promises.length)
    (before : state.world.promises[promise]? ≠ some .resolved)
    (after : (perform device tick query state.world).2.promises[promise]? = some .resolved) :
    ∃ data, query = .finishRefresh promise (.ok (some data)) := by
  cases promise_step device tick query state.world with
  | kept same => exact absurd (same ▸ after) before
  | started refreshToken token grown =>
      rw [grown, List.getElem?_append_left inside] at after
      exact absurd after before
  | refused token grown =>
      rw [grown, List.getElem?_append_left inside] at after
      exact absurd after before
  | settled other outcome finishes settles =>
      rw [settles, List.getElem?_set] at after
      split at after
      · next own =>
          subst own
          rcases outcome with error | (none | data)
          · simp [inside, ClientPromises.settlementOf] at after
          · simp [inside, ClientPromises.settlementOf] at after
          · exact ⟨data, finishes⟩
      · exact absurd after before

theorem renewed_answered (turned : Turned fresh state)
    (fills : ∀ promise data, query = .finishRefresh promise (.ok (some data)) →
      fresh (perform device tick query state.world).2.store tick.now)
    (turns : (∃ waiter ∈ state.tasks,
      waiter.residual.awaiting.any (isReleased state.world) = true) →
      isReleased state.world query = true) :
    ∀ other ∈ ((client device).answer state index task query resume tick).tasks, ∀ promise,
      Waits other promise → (perform device tick query state.world).2.promises[promise]? =
        some .resolved →
      ∃ last ∈ lastFinish ((client device).answer state index task query resume tick).trace,
        fresh (perform device tick query state.world).2.store last.tick.now := by
  intro other member promise waits resolved
  -- Where somebody is due to resume, this segment is such a resumption, and it stores nothing.
  by_cases due : ∃ waiter ∈ state.tasks, ∃ held, Waits waiter held ∧
      state.world.promises[held]? = some .resolved
  · obtain ⟨waiter, waiting, held, holds, settled⟩ := due
    have released := turns ⟨waiter, waiting, waits_released _ waiter held holds settled⟩
    obtain ⟨last, newest, renewed⟩ := turned.renewed waiter waiting held holds settled
    have behind : lastFinish ((client device).answer state index task query resume tick).trace =
        lastFinish state.trace := by
      have unfinished := released_unfinished state query released
      exact List.find?_cons_of_neg (by simp [unfinished])
    rw [behind, released_store state tick query released]
    exact ⟨last, newest, renewed⟩
  -- Otherwise only the end of a refresh resolves a promise, here and now.
  · have unsettled (waiter : Task) (waiting : waiter ∈ state.tasks) (held : Nat)
        (holds : Waits waiter held) : state.world.promises[held]? ≠ some .resolved := fun settled =>
      due ⟨waiter, waiting, held, holds, settled⟩
    rcases waits_answered state index tick task query resume coherent present awaits other
      promise member
      waits with ⟨place, -, old⟩ | ⟨follower, leads, stands⟩
    · have known := List.mem_of_getElem? old
      obtain ⟨data, finishes⟩ := resolves_now state tick query promise
        (turned.inside other known promise waits) (unsettled other known promise waits) resolved
      subst finishes
      exact ⟨_, List.find?_cons_of_pos rfl, fills promise data rfl⟩
    · rcases handed_held state tick query follower promise leads stands with
        ⟨held, same⟩ | ⟨rfl, settlement, grown, other⟩
      · rw [same] at resolved
        rcases (turned.held promise held).2 with ⟨error, rejected⟩ | ⟨waiter, waiting, holds⟩
        · rw [rejected] at resolved
          cases resolved
        · exact absurd resolved (unsettled waiter waiting promise holds)
      · rw [grown, List.getElem?_concat_length] at resolved
        exact absurd (Option.some.inj resolved) other

end Answers

theorem turned_step (state : State) (action : Action) (coherent : (client device).Coherent state)
    (promised : Promised device state) (turned : Turned fresh state)
    (fills : ∀ entry ∈ (client device).upcoming state action, ∀ promise data,
      entry.query = .finishRefresh promise (.ok (some data)) →
      fresh (perform device entry.tick entry.query state.world).2.store entry.tick.now)
    (turns : InTurn device state action) : Turned fresh ((client device).step state action) := by
  have transition := (client device).step_transition state action
  generalize (client device).step state action = after at transition ⊢
  cases transition with
  | idle => exact turned
  | arrived request tick external =>
      -- A task that has just arrived waits for no refresh.
      have idle (promise : Nat) : ¬ Waits ((client device).launch tick state.trace.length request)
        promise := by
        intro waits
        obtain ⟨follower, opening, stands⟩ := Option.bind_eq_some_iff.mp waits
        cases opens_program device request tick follower opening .clearAll (.ok ()) promise stands
      have old (other : Task) (promise : Nat) (waits : Waits other promise)
          (member : other ∈ state.tasks ++
            [(client device).launch tick state.trace.length request]) :
          other ∈ state.tasks := by
        rcases List.mem_append.mp member with known | new
        · exact known
        · obtain rfl := List.mem_singleton.mp new
          exact absurd waits (idle promise)
      refine ⟨fun promise held => ?_, fun other member promise waits => ?_,
        fun other member promise waits => ?_⟩
      · obtain ⟨inside, failed | ⟨other, member, waits⟩⟩ := turned.held promise held
        · exact ⟨inside, Or.inl failed⟩
        · exact ⟨inside, Or.inr ⟨other, List.mem_append_left _ member, waits⟩⟩
      · exact turned.inside other (old other promise waits member) promise waits
      · exact turned.renewed other (old other promise waits member) promise waits
  | answered index tick task query resume present awaits ready =>
      have comes := Machine.upcoming_answered (client device) state index tick task query
        resume present awaits ready
      refine ⟨held_answered state index tick task query resume coherent present awaits
        promised turned,
        inside_answered state index tick task query resume coherent present awaits turned,
        renewed_answered state index tick task query resume coherent present awaits turned
          (fills _ comes) fun due => ?_⟩
      obtain ⟨entry, next, released⟩ := turns due
      obtain rfl := Option.some.inj (comes.symm.trans next)
      exact released

end Runs
end TopInspect.RefreshTurns
