import TopInspect.Interleaving

/-! Contracts of suspendable programs whose ticks are fair: what is asked and what a program
ends with may rest on the clock and the draws of its own segments. -/
namespace TopInspect.TickContracts

open Resumption Interleaving

variable {Query : Type} {Answer : Query → Type} {Error Tick α β : Type}
variable (fair : Tick → Prop) (told : (query : Query) → Except Error (Answer query) → Prop)
variable (asks : Query → Prop)

/-- As long as every tick is fair and every answer is one that may be told, the rest of a
program asks queries of a kind only, and what it ends with meets the postcondition. -/
def Pledged (post : Except Error α → Prop) : Residual Query Answer Error Tick α → Prop
  | .done value => post (.ok value)
  | .throw error => post (.error error)
  | .await query resume =>
      asks query ∧ ∀ result tick, told query result → fair tick → Pledged post (resume result tick)

def Pledges (program : Async Query Answer Error Tick α) (post : Except Error α → Prop) : Prop :=
  ∀ tick, fair tick → Pledged fair told asks post (program tick)

def Onward (next : α → Async Query Answer Error Tick β) (post : Except Error β → Prop) :
    Except Error α → Prop
  | .ok value => Pledges fair told asks (next value) post
  | .error error => post (.error error)

def Handled (handler : Error → Async Query Answer Error Tick α) (post : Except Error α → Prop) :
    Except Error α → Prop
  | .ok value => post (.ok value)
  | .error error => Pledges fair told asks (handler error) post

variable {fair told asks} {post : Except Error α → Prop} {last : Except Error β → Prop}

theorem pledges_pure (value : α) (holds : post (.ok value)) :
    Pledges fair told asks (pure value : Async Query Answer Error Tick α) post := fun _ _ => holds

theorem pledges_throw (error : Error) (holds : post (.error error)) :
    Pledges fair told asks (throw error : Async Query Answer Error Tick α) post := fun _ _ => holds

theorem pledges_call (query : Query) {post : Except Error (Answer query) → Prop}
    (asked : asks query) (holds : ∀ result, told query result → post result) :
    Pledges fair told asks (call query : Async Query Answer Error Tick (Answer query)) post := by
  intro tick _
  refine ⟨asked, fun result now answered _ => ?_⟩
  cases result with
  | ok answer => exact holds _ answered
  | error error => exact holds _ answered

theorem pledged_bind (next : α → Async Query Answer Error Tick β)
    (residual : Residual Query Answer Error Tick α) (tick : Tick) (start : fair tick)
    (first : Pledged fair told asks (Onward fair told asks next last) residual) :
    Pledged fair told asks last (residual.bindAt next tick) := by
  induction residual generalizing tick with
  | done value => exact first tick start
  | throw error => exact first
  | await query resume ih =>
      exact ⟨first.1, fun result now answered sound =>
        ih result now now sound (first.2 result now answered sound)⟩

theorem pledges_bind (program : Async Query Answer Error Tick α)
    (next : α → Async Query Answer Error Tick β)
    (first : Pledges fair told asks program (Onward fair told asks next last)) :
    Pledges fair told asks (program >>= next) last :=
  fun tick start => pledged_bind next (program tick) tick start (first tick start)

theorem pledged_mono {other : Except Error α → Prop} (weaker : ∀ result, post result → other result)
    (residual : Residual Query Answer Error Tick α)
    (pledged : Pledged fair told asks post residual) :
    Pledged fair told asks other residual := by
  induction residual with
  | done value => exact weaker _ pledged
  | throw error => exact weaker _ pledged
  | await query resume ih =>
      exact ⟨pledged.1,
        fun result now answered sound => ih result now (pledged.2 result now answered sound)⟩

theorem pledges_mono {program : Async Query Answer Error Tick α} {other : Except Error α → Prop}
    (pledges : Pledges fair told asks program post)
    (weaker : ∀ result, post result → other result) :
    Pledges fair told asks program other :=
  fun tick start => pledged_mono weaker (program tick) (pledges tick start)

theorem pledged_fair {fewer : Tick → Prop} (narrower : ∀ tick, fewer tick → fair tick)
    (residual : Residual Query Answer Error Tick α)
    (pledged : Pledged fair told asks post residual) :
    Pledged fewer told asks post residual := by
  induction residual with
  | done value => exact pledged
  | throw error => exact pledged
  | await query resume ih =>
      exact ⟨pledged.1, fun result now answered sound =>
        ih result now (pledged.2 result now answered (narrower now sound))⟩

theorem pledges_fair {fewer : Tick → Prop} (narrower : ∀ tick, fewer tick → fair tick)
    {program : Async Query Answer Error Tick α} (pledges : Pledges fair told asks program post) :
    Pledges fewer told asks program post :=
  fun tick start => pledged_fair narrower (program tick) (pledges tick (narrower tick start))

theorem pledges_after (program : Async Query Answer Error Tick α)
    (next : α → Async Query Answer Error Tick β) (first : Pledges fair told asks program post)
    (thrown : ∀ error, last (.error error))
    (second : ∀ value, post (.ok value) → Pledges fair told asks (next value) last) :
    Pledges fair told asks (program >>= next) last := by
  refine pledges_bind program next (pledges_mono first ?_)
  rintro (error | value) holds
  · exact thrown error
  · exact second value holds

theorem pledges_map (change : α → β) {program : Async Query Answer Error Tick α}
    (pledges : Pledges fair told asks program fun result => last (result.map change)) :
    Pledges fair told asks (change <$> program) last := by
  refine pledges_bind program _ (pledges_mono pledges ?_)
  rintro (error | value) holds
  · exact holds
  · exact pledges_pure _ holds

theorem pledged_catch (handler : Error → Async Query Answer Error Tick α)
    (residual : Residual Query Answer Error Tick α) (tick : Tick) (start : fair tick)
    (first : Pledged fair told asks (Handled fair told asks handler post) residual) :
    Pledged fair told asks post (residual.catchAt handler tick) := by
  induction residual generalizing tick with
  | done value => exact first
  | throw error => exact first tick start
  | await query resume ih =>
      exact ⟨first.1, fun result now answered sound =>
        ih result now now sound (first.2 result now answered sound)⟩

theorem pledges_catch (program : Async Query Answer Error Tick α)
    (handler : Error → Async Query Answer Error Tick α)
    (first : Pledges fair told asks program (Handled fair told asks handler post)) :
    Pledges fair told asks (tryCatch program handler) post :=
  fun tick start => pledged_catch handler (program tick) tick start (first tick start)

theorem pledges_ite (condition : Prop) [Decidable condition]
    (yes no : Async Query Answer Error Tick α) (first : Pledges fair told asks yes post)
    (second : Pledges fair told asks no post) :
    Pledges fair told asks (if condition then yes else no) post := by
  split
  · exact first
  · exact second

theorem pledged_avoids (always : ∀ tick, fair tick) (any : ∀ query result, told query result)
    (residual : Residual Query Answer Error Tick α)
    (pledged : Pledged fair told asks post residual) :
    residual.Avoids fun query => ¬ asks query := by
  induction residual with
  | done value => trivial
  | throw error => trivial
  | await query resume ih =>
      exact ⟨not_not.mpr pledged.1, fun result now =>
        ih result now (pledged.2 result now (any query result) (always now))⟩

theorem pledges_avoids (always : ∀ tick, fair tick) (any : ∀ query result, told query result)
    {program : Async Query Answer Error Tick α} (pledges : Pledges fair told asks program post) :
    Avoids (fun query => ¬ asks query) program :=
  fun tick => pledged_avoids always any (program tick) (pledges tick (always tick))

/-- What is left of a program after a fair history still stands by its contract. -/
theorem pledged_follows {World : Type} (perform : Perform Query Answer Error Tick World)
    (residual last : Residual Query Answer Error Tick α) (history : List (Event Query Tick World))
    (pledged : Pledged fair told asks post residual)
    (fairly : ∀ event ∈ history, fair event.tick ∧
      told event.query (perform event.tick event.query event.before).1)
    (follows : Follows perform residual history last) : Pledged fair told asks post last := by
  induction history generalizing residual with
  | nil =>
      rw [follows_nil] at follows
      exact follows ▸ pledged
  | cons event rest ih =>
      cases residual with
      | done value => exact absurd follows (by simp)
      | throw error => exact absurd follows (by simp)
      | await query resume =>
          obtain ⟨rfl, follows⟩ := follows
          obtain ⟨sound, answered⟩ := fairly event List.mem_cons_self
          exact ih _ (pledged.2 _ _ answered sound)
            (fun other member => fairly other (List.mem_cons_of_mem event member)) follows

theorem avoids_pledged (residual : Residual Query Answer Error Tick α)
    (avoids : residual.Avoids fun query => ¬ asks query) :
    Pledged fair told asks (fun _ => True) residual := by
  induction residual with
  | done value => trivial
  | throw error => trivial
  | await query resume ih =>
      exact ⟨not_not.mp avoids.1, fun result now _ _ => ih result now (avoids.2 result now)⟩

theorem avoids_pledges (program : Async Query Answer Error Tick α)
    (avoids : Avoids (fun query => ¬ asks query) program) :
    Pledges fair told asks program fun _ => True :=
  fun tick _ => avoids_pledged (program tick) (avoids tick)

/-! Tasks that each have a contract of their own. -/
section Tasks
variable {Request World Reply : Type}
    (machine : Machine Request Query Answer Error Tick World Reply)
variable (fair : Nat → Request → Tick → Prop)
  (told : Nat → (query : Query) → Except Error (Answer query) → Prop)
  (asks : Nat → Request → Query → Prop) (post : Nat → Request → Except Error Reply → Prop)

/-- Every task stands by the contract of its place. -/
def Bound (state : State Request Query Answer Error Tick World Reply) : Prop :=
  ∀ (index : Nat) (task : Task Request Query Answer Error Tick Reply),
    state.tasks[index]? = some task →
    Pledged (fair index task.request) (told index) (asks index task.request)
      (post index task.request) task.residual

/-- The tick of an action is fair to the tasks it reaches, and its answer may be told. -/
structure FairStep (state : State Request Query Answer Error Tick World Reply)
    (action : Action Request Tick) : Prop where
  arrives : ∀ request tick, action = .arrive request tick → fair state.tasks.length request tick
  answers : ∀ entry ∈ machine.upcoming state action, fair entry.task entry.request entry.tick ∧
    told entry.task entry.query (machine.perform entry.tick entry.query entry.before).1
  starts : ∀ entry ∈ machine.upcoming state action,
    ∀ request ∈ machine.spawned entry.tick entry.query entry.before,
      ∀ index, fair index request entry.tick

variable {machine fair told asks post}

theorem bound_step (pledges : ∀ index request,
      Pledges (fair index request) (told index) (asks index request) (machine.program request)
        (post index request))
    (state : State Request Query Answer Error Tick World Reply) (action : Action Request Tick)
    (bound : Bound fair told asks post state) (step : FairStep machine fair told state action) :
    Bound fair told asks post (machine.step state action) := by
  have transition := machine.step_transition state action
  generalize machine.step state action = after at transition ⊢
  cases transition with
  | idle => exact bound
  | arrived request tick external =>
      intro index task found
      rw [List.getElem?_append] at found
      split at found
      · exact bound index task found
      · next outside =>
          obtain ⟨inside, rfl⟩ := List.getElem?_eq_some_iff.mp found
          obtain rfl : index = state.tasks.length := by
            simp only [List.length_singleton] at inside
            omega
          simpa [Machine.launch] using pledges _ request tick (step.arrives request tick rfl)
  | answered index tick task query resume present awaits ready =>
      have comes := machine.upcoming_answered state index tick task query resume present
        awaits ready
      obtain ⟨fairly, answered⟩ := step.answers _ comes
      intro other found lookup
      rcases machine.answer_tasks state index task query resume tick present other found lookup with
        ⟨rfl, rfl⟩ | ⟨-, old⟩ | ⟨-, request, spawns, rfl⟩
      · have pledged := bound other task present
        rw [awaits] at pledged
        exact pledged.2 _ tick answered fairly
      · exact bound other found old
      · exact pledges other request tick (step.starts _ comes request spawns other)

theorem bound_asks (state : State Request Query Answer Error Tick World Reply)
    (bound : Bound fair told asks post state) (index : Nat)
    (task : Task Request Query Answer Error Tick Reply) (query : Query)
    (present : state.tasks[index]? = some task) (awaits : task.residual.awaiting = some query) :
    asks index task.request query := by
  have pledged := bound index task present
  cases residual : task.residual with
  | done value => simp [residual, Residual.awaiting] at awaits
  | throw error => simp [residual, Residual.awaiting] at awaits
  | await asked resume =>
      rw [residual] at pledged awaits
      obtain rfl := Option.some.inj awaits
      exact pledged.1

theorem bound_done (state : State Request Query Answer Error Tick World Reply)
    (bound : Bound fair told asks post state) (index : Nat)
    (task : Task Request Query Answer Error Tick Reply) (value : Reply)
    (present : state.tasks[index]? = some task) (done : task.residual = .done value) :
    post index task.request (.ok value) := by
  have pledged := bound index task present
  rw [done] at pledged
  exact pledged

end Tasks

end TopInspect.TickContracts
