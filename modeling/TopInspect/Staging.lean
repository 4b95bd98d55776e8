import TopInspect.Interleaving

/-! Contracts with a stage. What a program may ask depends on the stage it has
reached, and every answer moves the stage on, so one contract says that a query
comes at most once, that it comes right after another, or that a program cannot
end before it has asked. The stage of a task is read off its own history. -/
namespace TopInspect.Staging

open Resumption Interleaving

variable {Query : Type} {Answer : Query → Type} {Error Tick World Stage α β : Type}

structure Contract (Query : Type) (Answer : Query → Type) (Error Stage : Type) where
  allowed : (query : Query) → Except Error (Answer query) → Prop
  asks : Stage → Query → Prop
  moves : Stage → (query : Query) → Except Error (Answer query) → Stage

section Programs
variable (contract : Contract Query Answer Error Stage)

def Residual.Obeys (post : Stage → Except Error α → Prop) :
    Residual Query Answer Error Tick α → Stage → Prop
  | .done value, stage => post stage (.ok value)
  | .throw error, stage => post stage (.error error)
  | .await query resume, stage =>
      contract.asks stage query ∧ ∀ result tick, contract.allowed query result →
        Residual.Obeys post (resume result tick) (contract.moves stage query result)

def Obeys (stage : Stage) (program : Async Query Answer Error Tick α)
    (post : Stage → Except Error α → Prop) : Prop :=
  ∀ tick, Residual.Obeys contract post (program tick) stage

variable {contract} {post : Stage → Except Error α → Prop}
variable {last : Stage → Except Error β → Prop}

theorem obeys_pure (stage : Stage) (value : α) (holds : post stage (.ok value)) :
    Obeys contract stage (pure value : Async Query Answer Error Tick α) post := fun _ => holds

theorem obeys_call (stage : Stage) (query : Query)
    {post : Stage → Except Error (Answer query) → Prop} (asked : contract.asks stage query)
    (holds : ∀ result, contract.allowed query result →
      post (contract.moves stage query result) result) :
    Obeys contract stage (call query : Async Query Answer Error Tick (Answer query)) post := by
  intro tick
  constructor
  · exact asked
  · intro result now answered
    cases result with
    | ok answer => exact holds _ answered
    | error error => exact holds _ answered

def Onward (contract : Contract Query Answer Error Stage)
    (next : α → Async Query Answer Error Tick β) (last : Stage → Except Error β → Prop)
    (stage : Stage) : Except Error α → Prop
  | .ok value => Obeys contract stage (next value) last
  | .error error => last stage (.error error)

theorem obeys_bind_at (next : α → Async Query Answer Error Tick β)
    (residual : Residual Query Answer Error Tick α) (stage : Stage) (tick : Tick)
    (first : Residual.Obeys contract (Onward contract next last) residual stage) :
    Residual.Obeys contract last (residual.bindAt next tick) stage := by
  induction residual generalizing stage tick with
  | done value => exact first tick
  | throw error => exact first
  | await query resume ih =>
      exact ⟨first.1, fun result now answered =>
        ih result now _ now (first.2 result now answered)⟩

theorem obeys_bind (stage : Stage) (program : Async Query Answer Error Tick α)
    (next : α → Async Query Answer Error Tick β)
    (first : Obeys contract stage program (Onward contract next last)) :
    Obeys contract stage (program >>= next) last :=
  fun tick => obeys_bind_at next (program tick) stage tick (first tick)

theorem obeys_mono_at {other : Stage → Except Error α → Prop}
    (weaker : ∀ stage result, post stage result → other stage result)
    (residual : Residual Query Answer Error Tick α) (stage : Stage)
    (obeys : Residual.Obeys contract post residual stage) :
    Residual.Obeys contract other residual stage := by
  induction residual generalizing stage with
  | done value => exact weaker _ _ obeys
  | throw error => exact weaker _ _ obeys
  | await query resume ih =>
      exact ⟨obeys.1, fun result now answered => ih result now _ (obeys.2 result now answered)⟩

theorem obeys_mono {stage : Stage} {program : Async Query Answer Error Tick α}
    {other : Stage → Except Error α → Prop} (obeys : Obeys contract stage program post)
    (weaker : ∀ stage result, post stage result → other stage result) :
    Obeys contract stage program other :=
  fun tick => obeys_mono_at weaker (program tick) stage (obeys tick)

theorem obeys_catch_at (handler : Error → Async Query Answer Error Tick α)
    (residual : Residual Query Answer Error Tick α) (stage : Stage) (tick : Tick)
    (first : Residual.Obeys contract (fun later result =>
      match result with
      | .ok value => post later (.ok value)
      | .error error => Obeys contract later (handler error) post) residual stage) :
    Residual.Obeys contract post (residual.catchAt handler tick) stage := by
  induction residual generalizing stage tick with
  | done value => exact first
  | throw error => exact first tick
  | await query resume ih =>
      exact ⟨first.1, fun result now answered =>
        ih result now _ now (first.2 result now answered)⟩

theorem obeys_catch (stage : Stage) (program : Async Query Answer Error Tick α)
    (handler : Error → Async Query Answer Error Tick α)
    (first : Obeys contract stage program fun later result =>
      match result with
      | .ok value => post later (.ok value)
      | .error error => Obeys contract later (handler error) post) :
    Obeys contract stage (tryCatch program handler) post :=
  fun tick => obeys_catch_at handler (program tick) stage tick (first tick)

end Programs

section Histories
variable (moves : Stage → (query : Query) → Except Error (Answer query) → Stage)
variable (perform : Perform Query Answer Error Tick World)

/-- The stage after the events of a history, oldest first. -/
def stageAfter (stage : Stage) (history : List (Event Query Tick World)) : Stage :=
  history.foldl (fun stage event =>
    moves stage event.query (perform event.tick event.query event.before).1) stage

theorem stage_snoc (stage : Stage) (history : List (Event Query Tick World))
    (event : Event Query Tick World) :
    stageAfter moves perform stage (history ++ [event]) =
      moves (stageAfter moves perform stage history) event.query
        (perform event.tick event.query event.before).1 := by
  simp [stageAfter]

variable {contract : Contract Query Answer Error Stage} {post : Stage → Except Error α → Prop}

theorem obeys_follows (stage : Stage) (residual final : Residual Query Answer Error Tick α)
    (history : List (Event Query Tick World)) (obeys : Residual.Obeys contract post residual stage)
    (answered : ∀ event ∈ history,
      contract.allowed event.query (perform event.tick event.query event.before).1)
    (follows : Follows perform residual history final) :
    Residual.Obeys contract post final (stageAfter contract.moves perform stage history) := by
  induction history generalizing residual stage with
  | nil =>
      rw [follows_nil] at follows
      exact follows ▸ obeys
  | cons event rest ih =>
      cases residual with
      | done value => exact absurd follows (by simp)
      | throw error => exact absurd follows (by simp)
      | await query resume =>
          obtain ⟨rfl, follows⟩ := follows
          exact ih _ _ (obeys.2 _ _ (answered event (by simp)))
            (fun other member => answered other (by simp [member])) follows

end Histories

section Tasks
variable {Request Reply : Type} {machine : Machine Request Query Answer Error Tick World Reply}
variable (moves : Stage → (query : Query) → Except Error (Answer query) → Stage)
variable (perform : Perform Query Answer Error Tick World) (first : Stage)

def stageOf (trace : List (Entry Request Query Tick World)) (index : Nat) : Stage :=
  stageAfter moves perform first (history index trace)

theorem stage_own (entry : Entry Request Query Tick World)
    (trace : List (Entry Request Query Tick World)) :
    stageOf moves perform first (entry :: trace) entry.task =
      moves (stageOf moves perform first trace entry.task) entry.query
        (perform entry.tick entry.query entry.before).1 := by
  rw [stageOf, history_cons_own, stage_snoc]
  rfl

theorem stage_other (entry : Entry Request Query Tick World)
    (trace : List (Entry Request Query Tick World)) (index : Nat) (other : entry.task ≠ index) :
    stageOf moves perform first (entry :: trace) index =
      stageOf moves perform first trace index := by
  rw [stageOf, history_cons_other index entry trace other]
  rfl

variable {contract : Contract Query Answer Error Stage} {first : Stage}

/-- What is left of a task obeys the contract from the stage it has reached. -/
theorem task_obeys (post : Stage → Except Error Reply → Prop)
    (state : State Request Query Answer Error Tick World Reply)
    (coherent : machine.Coherent state) (index : Nat)
    (task : Task Request Query Answer Error Tick Reply)
    (obeys : Obeys contract first (machine.program task.request) post)
    (answered : ∀ entry ∈ state.trace, entry.task = index →
      contract.allowed entry.query (machine.perform entry.tick entry.query entry.before).1)
    (present : state.tasks[index]? = some task) :
    Residual.Obeys contract post task.residual
      (stageOf contract.moves machine.perform first state.trace index) := by
  obtain ⟨tick, follows⟩ := coherent.follows index task present
  refine obeys_follows machine.perform first _ _ _ (obeys tick) ?_ follows
  intro event member
  obtain ⟨entry, known, own, rfl⟩ := (mem_history index state.trace event).mp member
  exact answered entry known own

theorem obeys_awaiting (post : Stage → Except Error α → Prop) (stage : Stage)
    (residual : Residual Query Answer Error Tick α) (query : Query)
    (obeys : Residual.Obeys contract post residual stage)
    (awaits : residual.awaiting = some query) : contract.asks stage query := by
  cases residual with
  | done value => simp [Residual.awaiting] at awaits
  | throw error => simp [Residual.awaiting] at awaits
  | await other resume =>
      obtain rfl : other = query := by simpa [Residual.awaiting] using awaits
      exact obeys.1

theorem obeys_settled (ends : Stage → Prop) (stage : Stage)
    (residual : Residual Query Answer Error Tick α)
    (obeys : Residual.Obeys contract (fun later _ => ends later) residual stage)
    (settled : residual.awaiting = none) : ends stage := by
  cases residual with
  | done value => exact obeys
  | throw error => exact obeys
  | await query resume => simp [Residual.awaiting] at settled

end Tasks
end TopInspect.Staging
