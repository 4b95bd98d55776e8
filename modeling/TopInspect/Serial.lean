import Mathlib.Data.List.Basic
import TopInspect.Interleaving

/-! Requests served one after another. `exec` runs one program to its end with
nobody in between; a serial state serves visits, and the tasks they spawn wait
in a queue for a background turn. -/
namespace TopInspect.Serial

open Resumption Interleaving

section Execution
variable {Query : Type} {Answer : Query → Type} {Error Tick World α β : Type}

/-- A running execution: the world, the tick of the running segment, the ticks
of the segments to come, and the events so far, oldest first. -/
structure Run (Query Tick World : Type) where
  world : World
  tick : Tick
  ticks : Nat → Tick
  log : List (Event Query Tick World)

variable (perform : Perform Query Answer Error Tick World)

def Run.after (run : Run Query Tick World) (query : Query) : Run Query Tick World :=
  { world := (perform (run.ticks 0) query run.world).2
    tick := run.ticks 0
    ticks := fun n => run.ticks (n + 1)
    log := run.log ++ [⟨query, run.ticks 0, run.world⟩] }

def finish : Residual Query Answer Error Tick α → Run Query Tick World →
    Except Error α × Run Query Tick World
  | .done value, run => (.ok value, run)
  | .throw error, run => (.error error, run)
  | .await query resume, run =>
      finish (resume (perform (run.ticks 0) query run.world).1 (run.ticks 0))
        (run.after perform query)

def exec (program : Async Query Answer Error Tick α) (run : Run Query Tick World) :
    Except Error α × Run Query Tick World :=
  finish perform (program run.tick) run

theorem finish_bind (next : α → Async Query Answer Error Tick β)
    (residual : Residual Query Answer Error Tick α) (run : Run Query Tick World) :
    finish perform (residual.bindAt next run.tick) run =
      match finish perform residual run with
      | (.ok value, last) => exec perform (next value) last
      | (.error error, last) => (.error error, last) := by
  induction residual generalizing run with
  | done value => rfl
  | throw error => rfl
  | await query resume ih => exact ih _ _ (run.after perform query)

theorem finish_catch (handler : Error → Async Query Answer Error Tick α)
    (residual : Residual Query Answer Error Tick α) (run : Run Query Tick World) :
    finish perform (residual.catchAt handler run.tick) run =
      match finish perform residual run with
      | (.ok value, last) => (.ok value, last)
      | (.error error, last) => exec perform (handler error) last := by
  induction residual generalizing run with
  | done value => rfl
  | throw error => rfl
  | await query resume ih => exact ih _ _ (run.after perform query)

@[simp] theorem exec_pure (value : α) (run : Run Query Tick World) :
    exec perform (pure value : Async Query Answer Error Tick α) run = (.ok value, run) := rfl

@[simp] theorem exec_throw (error : Error) (run : Run Query Tick World) :
    exec perform (throw error : Async Query Answer Error Tick α) run = (.error error, run) := rfl

@[simp] theorem exec_current_tick (run : Run Query Tick World) :
    exec perform (currentTick : Async Query Answer Error Tick Tick) run = (.ok run.tick, run) := rfl

@[simp] theorem exec_bind (program : Async Query Answer Error Tick α)
    (next : α → Async Query Answer Error Tick β) (run : Run Query Tick World) :
    exec perform (program >>= next) run =
      match exec perform program run with
      | (.ok value, last) => exec perform (next value) last
      | (.error error, last) => (.error error, last) :=
  finish_bind perform next (program run.tick) run

/-- A sequence that returned a value ran its first part to a value. -/
theorem exec_bind_ok (program : Async Query Answer Error Tick α)
    (next : α → Async Query Answer Error Tick β) (run : Run Query Tick World) (value : β)
    (returned : (exec perform (program >>= next) run).1 = .ok value) :
    ∃ middle, (exec perform program run).1 = .ok middle ∧
      (exec perform (next middle) (exec perform program run).2).1 = .ok value ∧
      exec perform (program >>= next) run =
        exec perform (next middle) (exec perform program run).2 := by
  rw [exec_bind] at returned
  rw [exec_bind]
  rcases first : exec perform program run with ⟨error | middle, last⟩
  · rw [first] at returned
    cases returned
  · rw [first] at returned
    exact ⟨middle, rfl, returned, rfl⟩

theorem exec_map (change : α → β) (program : Async Query Answer Error Tick α)
    (run : Run Query Tick World) :
    exec perform (change <$> program) run =
      ((exec perform program run).1.map change, (exec perform program run).2) := by
  rw [map_eq_pure_bind, exec_bind]
  rcases exec perform program run with ⟨error | value, last⟩ <;> rfl

@[simp] theorem exec_catch (program : Async Query Answer Error Tick α)
    (handler : Error → Async Query Answer Error Tick α) (run : Run Query Tick World) :
    exec perform (tryCatch program handler) run =
      match exec perform program run with
      | (.ok value, last) => (.ok value, last)
      | (.error error, last) => exec perform (handler error) last :=
  finish_catch perform handler (program run.tick) run

theorem exec_catch_ok (program : Async Query Answer Error Tick α)
    (handler : Error → Async Query Answer Error Tick α) (run : Run Query Tick World) (value : α)
    (returned : (exec perform (tryCatch program handler) run).1 = .ok value) :
    (exec perform program run).1 = .ok value ∨
      ∃ error last, (exec perform (handler error) last).1 = .ok value := by
  rw [exec_catch] at returned
  rcases first : exec perform program run with ⟨error | middle, last⟩
  · rw [first] at returned
    exact Or.inr ⟨error, last, returned⟩
  · rw [first] at returned
    exact Or.inl returned

@[simp] theorem exec_call (query : Query) (run : Run Query Tick World) :
    exec perform (call query : Async Query Answer Error Tick (Answer query)) run =
      ((perform (run.ticks 0) query run.world).1, run.after perform query) := by
  simp only [exec, call, finish]
  cases (perform (run.ticks 0) query run.world).1 <;> rfl

theorem exec_ite (condition : Prop) [Decidable condition]
    (yes no : Async Query Answer Error Tick α) (run : Run Query Tick World) :
    exec perform (if condition then yes else no) run =
      if condition then exec perform yes run else exec perform no run := by
  split <;> rfl

def Ends (program : Async Query Answer Error Tick α) (run : Run Query Tick World)
    (post : Except Error α → Run Query Tick World → Prop) : Prop :=
  post (exec perform program run).1 (exec perform program run).2

section Ends
variable {perform} {run : Run Query Tick World}
variable {post : Except Error α → Run Query Tick World → Prop}
variable {last : Except Error β → Run Query Tick World → Prop}

theorem ends_pure (value : α) (holds : post (.ok value) run) :
    Ends perform (pure value : Async Query Answer Error Tick α) run post := holds

theorem ends_mono {other : Except Error α → Run Query Tick World → Prop}
    {program : Async Query Answer Error Tick α} (ends : Ends perform program run post)
    (weaker : ∀ result after, post result after → other result after) :
    Ends perform program run other := weaker _ _ ends

def Resumes (perform : Perform Query Answer Error Tick World)
    (next : α → Async Query Answer Error Tick β)
    (last : Except Error β → Run Query Tick World → Prop) :
    Except Error α → Run Query Tick World → Prop
  | .ok value, run => Ends perform (next value) run last
  | .error error, run => last (.error error) run

theorem ends_bind (program : Async Query Answer Error Tick α)
    (next : α → Async Query Answer Error Tick β)
    (first : Ends perform program run (Resumes perform next last)) :
    Ends perform (program >>= next) run last := by
  unfold Ends at first ⊢
  rw [exec_bind]
  generalize exec perform program run = outcome at first ⊢
  rcases outcome with ⟨error | value, after⟩
  · exact first
  · exact first

theorem ends_after (program : Async Query Answer Error Tick α)
    (next : α → Async Query Answer Error Tick β) (thrown : ∀ error after, last (.error error) after)
    (rest : ∀ value after, Ends perform (next value) after last) :
    Ends perform (program >>= next) run last := by
  apply ends_bind
  unfold Ends
  generalize exec perform program run = outcome
  rcases outcome with ⟨error | value, after⟩
  · exact thrown error after
  · exact rest value after

theorem ends_map (change : α → β) (program : Async Query Answer Error Tick α)
    (first : Ends perform program run fun result after => last (result.map change) after) :
    Ends perform (change <$> program) run last := by
  unfold Ends at first ⊢
  rw [exec_map]
  exact first

theorem ends_catch (program : Async Query Answer Error Tick α)
    (handler : Error → Async Query Answer Error Tick α)
    (first : Ends perform program run fun result after =>
      match result with
      | .ok value => post (.ok value) after
      | .error error => Ends perform (handler error) after post) :
    Ends perform (tryCatch program handler) run post := by
  unfold Ends at first ⊢
  rw [exec_catch]
  generalize exec perform program run = outcome at first ⊢
  rcases outcome with ⟨error | value, after⟩
  · exact first
  · exact first

theorem ends_ite (condition : Prop) [Decidable condition]
    (yes no : Async Query Answer Error Tick α) (left : condition → Ends perform yes run post)
    (right : ¬ condition → Ends perform no run post) :
    Ends perform (if condition then yes else no) run post := by
  by_cases holds : condition
  · simpa [holds] using left holds
  · simpa [holds] using right holds

end Ends

def settle : Except Error α → Residual Query Answer Error Tick α
  | .ok value => .done value
  | .error error => .throw error

/-- An execution is a history of its program that ends in its result. -/
theorem finish_follows (residual : Residual Query Answer Error Tick α)
    (run : Run Query Tick World) :
    ∃ history, (finish perform residual run).2.log = run.log ++ history ∧
      Follows perform residual history (settle (finish perform residual run).1) := by
  induction residual generalizing run with
  | done value => exact ⟨[], by simp [finish], by simp [finish, settle]⟩
  | throw error => exact ⟨[], by simp [finish], by simp [finish, settle]⟩
  | await query resume ih =>
      obtain ⟨history, grows, follows⟩ := ih _ _ (run.after perform query)
      refine ⟨⟨query, run.ticks 0, run.world⟩ :: history, ?_, ⟨rfl, follows⟩⟩
      exact grows.trans (by simp [Run.after])

/-- The ticks of an execution: that of the running segment, then those to come. -/
def Run.clock (run : Run Query Tick World) : Nat → Tick
  | 0 => run.tick
  | n + 1 => run.ticks n

theorem finish_clock (residual : Residual Query Answer Error Tick α)
    (run : Run Query Tick World) :
    ∃ spent, ∀ n, (finish perform residual run).2.clock n = run.clock (n + spent) := by
  induction residual generalizing run with
  | done value => exact ⟨0, fun _ => rfl⟩
  | throw error => exact ⟨0, fun _ => rfl⟩
  | await query resume ih =>
      obtain ⟨spent, moves⟩ := ih _ _ (run.after perform query)
      refine ⟨spent + 1, fun n => (moves n).trans ?_⟩
      show (run.after perform query).clock (n + spent) = run.clock (n + spent + 1)
      cases n + spent <;> rfl

theorem call_clock (query : Query) (next : Answer query → Async Query Answer Error Tick α)
    (run : Run Query Tick World) :
    ∃ spent, ∀ n, (exec perform (call query >>= next) run).2.clock n =
      run.clock (n + spent + 1) := by
  obtain ⟨spent, moves⟩ := finish_clock perform _ (run.after perform query)
  refine ⟨spent, fun n => (moves n).trans ?_⟩
  cases n + spent <;> rfl

/-- What every query outside a kind does to the world, an execution that avoids
the kind does. -/
theorem finish_relates (relates : World → World → Prop) (kind : Query → Prop)
    (stays : ∀ world, relates world world)
    (joins : ∀ first middle last, relates first middle → relates middle last → relates first last)
    (moves : ∀ tick query world, ¬ kind query → relates world (perform tick query world).2)
    (residual : Residual Query Answer Error Tick α) (run : Run Query Tick World)
    (avoids : residual.Avoids kind) :
    relates run.world (finish perform residual run).2.world := by
  induction residual generalizing run with
  | done value => exact stays _
  | throw error => exact stays _
  | await query resume ih =>
      exact joins _ _ _ (moves (run.ticks 0) query run.world avoids.1)
        (ih _ _ (run.after perform query) (avoids.2 _ _))

theorem exec_relates (relates : World → World → Prop) (kind : Query → Prop)
    (stays : ∀ world, relates world world)
    (joins : ∀ first middle last, relates first middle → relates middle last → relates first last)
    (moves : ∀ tick query world, ¬ kind query → relates world (perform tick query world).2)
    (program : Async Query Answer Error Tick α) (run : Run Query Tick World)
    (avoids : Avoids kind program) : relates run.world (exec perform program run).2.world :=
  finish_relates perform relates kind stays joins moves (program run.tick) run (avoids run.tick)

theorem exec_keeps {Part : Type} (part : World → Part) (kind : Query → Prop)
    (keeps : ∀ tick query world, ¬ kind query →
      part (perform tick query world).2 = part world)
    (program : Async Query Answer Error Tick α) (run : Run Query Tick World)
    (avoids : Avoids kind program) :
    part (exec perform program run).2.world = part run.world :=
  exec_relates perform (fun before after => part after = part before) kind (fun _ => rfl)
    (fun _ _ _ first second => second.trans first) keeps program run avoids

theorem exec_log (kind : Query → Prop) (program : Async Query Answer Error Tick α)
    (run : Run Query Tick World) (avoids : Avoids kind program) :
    ∃ history, (exec perform program run).2.log = run.log ++ history ∧
      ∀ event ∈ history, ¬ kind event.query := by
  obtain ⟨history, grows, follows⟩ := finish_follows perform (program run.tick) run
  exact ⟨history, grows, (avoids_follows perform _ _ history (avoids run.tick) follows).2⟩

end Execution

section Serving
variable {Request Query : Type} {Answer : Query → Type} {Error Tick World Reply : Type}

/-- One request served to its end, with everything it met and did. Background
tasks have no caller. -/
structure Served (Request Query Error Tick World Reply : Type) where
  caller : Option Nat
  request : Request
  tick : Tick
  ticks : Nat → Tick
  before : World
  result : Except Error Reply
  log : List (Event Query Tick World)

def Served.clock (record : Served Request Query Error Tick World Reply) : Nat → Tick
  | 0 => record.tick
  | n + 1 => record.ticks n

/-- The run that an execution of this request starts as. -/
def Served.opening (record : Served Request Query Error Tick World Reply) :
    Run Query Tick World :=
  { world := record.before, tick := record.tick, ticks := record.ticks, log := [] }

/-- `served` is newest first; `queue` holds the spawned tasks not yet run. -/
structure State (Request Query Error Tick World Reply : Type) where
  world : World
  queue : List Request
  served : List (Served Request Query Error Tick World Reply)

inductive Turn (Request Tick : Type) where
  | visit (caller : Nat) (request : Request) (tick : Tick) (ticks : Nat → Tick)
  | background (tick : Tick) (ticks : Nat → Tick)

def Turn.clock : Turn Request Tick → Nat → Tick
  | .visit _ _ tick _, 0 => tick
  | .visit _ _ _ ticks, n + 1 => ticks n
  | .background tick _, 0 => tick
  | .background _ ticks, n + 1 => ticks n

def idle (world : World) : State Request Query Error Tick World Reply :=
  { world, queue := [], served := [] }

variable (machine : Machine Request Query Answer Error Tick World Reply)

def execution (request : Request) (tick : Tick) (ticks : Nat → Tick) (world : World) :
    Except Error Reply × Run Query Tick World :=
  exec machine.perform (machine.program request) { world, tick, ticks, log := [] }

def serve (state : State Request Query Error Tick World Reply) (caller : Option Nat)
    (request : Request) (tick : Tick) (ticks : Nat → Tick) :
    State Request Query Error Tick World Reply :=
  let outcome := execution machine request tick ticks state.world
  { world := outcome.2.world
    queue := state.queue ++ outcome.2.log.flatMap fun event =>
      machine.spawned event.tick event.query event.before
    served := { caller, request, tick, ticks, before := state.world,
                result := outcome.1, log := outcome.2.log } :: state.served }

def turn (state : State Request Query Error Tick World Reply) :
    Turn Request Tick → State Request Query Error Tick World Reply
  | .visit caller request tick ticks =>
      if machine.external request then serve machine state (some caller) request tick ticks
      else state
  | .background tick ticks =>
      match state.queue with
      | [] => state
      | request :: rest => serve machine { state with queue := rest } none request tick ticks

def serveAll (state : State Request Query Error Tick World Reply)
    (turns : List (Turn Request Tick)) : State Request Query Error Tick World Reply :=
  turns.foldl (turn machine) state

section Guarded
variable {machine}

/-- Every turn meets the guard in the state it is taken in. -/
def Guarded (machine : Machine Request Query Answer Error Tick World Reply)
    (guard : State Request Query Error Tick World Reply → Turn Request Tick → Prop) :
    State Request Query Error Tick World Reply → List (Turn Request Tick) → Prop
  | _, [] => True
  | state, next :: rest => guard state next ∧ Guarded machine guard (turn machine state next) rest

variable {guard : State Request Query Error Tick World Reply → Turn Request Tick → Prop}

instance decidableGuarded [∀ state next, Decidable (guard state next)] :
    ∀ (state : State Request Query Error Tick World Reply) (turns : List (Turn Request Tick)),
      Decidable (Guarded machine guard state turns)
  | _, [] => inferInstanceAs (Decidable True)
  | state, next :: rest =>
      have := decidableGuarded (turn machine state next) rest
      inferInstanceAs (Decidable (guard state next ∧ Guarded machine guard _ rest))

theorem guarded_and {other : State Request Query Error Tick World Reply → Turn Request Tick → Prop}
    (state : State Request Query Error Tick World Reply) (turns : List (Turn Request Tick))
    (left : Guarded machine guard state turns) (right : Guarded machine other state turns) :
    Guarded machine (fun state next => guard state next ∧ other state next) state turns := by
  induction turns generalizing state with
  | nil => trivial
  | cons next rest ih => exact ⟨⟨left.1, right.1⟩, ih _ left.2 right.2⟩

theorem guarded_mono {other : State Request Query Error Tick World Reply → Turn Request Tick → Prop}
    (weaker : ∀ state next, guard state next → other state next)
    (state : State Request Query Error Tick World Reply) (turns : List (Turn Request Tick))
    (guarded : Guarded machine guard state turns) : Guarded machine other state turns := by
  induction turns generalizing state with
  | nil => trivial
  | cons next rest ih => exact ⟨weaker state next guarded.1, ih _ guarded.2⟩

variable (machine guard) in
/-- An invariant is checked once, at the serving of one request. -/
theorem guarded_serve (invariant : State Request Query Error Tick World Reply → Prop)
    (visited : ∀ state caller request tick ticks, invariant state →
      machine.external request = true → guard state (.visit caller request tick ticks) →
      invariant (serve machine state (some caller) request tick ticks))
    (ran : ∀ state request rest tick ticks, invariant state →
      state.queue = request :: rest → guard state (.background tick ticks) →
      invariant (serve machine { state with queue := rest } none request tick ticks))
    (state : State Request Query Error Tick World Reply) (turns : List (Turn Request Tick))
    (initial : invariant state) (guarded : Guarded machine guard state turns) :
    invariant (serveAll machine state turns) := by
  induction turns generalizing state with
  | nil => exact initial
  | cons next rest ih =>
      refine ih _ ?_ guarded.2
      cases next with
      | visit caller request tick ticks =>
          simp only [turn]
          split
          · next admitted =>
              exact visited state caller request tick ticks initial admitted guarded.1
          · exact initial
      | background tick ticks =>
          simp only [turn]
          split
          · exact initial
          · next request others pending =>
              exact ran state request others tick ticks initial pending guarded.1

end Guarded
end Serving
end TopInspect.Serial
