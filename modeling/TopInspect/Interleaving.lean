import Mathlib.Data.List.Basic
import TopInspect.Resumption

/-! Tasks over one shared world. A schedule interleaves the tasks at the
granularity of single queries: each step performs the query one task awaits,
and the trace keeps every performed query with the world it met. Nothing is
assumed of the order; a property of a run holds for every schedule. -/
namespace TopInspect.Interleaving

open Resumption

/-- `ready` lets a query block; `spawned` lists the tasks a query starts, which
no request from outside can start unless it is `external`. -/
structure Machine (Request Query : Type) (Answer : Query → Type)
    (Error Tick World Reply : Type) where
  program : Request → Async Query Answer Error Tick Reply
  external : Request → Bool
  ready : Query → World → Bool
  perform : Perform Query Answer Error Tick World
  spawned : Tick → Query → World → List Request

structure Task (Request Query : Type) (Answer : Query → Type) (Error Tick Reply : Type) where
  request : Request
  born : Nat
  residual : Residual Query Answer Error Tick Reply

structure Entry (Request Query Tick World : Type) extends Event Query Tick World where
  task : Nat
  request : Request
  born : Nat

/-- The trace is newest first; `born` counts the entries before a task existed. -/
structure State (Request Query : Type) (Answer : Query → Type)
    (Error Tick World Reply : Type) where
  world : World
  tasks : List (Task Request Query Answer Error Tick Reply)
  trace : List (Entry Request Query Tick World)

inductive Action (Request Tick : Type) where
  | arrive (request : Request) (tick : Tick)
  | advance (index : Nat) (tick : Tick)

variable {Request Query : Type} {Answer : Query → Type} {Error Tick World Reply : Type}

def history (index : Nat) (trace : List (Entry Request Query Tick World)) :
    List (Event Query Tick World) :=
  ((trace.filter fun entry => entry.task = index).map fun entry => entry.toEvent).reverse

@[simp] theorem history_nil (index : Nat) :
    history index ([] : List (Entry Request Query Tick World)) = [] := rfl

theorem history_cons_own (entry : Entry Request Query Tick World)
    (trace : List (Entry Request Query Tick World)) :
    history entry.task (entry :: trace) = history entry.task trace ++ [entry.toEvent] := by
  simp [history]

theorem history_cons_other (index : Nat) (entry : Entry Request Query Tick World)
    (trace : List (Entry Request Query Tick World)) (other : entry.task ≠ index) :
    history index (entry :: trace) = history index trace := by
  simp [history, other]

theorem mem_history (index : Nat) (trace : List (Entry Request Query Tick World))
    (event : Event Query Tick World) :
    event ∈ history index trace ↔
      ∃ entry ∈ trace, entry.task = index ∧ entry.toEvent = event := by
  simp [history, and_assoc]

/-- An event of a task is an entry of the trace, after those of the task's earlier events. -/
theorem history_split (index : Nat) (trace : List (Entry Request Query Tick World))
    (event : Event Query Tick World) (past rest : List (Event Query Tick World))
    (known : history index trace = past ++ event :: rest) :
    ∃ later entry earlier, trace = later ++ entry :: earlier ∧ entry.task = index ∧
      entry.toEvent = event ∧ history index earlier = past := by
  induction trace generalizing rest with
  | nil => simp at known
  | cons entry trace ih =>
      by_cases own : entry.task = index
      · subst own
        rw [history_cons_own] at known
        rcases List.eq_nil_or_concat rest with rfl | ⟨start, last, rfl⟩
        · obtain ⟨before, same⟩ := List.append_inj' known rfl
          exact ⟨[], entry, trace, rfl, rfl, List.singleton_inj.mp same, before⟩
        · have longer : history entry.task trace ++ [entry.toEvent] = (past ++ event :: start) ++
            [last] := by
            rw [known]
            simp
          obtain ⟨before, -⟩ := List.append_inj' longer rfl
          obtain ⟨later, found, earlier, rfl, rest⟩ := ih start before
          exact ⟨entry :: later, found, earlier, rfl, rest⟩
      · rw [history_cons_other index entry trace own] at known
        obtain ⟨later, found, earlier, rfl, rest⟩ := ih rest known
        exact ⟨entry :: later, found, earlier, rfl, rest⟩

theorem count_history (mark : Query → Bool) (index : Nat)
    (trace : List (Entry Request Query Tick World)) :
    (history index trace).countP (fun event => mark event.query) =
      trace.countP fun entry => decide (entry.task = index) && mark entry.query := by
  simp only [history, List.countP_reverse, List.countP_map, List.countP_filter]
  congr 1
  funext entry
  exact Bool.and_comm _ _

def start (world : World) : State Request Query Answer Error Tick World Reply :=
  { world, tasks := [], trace := [] }

namespace Machine

variable (machine : Machine Request Query Answer Error Tick World Reply)

def launch (tick : Tick) (born : Nat) (request : Request) :
    Task Request Query Answer Error Tick Reply :=
  { request, born, residual := machine.program request tick }

def answer (state : State Request Query Answer Error Tick World Reply) (index : Nat)
    (task : Task Request Query Answer Error Tick Reply) (query : Query)
    (resume : Except Error (Answer query) → Tick → Residual Query Answer Error Tick Reply)
    (tick : Tick) : State Request Query Answer Error Tick World Reply :=
  let outcome := machine.perform tick query state.world
  { world := outcome.2
    tasks := state.tasks.set index { task with residual := resume outcome.1 tick } ++
      (machine.spawned tick query state.world).map (machine.launch tick (state.trace.length + 1))
    trace := { query, tick, before := state.world, task := index,
               request := task.request, born := task.born } :: state.trace }

/-- An action that does not apply leaves the state alone. -/
def step (state : State Request Query Answer Error Tick World Reply) :
    Action Request Tick → State Request Query Answer Error Tick World Reply
  | .arrive request tick =>
      if machine.external request then
        { state with tasks := state.tasks ++ [machine.launch tick state.trace.length request] }
      else state
  | .advance index tick =>
      match state.tasks[index]? with
      | none => state
      | some task =>
          match task.residual with
          | .done _ => state
          | .throw _ => state
          | .await query resume =>
              if machine.ready query state.world then
                machine.answer state index task query resume tick
              else state

def run (state : State Request Query Answer Error Tick World Reply)
    (schedule : List (Action Request Tick)) :
    State Request Query Answer Error Tick World Reply :=
  schedule.foldl machine.step state

@[simp] theorem run_nil (state : State Request Query Answer Error Tick World Reply) :
    machine.run state [] = state := rfl

@[simp] theorem run_cons (state : State Request Query Answer Error Tick World Reply)
    (action : Action Request Tick) (rest : List (Action Request Tick)) :
    machine.run state (action :: rest) = machine.run (machine.step state action) rest := rfl

theorem run_append (state : State Request Query Answer Error Tick World Reply)
    (left right : List (Action Request Tick)) :
    machine.run state (left ++ right) = machine.run (machine.run state left) right := by
  simp [run]

/-- Everything one action can do. -/
inductive Transition (state : State Request Query Answer Error Tick World Reply) :
    Action Request Tick → State Request Query Answer Error Tick World Reply → Prop where
  | idle (action : Action Request Tick) : Transition state action state
  | arrived (request : Request) (tick : Tick) (external : machine.external request = true) :
      Transition state (.arrive request tick)
        { state with tasks := state.tasks ++ [machine.launch tick state.trace.length request] }
  | answered (index : Nat) (tick : Tick) (task : Task Request Query Answer Error Tick Reply)
      (query : Query)
      (resume : Except Error (Answer query) → Tick → Residual Query Answer Error Tick Reply)
      (present : state.tasks[index]? = some task)
      (awaits : task.residual = .await query resume)
      (ready : machine.ready query state.world = true) :
      Transition state (.advance index tick) (machine.answer state index task query resume tick)

theorem idle_stays (state : State Request Query Answer Error Tick World Reply)
    (action : Action Request Tick) : machine.Transition state action state := .idle action

theorem step_transition (state : State Request Query Answer Error Tick World Reply)
    (action : Action Request Tick) :
    machine.Transition state action (machine.step state action) := by
  cases action with
  | arrive request tick =>
      by_cases external : machine.external request = true
      · simpa [step, external] using Transition.arrived request tick external
      · simpa [step, external] using idle_stays machine state (.arrive request tick)
  | advance index tick =>
      cases present : state.tasks[index]? with
      | none => simpa [step, present] using idle_stays machine state (.advance index tick)
      | some task =>
          cases awaits : task.residual with
          | done value =>
              simpa [step, present, awaits] using
                idle_stays machine state (.advance index tick)
          | throw error =>
              simpa [step, present, awaits] using
                idle_stays machine state (.advance index tick)
          | await query resume =>
              by_cases ready : machine.ready query state.world = true
              · simpa [step, present, awaits, ready] using
                  Transition.answered index tick task query resume present awaits ready
              · simpa [step, present, awaits, ready] using
                  idle_stays machine state (.advance index tick)

def upcoming (state : State Request Query Answer Error Tick World Reply) :
    Action Request Tick → Option (Entry Request Query Tick World)
  | .arrive _ _ => none
  | .advance index tick =>
      match state.tasks[index]? with
      | none => none
      | some task =>
          match task.residual.awaiting with
          | none => none
          | some query =>
              if machine.ready query state.world then
                some { query, tick, before := state.world, task := index,
                       request := task.request, born := task.born }
              else none

theorem upcoming_answered (state : State Request Query Answer Error Tick World Reply)
    (index : Nat) (tick : Tick) (task : Task Request Query Answer Error Tick Reply) (query : Query)
    (resume : Except Error (Answer query) → Tick → Residual Query Answer Error Tick Reply)
    (present : state.tasks[index]? = some task) (awaits : task.residual = .await query resume)
    (ready : machine.ready query state.world = true) :
    machine.upcoming state (.advance index tick) =
      some { query, tick, before := state.world, task := index,
             request := task.request, born := task.born } := by
  simp [upcoming, present, awaits, Residual.awaiting, ready]

/-- An upcoming entry is the answer its action gives. -/
theorem upcoming_step (state : State Request Query Answer Error Tick World Reply)
    (action : Action Request Tick) (entry : Entry Request Query Tick World)
    (comes : machine.upcoming state action = some entry) :
    ∃ task resume, state.tasks[entry.task]? = some task ∧
      task.residual = .await entry.query resume ∧ entry.before = state.world ∧
      machine.step state action =
        machine.answer state entry.task task entry.query resume entry.tick := by
  cases action with
  | arrive request tick => simp [upcoming] at comes
  | advance index tick =>
      simp only [upcoming] at comes
      split at comes
      · cases comes
      · next task present =>
          cases awaits : task.residual with
          | done value => simp [awaits, Residual.awaiting] at comes
          | throw error => simp [awaits, Residual.awaiting] at comes
          | await query resume =>
              simp only [awaits, Residual.awaiting] at comes
              split at comes
              · next ready =>
                  obtain rfl := Option.some.inj comes
                  exact ⟨task, resume, present, awaits, rfl, by simp [step, present, awaits, ready]⟩
              · cases comes

theorem upcoming_owner (state : State Request Query Answer Error Tick World Reply)
    (action : Action Request Tick) (entry : Entry Request Query Tick World)
    (comes : machine.upcoming state action = some entry) :
    action = .advance entry.task entry.tick ∧ ∃ task, state.tasks[entry.task]? = some task ∧
      task.request = entry.request ∧ task.residual.awaiting = some entry.query := by
  cases action with
  | arrive request tick => simp [upcoming] at comes
  | advance index tick =>
      simp only [upcoming] at comes
      split at comes
      · cases comes
      · next task present =>
          split at comes
          · cases comes
          · next query awaits =>
              split at comes
              · obtain rfl := Option.some.inj comes
                exact ⟨rfl, task, present, rfl, awaits⟩
              · cases comes

theorem upcoming_tick (state : State Request Query Answer Error Tick World Reply) (index : Nat)
    (tick : Tick) (entry : Entry Request Query Tick World)
    (comes : machine.upcoming state (.advance index tick) = some entry) : entry.tick = tick := by
  simp only [upcoming] at comes
  split at comes
  · cases comes
  · split at comes
    · cases comes
    · split at comes
      · obtain rfl := Option.some.inj comes
        rfl
      · cases comes

theorem quiet_step (state : State Request Query Answer Error Tick World Reply)
    (action : Action Request Tick) (quiet : machine.upcoming state action = none) :
    (machine.step state action).world = state.world ∧ ∀ (index : Nat)
      (task : Task Request Query Answer Error Tick Reply), state.tasks[index]? = some task →
      (machine.step state action).tasks[index]? = some task := by
  have transition := machine.step_transition state action
  generalize machine.step state action = after at transition ⊢
  cases transition with
  | idle => exact ⟨rfl, fun _ _ present => present⟩
  | arrived request tick =>
      exact ⟨rfl, fun index task present =>
        (List.getElem?_append_left (List.getElem?_eq_some_iff.mp present).1).trans present⟩
  | answered index tick task query resume present awaits ready =>
      cases quiet.symm.trans
        (machine.upcoming_answered state index tick task query resume present awaits ready)

section Guarded

variable {machine}

/-- Every action of the schedule meets the guard in the state it is taken in. -/
def Guarded (machine : Machine Request Query Answer Error Tick World Reply)
    (guard : State Request Query Answer Error Tick World Reply → Action Request Tick → Prop) :
    State Request Query Answer Error Tick World Reply → List (Action Request Tick) → Prop
  | _, [] => True
  | state, action :: rest =>
      guard state action ∧ machine.Guarded guard (machine.step state action) rest

variable {guard : State Request Query Answer Error Tick World Reply →
  Action Request Tick → Prop}

instance decidableGuarded [∀ state action, Decidable (guard state action)] :
    ∀ (state : State Request Query Answer Error Tick World Reply)
      (schedule : List (Action Request Tick)), Decidable (machine.Guarded guard state schedule)
  | _, [] => inferInstanceAs (Decidable True)
  | state, action :: rest =>
      have := decidableGuarded (machine.step state action) rest
      inferInstanceAs (Decidable (guard state action ∧
        machine.Guarded guard (machine.step state action) rest))

theorem guarded_append (state : State Request Query Answer Error Tick World Reply)
    (left right : List (Action Request Tick)) :
    machine.Guarded guard state (left ++ right) ↔
      machine.Guarded guard state left ∧ machine.Guarded guard (machine.run state left) right := by
  induction left generalizing state with
  | nil => simp [Guarded]
  | cons action rest ih => simp [Guarded, ih, and_assoc]

theorem guarded_trivial (state : State Request Query Answer Error Tick World Reply)
    (schedule : List (Action Request Tick)) :
    machine.Guarded (fun _ _ => True) state schedule := by
  induction schedule generalizing state with
  | nil => trivial
  | cons action rest ih => exact ⟨trivial, ih _⟩

theorem guarded_actions (allowed : Action Request Tick → Prop)
    (state : State Request Query Answer Error Tick World Reply)
    (schedule : List (Action Request Tick)) (all : ∀ action ∈ schedule, allowed action) :
    machine.Guarded (fun _ action => allowed action) state schedule := by
  induction schedule generalizing state with
  | nil => trivial
  | cons action rest ih =>
      exact ⟨all action (by simp), ih _ fun other member => all other (by simp [member])⟩

theorem guarded_mono {other : State Request Query Answer Error Tick World Reply →
      Action Request Tick → Prop} (weaker : ∀ state action, guard state action → other state action)
    (state : State Request Query Answer Error Tick World Reply)
    (schedule : List (Action Request Tick)) (guarded : machine.Guarded guard state schedule) :
    machine.Guarded other state schedule := by
  induction schedule generalizing state with
  | nil => trivial
  | cons action rest ih => exact ⟨weaker state action guarded.1, ih _ guarded.2⟩

variable (machine guard) in
/-- What every guarded step keeps, every guarded run keeps. -/
theorem guarded_run (invariant : State Request Query Answer Error Tick World Reply → Prop)
    (preserved : ∀ state action, invariant state → guard state action →
      invariant (machine.step state action))
    (state : State Request Query Answer Error Tick World Reply)
    (schedule : List (Action Request Tick)) (initial : invariant state)
    (guarded : machine.Guarded guard state schedule) :
    invariant (machine.run state schedule) := by
  induction schedule generalizing state with
  | nil => exact initial
  | cons action rest ih =>
      exact ih _ (preserved state action initial guarded.1) guarded.2

theorem guarded_invariant
    (invariant : State Request Query Answer Error Tick World Reply → Prop)
    (preserved : ∀ state action, invariant state → guard state action →
      invariant (machine.step state action))
    (state : State Request Query Answer Error Tick World Reply)
    (schedule : List (Action Request Tick)) (initial : invariant state)
    (guarded : machine.Guarded guard state schedule) :
    machine.Guarded (fun state action => guard state action ∧ invariant state) state schedule := by
  induction schedule generalizing state with
  | nil => trivial
  | cons action rest ih =>
      exact ⟨⟨guarded.1, initial⟩, ih _ (preserved state action initial guarded.1) guarded.2⟩

theorem step_trace (state : State Request Query Answer Error Tick World Reply)
    (action : Action Request Tick) : state.trace <:+ (machine.step state action).trace := by
  have transition := machine.step_transition state action
  generalize machine.step state action = after at transition ⊢
  cases transition with
  | idle => exact List.suffix_rfl
  | arrived => exact List.suffix_rfl
  | answered => exact List.suffix_cons _ _

theorem upcoming_trace (state : State Request Query Answer Error Tick World Reply)
    (action : Action Request Tick) (entry : Entry Request Query Tick World)
    (comes : machine.upcoming state action = some entry) :
    (machine.step state action).trace = entry :: state.trace := by
  cases action with
  | arrive request tick => simp [upcoming] at comes
  | advance index tick =>
      simp only [upcoming] at comes
      split at comes
      · cases comes
      · next task present =>
          cases awaits : task.residual with
          | done value => simp [awaits, Residual.awaiting] at comes
          | throw error => simp [awaits, Residual.awaiting] at comes
          | await query resume =>
              simp only [awaits, Residual.awaiting] at comes
              split at comes
              · next ready =>
                  obtain rfl := Option.some.inj comes
                  simp [step, present, awaits, ready, answer]
              · cases comes

theorem run_trace (state : State Request Query Answer Error Tick World Reply)
    (schedule : List (Action Request Tick)) :
    state.trace <:+ (machine.run state schedule).trace := by
  induction schedule generalizing state with
  | nil => exact List.suffix_rfl
  | cons action rest ih => exact (step_trace state action).trans (ih _)

theorem step_entries (state : State Request Query Answer Error Tick World Reply)
    (action : Action Request Tick) :
    (machine.step state action).trace = (machine.upcoming state action).toList ++ state.trace := by
  have transition := machine.step_transition state action
  cases comes : machine.upcoming state action with
  | some entry => exact upcoming_trace state action entry comes
  | none =>
      generalize machine.step state action = after at transition ⊢
      cases transition with
      | idle => rfl
      | arrived request tick => rfl
      | answered index tick task query resume present awaits ready =>
          rw [machine.upcoming_answered state index tick task query resume present awaits
            ready] at comes
          cases comes

/-- What holds of a final trace and of every suffix of it held at every step. -/
theorem guarded_trace (holds : List (Entry Request Query Tick World) → Prop)
    (suffixes : ∀ short long, short <:+ long → holds long → holds short)
    (state : State Request Query Answer Error Tick World Reply)
    (schedule : List (Action Request Tick)) (final : holds (machine.run state schedule).trace)
    (guarded : machine.Guarded guard state schedule) :
    machine.Guarded (fun state action => guard state action ∧
      holds (machine.step state action).trace)
      state schedule := by
  induction schedule generalizing state with
  | nil => trivial
  | cons action rest ih =>
      exact ⟨⟨guarded.1, suffixes _ _ (run_trace _ rest) final⟩, ih _ final guarded.2⟩

end Guarded

/-! A schedule whose actions answer to the state: each move is turned into an
action by the state it is made in. -/
section Plays
variable {Move : Type} {machine}

def actions (machine : Machine Request Query Answer Error Tick World Reply)
    (choose : State Request Query Answer Error Tick World Reply → Move → Action Request Tick) :
    State Request Query Answer Error Tick World Reply → List Move → List (Action Request Tick)
  | _, [] => []
  | state, move :: rest =>
      choose state move :: machine.actions choose (machine.step state (choose state move)) rest

/-- Every move meets the guard in the state it is made in. -/
def Along (machine : Machine Request Query Answer Error Tick World Reply)
    (choose : State Request Query Answer Error Tick World Reply → Move → Action Request Tick)
    (guard : State Request Query Answer Error Tick World Reply → Move → Prop) :
    State Request Query Answer Error Tick World Reply → List Move → Prop
  | _, [] => True
  | state, move :: rest =>
      guard state move ∧ machine.Along choose guard (machine.step state (choose state move)) rest

variable {choose : State Request Query Answer Error Tick World Reply → Move → Action Request Tick}
  {guard other : State Request Query Answer Error Tick World Reply → Move → Prop}

instance decidableAlong [∀ state move, Decidable (guard state move)] :
    ∀ (state : State Request Query Answer Error Tick World Reply) (moves : List Move),
      Decidable (machine.Along choose guard state moves)
  | _, [] => inferInstanceAs (Decidable True)
  | state, move :: rest =>
      have := decidableAlong (machine.step state (choose state move)) rest
      inferInstanceAs (Decidable (guard state move ∧
        machine.Along choose guard (machine.step state (choose state move)) rest))

theorem along_congr {given : State Request Query Answer Error Tick World Reply → Move → Prop}
    (agree : ∀ state move, given state move → (guard state move ↔ other state move))
    (state : State Request Query Answer Error Tick World Reply) (moves : List Move)
    (holds : machine.Along choose given state moves) :
    machine.Along choose guard state moves ↔ machine.Along choose other state moves := by
  induction moves generalizing state with
  | nil => exact Iff.rfl
  | cons move rest ih => exact and_congr (agree state move holds.1) (ih _ holds.2)

theorem entries_along (property : Entry Request Query Tick World → Prop)
    (state : State Request Query Answer Error Tick World Reply) (moves : List Move) :
    (∀ entry ∈ (machine.run state (machine.actions choose state moves)).trace, property entry) ↔
      (∀ entry ∈ state.trace, property entry) ∧
        machine.Along choose
          (fun state move => ∀ entry ∈ machine.upcoming state (choose state move), property entry)
          state moves := by
  induction moves generalizing state with
  | nil => simp [actions, Along]
  | cons move rest ih =>
      simp only [actions, run_cons, Along]
      rw [ih, step_entries]
      simp only [List.mem_append, Option.mem_toList, or_imp, forall_and]
      constructor
      · rintro ⟨⟨new, old⟩, later⟩
        exact ⟨old, new, later⟩
      · rintro ⟨old, new, later⟩
        exact ⟨⟨new, old⟩, later⟩

end Plays

/-! Coherence ties the tasks to the trace: each task stands where its own
events have led its program, and each entry belongs to a task. -/
section Coherence

variable {machine}

structure Coherent (machine : Machine Request Query Answer Error Tick World Reply)
    (state : State Request Query Answer Error Tick World Reply) : Prop where
  follows : ∀ (index : Nat) (task : Task Request Query Answer Error Tick Reply),
    state.tasks[index]? = some task → ∃ tick,
    Follows machine.perform (machine.program task.request tick)
      (history index state.trace) task.residual
  owner : ∀ entry ∈ state.trace, ∃ task : Task Request Query Answer Error Tick Reply,
    state.tasks[entry.task]? = some task ∧
    task.request = entry.request ∧ task.born = entry.born
  born : ∀ (index : Nat) (task : Task Request Query Answer Error Tick Reply),
    state.tasks[index]? = some task → task.born ≤ state.trace.length

variable (machine) in
theorem coherent_start (world : World) :
    machine.Coherent (start world : State Request Query Answer Error Tick World Reply) where
  follows := by simp [start]
  owner := by simp [start]
  born := by simp [start]

theorem task_entries (state : State Request Query Answer Error Tick World Reply)
    (coherent : machine.Coherent state) (index : Nat)
    (task : Task Request Query Answer Error Tick Reply)
    (present : state.tasks[index]? = some task) :
    ∀ entry ∈ state.trace, entry.task = index → entry.request = task.request := by
  rintro entry member rfl
  obtain ⟨owner, found, same, -⟩ := coherent.owner entry member
  obtain rfl := Option.some.inj (found.symm.trans present)
  exact same.symm

theorem history_unborn (state : State Request Query Answer Error Tick World Reply)
    (coherent : machine.Coherent state) (index : Nat) (absent : state.tasks.length ≤ index) :
    history index state.trace = [] := by
  rw [List.eq_nil_iff_forall_not_mem]
  intro event member
  obtain ⟨entry, present, own, -⟩ := (mem_history index state.trace event).mp member
  obtain ⟨task, found, -⟩ := coherent.owner entry present
  have inside := (List.getElem?_eq_some_iff.mp found).1
  omega

theorem coherent_arrived (state : State Request Query Answer Error Tick World Reply)
    (coherent : machine.Coherent state) (request : Request) (tick : Tick) :
    machine.Coherent
      { state with tasks := state.tasks ++ [machine.launch tick state.trace.length request] } where
  follows := by
    intro index task found
    rw [List.getElem?_append] at found
    split at found
    · exact coherent.follows index task found
    · next outside =>
        rw [history_unborn state coherent index (by omega)]
        obtain ⟨inside, rfl⟩ := List.getElem?_eq_some_iff.mp found
        exact ⟨tick, by simp [launch]⟩
  owner := by
    intro entry present
    obtain ⟨task, found, same⟩ := coherent.owner entry present
    exact ⟨task, List.getElem?_append_left (List.getElem?_eq_some_iff.mp found).1 ▸ found, same⟩
  born := by
    intro index task found
    rw [List.getElem?_append] at found
    split at found
    · exact coherent.born index task found
    · obtain ⟨inside, rfl⟩ := List.getElem?_eq_some_iff.mp found
      simp [launch]

variable (machine) in
/-- The tasks after an answer: the answered one resumed, the others as they
were, and the launched ones behind them. -/
theorem answer_tasks (state : State Request Query Answer Error Tick World Reply) (index : Nat)
    (task : Task Request Query Answer Error Tick Reply) (query : Query)
    (resume : Except Error (Answer query) → Tick → Residual Query Answer Error Tick Reply)
    (tick : Tick) (present : state.tasks[index]? = some task) (other : Nat)
    (found : Task Request Query Answer Error Tick Reply) :
    (machine.answer state index task query resume tick).tasks[other]? = some found →
      (other = index ∧
        found = { task with residual := resume (machine.perform tick query state.world).1 tick }) ∨
      (other ≠ index ∧ state.tasks[other]? = some found) ∨
      (state.tasks.length ≤ other ∧ ∃ request ∈ machine.spawned tick query state.world,
        found = machine.launch tick (state.trace.length + 1) request) := by
  intro lookup
  have inside := (List.getElem?_eq_some_iff.mp present).1
  simp only [answer, List.getElem?_append, List.length_set] at lookup
  split at lookup
  · rw [List.getElem?_set] at lookup
    split at lookup
    · next same =>
        simp only [Option.some.injEq] at lookup
        exact Or.inl ⟨same.symm, lookup.symm⟩
    · next different => exact Or.inr (Or.inl ⟨fun same => different same.symm, lookup⟩)
  · next outside =>
      obtain ⟨request, member, rfl⟩ := List.mem_map.mp (List.mem_of_getElem? lookup)
      exact Or.inr (Or.inr ⟨by omega, request, member, rfl⟩)

variable (machine) in
theorem answer_task_own (state : State Request Query Answer Error Tick World Reply) (index : Nat)
    (task : Task Request Query Answer Error Tick Reply) (query : Query)
    (resume : Except Error (Answer query) → Tick → Residual Query Answer Error Tick Reply)
    (tick : Tick) (present : state.tasks[index]? = some task) :
    (machine.answer state index task query resume tick).tasks[index]? =
      some { task with residual := resume (machine.perform tick query state.world).1 tick } := by
  have inside := (List.getElem?_eq_some_iff.mp present).1
  simp [answer, List.getElem?_append, inside]

variable (machine) in
theorem answer_task_other (state : State Request Query Answer Error Tick World Reply)
    (index : Nat) (task : Task Request Query Answer Error Tick Reply) (query : Query)
    (resume : Except Error (Answer query) → Tick → Residual Query Answer Error Tick Reply)
    (tick : Tick) (other : Nat) (found : Task Request Query Answer Error Tick Reply)
    (present : state.tasks[other]? = some found) (different : other ≠ index) :
    (machine.answer state index task query resume tick).tasks[other]? = some found := by
  have inside := (List.getElem?_eq_some_iff.mp present).1
  simp only [answer, List.getElem?_append, List.length_set, inside, if_true]
  rw [List.getElem?_set_ne (Ne.symm different), present]

variable (machine) in
theorem answer_requests (state : State Request Query Answer Error Tick World Reply) (index : Nat)
    (task : Task Request Query Answer Error Tick Reply) (query : Query)
    (resume : Except Error (Answer query) → Tick → Residual Query Answer Error Tick Reply)
    (tick : Tick) (present : state.tasks[index]? = some task) :
    (machine.answer state index task query resume tick).tasks.map Task.request =
      state.tasks.map Task.request ++ machine.spawned tick query state.world := by
  obtain ⟨inside, rfl⟩ := List.getElem?_eq_some_iff.mp present
  have same : (state.tasks.map Task.request).set index state.tasks[index].request =
      state.tasks.map Task.request := by
    apply List.ext_getElem?
    intro other
    by_cases own : index = other
    · subst own
      simp [inside]
    · rw [List.getElem?_set_ne own]
  simp only [answer, List.map_append, List.map_set, List.map_map, same]
  congr 1
  exact List.map_id _

theorem coherent_answered (state : State Request Query Answer Error Tick World Reply)
    (coherent : machine.Coherent state) (index : Nat) (tick : Tick)
    (task : Task Request Query Answer Error Tick Reply) (query : Query)
    (resume : Except Error (Answer query) → Tick → Residual Query Answer Error Tick Reply)
    (present : state.tasks[index]? = some task) (awaits : task.residual = .await query resume) :
    machine.Coherent (machine.answer state index task query resume tick) where
  follows := by
    intro other found lookup
    rcases machine.answer_tasks state index task query resume tick present other found lookup with
      ⟨rfl, rfl⟩ | ⟨different, old⟩ | ⟨outside, request, -, rfl⟩
    · obtain ⟨first, reached⟩ := coherent.follows other task present
      rw [awaits] at reached
      refine ⟨first, ?_⟩
      have extended := follows_snoc machine.perform _ _ query resume tick state.world reached
      simpa [answer, history] using extended
    · obtain ⟨first, reached⟩ := coherent.follows other found old
      refine ⟨first, ?_⟩
      have same := history_cons_other other
        { query, tick, before := state.world, task := index,
          request := task.request, born := task.born } state.trace (Ne.symm different)
      simpa [answer, same] using reached
    -- A task that has just been started has no history.
    · have unborn := history_unborn state coherent other outside
      have inside := (List.getElem?_eq_some_iff.mp present).1
      have same := history_cons_other other
        { query, tick, before := state.world, task := index,
          request := task.request, born := task.born } state.trace
        (show index ≠ other by omega)
      exact ⟨tick, by simp [answer, same, unborn, launch]⟩
  owner := by
    intro entry member
    rcases List.mem_cons.mp member with rfl | old
    · exact ⟨_, machine.answer_task_own state index task query resume tick present, rfl, rfl⟩
    · obtain ⟨owner, found, same⟩ := coherent.owner entry old
      by_cases own : entry.task = index
      · rw [own] at found
        obtain rfl : task = owner := Option.some.inj (present.symm.trans found)
        rw [own]
        exact ⟨_, machine.answer_task_own state index task query resume tick present, same⟩
      · exact ⟨owner, machine.answer_task_other state index task query resume tick _ owner found
          own, same⟩
  born := by
    intro other found lookup
    have grows : (machine.answer state index task query resume tick).trace.length =
        state.trace.length + 1 := by simp [answer]
    rcases machine.answer_tasks state index task query resume tick present other found lookup with
      ⟨rfl, rfl⟩ | ⟨-, old⟩ | ⟨-, request, -, rfl⟩
    · have := coherent.born other task present
      simp only; omega
    · have := coherent.born other found old
      omega
    · simp [launch, grows]

theorem coherent_step (state : State Request Query Answer Error Tick World Reply)
    (action : Action Request Tick) (coherent : machine.Coherent state) :
    machine.Coherent (machine.step state action) := by
  have transition := machine.step_transition state action
  generalize machine.step state action = after at transition ⊢
  cases transition with
  | idle => exact coherent
  | arrived request tick => exact coherent_arrived state coherent request tick
  | answered index tick task query resume present awaits =>
      exact coherent_answered state coherent index tick task query resume present awaits

theorem coherent_run (state : State Request Query Answer Error Tick World Reply)
    (schedule : List (Action Request Tick)) (coherent : machine.Coherent state) :
    machine.Coherent (machine.run state schedule) :=
  machine.guarded_run (fun _ _ => True) machine.Coherent
    (fun state action coherent _ => coherent_step state action coherent)
    state schedule coherent (guarded_trivial state schedule)

theorem awaits_outside (kind : Request → Query → Prop)
    (avoids : ∀ request, Avoids (kind request) (machine.program request))
    (state : State Request Query Answer Error Tick World Reply)
    (coherent : machine.Coherent state) (index : Nat)
    (task : Task Request Query Answer Error Tick Reply) (query : Query)
    (present : state.tasks[index]? = some task) (awaits : task.residual.awaiting = some query) :
    ¬ kind task.request query := by
  obtain ⟨tick, follows⟩ := coherent.follows index task present
  exact avoids_awaiting task.residual query
    (avoids_follows machine.perform _ _ _ (avoids task.request tick) follows).1 awaits

theorem awaits_ensured (allowed : (query : Query) → Except Error (Answer query) → Prop)
    (asks : Query → Prop) (post : Except Error Reply → Prop)
    (state : State Request Query Answer Error Tick World Reply)
    (coherent : machine.Coherent state) (index : Nat)
    (task : Task Request Query Answer Error Tick Reply) (query : Query)
    (ensures : Ensures allowed asks (machine.program task.request) post)
    (answered : ∀ entry ∈ state.trace, entry.task = index → entry.request = task.request →
      allowed entry.query (machine.perform entry.tick entry.query entry.before).1)
    (present : state.tasks[index]? = some task) (awaits : task.residual.awaiting = some query) :
    asks query := by
  obtain ⟨tick, follows⟩ := coherent.follows index task present
  suffices told : ∀ event ∈ history index state.trace,
      allowed event.query (machine.perform event.tick event.query event.before).1 from
    ensures_awaiting task.residual query
      (ensures_follows machine.perform _ _ _ (ensures tick) told follows) awaits
  intro event member
  obtain ⟨entry, known, own, rfl⟩ := (mem_history index state.trace event).mp member
  obtain ⟨owner, found, same, -⟩ := coherent.owner entry known
  obtain rfl : owner = task := Option.some.inj ((own ▸ found).symm.trans present)
  exact answered entry known own same.symm

theorem answer_leads (next : (query : Query) → Except Error (Answer query) → Option Query)
    (state : State Request Query Answer Error Tick World Reply)
    (coherent : machine.Coherent state) (index : Nat) (tick : Tick)
    (task : Task Request Query Answer Error Tick Reply) (query follower : Query)
    (resume : Except Error (Answer query) → Tick → Residual Query Answer Error Tick Reply)
    (leads : Leads next (machine.program task.request))
    (present : state.tasks[index]? = some task) (awaits : task.residual = .await query resume)
    (led : next query (machine.perform tick query state.world).1 = some follower) :
    (resume (machine.perform tick query state.world).1 tick).awaiting = some follower := by
  obtain ⟨first, follows⟩ := coherent.follows index task present
  rw [awaits] at follows
  exact (leads_follows machine.perform _ _ _ (leads first) follows _ tick).1 follower led

theorem answer_chains (link : (query : Query) → Except Error (Answer query) → Query → Prop)
    (state : State Request Query Answer Error Tick World Reply)
    (coherent : machine.Coherent state) (index : Nat) (tick : Tick)
    (task : Task Request Query Answer Error Tick Reply) (query follower : Query)
    (resume : Except Error (Answer query) → Tick → Residual Query Answer Error Tick Reply)
    (chains : Chains link (machine.program task.request))
    (present : state.tasks[index]? = some task) (awaits : task.residual = .await query resume)
    (next : (resume (machine.perform tick query state.world).1 tick).awaiting = some follower) :
    link query (machine.perform tick query state.world).1 follower := by
  obtain ⟨first, follows⟩ := coherent.follows index task present
  rw [awaits] at follows
  exact (chains_follows machine.perform _ _ _ (chains first) follows _ tick).1 follower next

/-- A task was there before, or arrived, or was started by the answer given. -/
theorem step_origin (state : State Request Query Answer Error Tick World Reply)
    (action : Action Request Tick) (index : Nat)
    (task : Task Request Query Answer Error Tick Reply)
    (found : (machine.step state action).tasks[index]? = some task) :
    (∃ earlier, state.tasks[index]? = some earlier ∧ earlier.request = task.request) ∨
      (∃ tick, action = .arrive task.request tick ∧ machine.external task.request = true) ∨
      ∃ entry, machine.upcoming state action = some entry ∧
        task.request ∈ machine.spawned entry.tick entry.query entry.before := by
  have transition := machine.step_transition state action
  generalize machine.step state action = after at transition found
  cases transition with
  | idle => exact Or.inl ⟨task, found, rfl⟩
  | arrived request tick external =>
      rw [List.getElem?_append] at found
      split at found
      · exact Or.inl ⟨task, found, rfl⟩
      · obtain ⟨inside, rfl⟩ := List.getElem?_eq_some_iff.mp found
        exact Or.inr (Or.inl ⟨tick, by simp [launch, external]⟩)
  | answered other tick owner query resume present awaits ready =>
      rcases machine.answer_tasks state other owner query resume tick present index task found with
        ⟨rfl, rfl⟩ | ⟨-, old⟩ | ⟨-, request, spawns, rfl⟩
      · exact Or.inl ⟨owner, present, rfl⟩
      · exact Or.inl ⟨task, old, rfl⟩
      · have comes := machine.upcoming_answered state other tick owner query resume present
          awaits ready
        exact Or.inr (Or.inr ⟨_, comes, spawns⟩)

variable {guard : State Request Query Answer Error Tick World Reply →
  Action Request Tick → Prop}

/-- An invariant of the world and the trace needs checking at answers only,
where the answered task is known to stand where its own history has led it. -/
theorem trace_invariant (invariant : World → List (Entry Request Query Tick World) → Prop)
    (preserved : ∀ (state : State Request Query Answer Error Tick World Reply) index tick
      (task : Task Request Query Answer Error Tick Reply) query resume,
      machine.Coherent state → state.tasks[index]? = some task →
      task.residual = .await query resume → guard state (.advance index tick) →
      invariant state.world state.trace →
      invariant (machine.perform tick query state.world).2
        ({ query, tick, before := state.world, task := index,
           request := task.request, born := task.born } :: state.trace))
    (state : State Request Query Answer Error Tick World Reply)
    (schedule : List (Action Request Tick)) (coherent : machine.Coherent state)
    (initial : invariant state.world state.trace)
    (guarded : machine.Guarded guard state schedule) :
    invariant (machine.run state schedule).world (machine.run state schedule).trace := by
  refine (machine.guarded_run guard
    (fun state => machine.Coherent state ∧ invariant state.world state.trace)
    ?_ state schedule ⟨coherent, initial⟩ guarded).2
  rintro state action ⟨coherent, holds⟩ allowed
  refine ⟨coherent_step state action coherent, ?_⟩
  have transition := machine.step_transition state action
  generalize machine.step state action = after at transition ⊢
  cases transition with
  | idle => exact holds
  | arrived request tick => exact holds
  | answered index tick task query resume present awaits =>
      exact preserved state index tick task query resume coherent present awaits allowed holds

/-- A task keeps its place and its request; once settled it is never touched. -/
theorem step_task (state : State Request Query Answer Error Tick World Reply)
    (action : Action Request Tick) (index : Nat)
    (task : Task Request Query Answer Error Tick Reply)
    (present : state.tasks[index]? = some task) :
    ∃ later, (machine.step state action).tasks[index]? = some later ∧
      later.request = task.request ∧ (task.residual.awaiting = none → later = task) := by
  have inside := (List.getElem?_eq_some_iff.mp present).1
  have transition := machine.step_transition state action
  generalize machine.step state action = after at transition ⊢
  cases transition with
  | idle => exact ⟨task, present, rfl, fun _ => rfl⟩
  | arrived request tick =>
      exact ⟨task, (List.getElem?_append_left inside).trans present, rfl, fun _ => rfl⟩
  | answered other tick found query resume stands awaits =>
      by_cases own : index = other
      · subst own
        obtain rfl : task = found := Option.some.inj (present.symm.trans stands)
        refine ⟨_, machine.answer_task_own state index task query resume tick stands, rfl, ?_⟩
        simp [awaits, Residual.awaiting]
      · exact ⟨task, machine.answer_task_other state other found query resume tick index task
          present own, rfl, fun _ => rfl⟩

end Coherence
end Machine

/-! The newest stretch of a trace, back to the last entry of a kind. -/
section Stretches
variable {α : Type} (mark : α → Prop) [DecidablePred mark]

def since (trace : List α) : List α := trace.takeWhile fun entry => ¬ mark entry

@[simp] theorem since_nil : since mark ([] : List α) = [] := rfl

theorem since_mark (entry : α) (trace : List α) (marked : mark entry) :
    since mark (entry :: trace) = [] := by
  simp [since, marked]

theorem since_cons (entry : α) (trace : List α) (plain : ¬ mark entry) :
    since mark (entry :: trace) = entry :: since mark trace := by
  simp [since, plain]

theorem stretch_within (stretch earlier : List α) (plain : ∀ entry ∈ stretch, ¬ mark entry) :
    stretch <+: since mark (stretch ++ earlier) := by
  have taken : since mark (stretch ++ earlier) = stretch ++ since mark earlier :=
    List.takeWhile_append_of_pos fun entry member => by simpa using plain entry member
  exact ⟨_, taken.symm⟩

end Stretches
end TopInspect.Interleaving
