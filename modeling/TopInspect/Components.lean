import Mathlib.Data.List.Basic

/-! Components that open one another. Each has a state of its own and reads a shared one; a
step emits effects, which change the shared state and open further components. Nothing is
assumed of the order of the steps, and a component that is closed just takes no more of them. -/
namespace TopInspect.Components

structure System (Shared Component Event Effect : Type) where
  step : Shared → Component → Event → Component × List Effect
  absorb : Shared → Effect → Shared
  opens : Effect → Option Component

/-- The emitted effects are newest first. -/
structure State (Shared Component Effect : Type) where
  shared : Shared
  components : List Component
  emitted : List Effect

inductive Move (Shared Event : Type) where
  | act (index : Nat) (event : Event)
  | outside (shared : Shared)

variable {Shared Component Event Effect : Type}

namespace System

variable (system : System Shared Component Event Effect)

def emit (state : State Shared Component Effect) (effect : Effect) :
    State Shared Component Effect where
  shared := system.absorb state.shared effect
  components := state.components ++ (system.opens effect).toList
  emitted := effect :: state.emitted

def move (state : State Shared Component Effect) : Move Shared Event → State Shared Component Effect
  | .outside shared => { state with shared }
  | .act index event =>
      match state.components[index]? with
      | none => state
      | some component =>
          let outcome := system.step state.shared component event
          outcome.2.foldl system.emit
            { state with components := state.components.set index outcome.1 }

def run (state : State Shared Component Effect) (moves : List (Move Shared Event)) :
    State Shared Component Effect :=
  moves.foldl system.move state

/-- Each effect of a step is fine after the ones before it; the log is newest first. -/
def Warranted (fine : List Effect → Effect → Prop) (log : List Effect) : List Effect → Prop
  | [] => True
  | effect :: rest => fine log effect ∧ Warranted fine (effect :: log) rest

/-- Each effect of a log is fine after the ones before it. -/
def Justified (fine : List Effect → Effect → Prop) : List Effect → Prop
  | [] => True
  | effect :: log => fine log effect ∧ Justified fine log

/-- What components that are good and effects that are fine owe to one another, where both may
rest on what has been emitted before. -/
structure Safe (allowed : Event → Prop) (good : List Effect → Component → Prop)
    (fine : List Effect → Effect → Prop) : Prop where
  grows : ∀ log effect component, good log component → good (effect :: log) component
  steps : ∀ shared log component event, good log component → allowed event →
    Warranted fine log (system.step shared component event).2 ∧
      good ((system.step shared component event).2.reverse ++ log)
        (system.step shared component event).1
  opened : ∀ log effect component, fine log effect → system.opens effect = some component →
    good (effect :: log) component

structure Upheld (good : List Effect → Component → Prop) (fine : List Effect → Effect → Prop)
    (state : State Shared Component Effect) : Prop where
  components : ∀ component ∈ state.components, good state.emitted component
  emitted : Justified fine state.emitted

variable {system} {allowed : Event → Prop} {good : List Effect → Component → Prop}
variable {fine : List Effect → Effect → Prop}

theorem warranted_plain (sound : Effect → Prop) (log effects : List Effect)
    (all : ∀ effect ∈ effects, sound effect) : Warranted (fun _ => sound) log effects := by
  induction effects generalizing log with
  | nil => trivial
  | cons effect rest ih =>
      exact ⟨all effect List.mem_cons_self,
        ih _ fun other member => all other (List.mem_cons_of_mem _ member)⟩

theorem warranted_each (grows : ∀ log later effect, fine log effect → fine (later :: log) effect)
    (log effects : List Effect) (all : ∀ effect ∈ effects, fine log effect) :
    Warranted fine log effects := by
  induction effects generalizing log with
  | nil => trivial
  | cons effect rest ih =>
      refine ⟨all effect List.mem_cons_self, ih _ fun other member => ?_⟩
      exact grows log effect other (all other (List.mem_cons_of_mem _ member))

/-- A system whose components and effects are good and fine whatever has gone before is safe. -/
theorem safe_plain (own : Component → Prop) (sound : Effect → Prop)
    (steps : ∀ shared component event, own component → allowed event →
      own (system.step shared component event).1 ∧
        ∀ effect ∈ (system.step shared component event).2, sound effect)
    (opened : ∀ effect component, sound effect → system.opens effect = some component →
      own component) :
    system.Safe allowed (fun _ => own) (fun _ => sound) where
  grows := fun _ _ _ kept => kept
  steps := fun shared log component event kept permitted =>
    ⟨warranted_plain sound log _ (steps shared component event kept permitted).2,
      (steps shared component event kept permitted).1⟩
  opened := fun _ effect component fine opens => opened effect component fine opens

theorem justified_plain (sound : Effect → Prop) (log : List Effect)
    (justified : Justified (fun _ => sound) log) : ∀ effect ∈ log, sound effect := by
  induction log with
  | nil => simp
  | cons effect rest ih =>
      intro other member
      rcases List.mem_cons.mp member with rfl | old
      · exact justified.1
      · exact ih justified.2 other old

theorem justified_at (later earlier : List Effect) (effect : Effect)
    (justified : Justified fine (later ++ effect :: earlier)) : fine earlier effect := by
  induction later with
  | nil => exact justified.1
  | cons other rest ih => exact ih justified.2

theorem emits_upheld (safe : system.Safe allowed good fine) (effects : List Effect)
    (state : State Shared Component Effect) (kept : Component → Prop)
    (warranted : Warranted fine state.emitted effects) (justified : Justified fine state.emitted)
    (own : ∀ component ∈ state.components,
      good state.emitted component ∨ kept component)
    (last : ∀ component, kept component → good (effects.reverse ++ state.emitted) component) :
    Upheld good fine (effects.foldl system.emit state) := by
  induction effects generalizing state with
  | nil =>
      refine ⟨fun component member => ?_, justified⟩
      rcases own component member with done | waiting
      · exact done
      · exact last component waiting
  | cons effect rest ih =>
      refine ih (system.emit state effect) warranted.2 ⟨warranted.1, justified⟩ ?_ ?_
      · intro component member
        rcases List.mem_append.mp member with old | new
        · rcases own component old with done | waiting
          · exact Or.inl (safe.grows _ effect component done)
          · exact Or.inr waiting
        · exact Or.inl (safe.opened _ effect component warranted.1 (Option.mem_toList.mp new))
      · intro component waiting
        simpa [System.emit] using last component waiting

def Permitted (allowed : Event → Prop) : Move Shared Event → Prop
  | .act _ event => allowed event
  | .outside _ => True

theorem move_upheld (safe : system.Safe allowed good fine) (state : State Shared Component Effect)
    (move : Move Shared Event) (permitted : Permitted allowed move)
    (upheld : Upheld good fine state) :
    Upheld good fine (system.move state move) := by
  cases move with
  | outside shared => exact ⟨upheld.components, upheld.emitted⟩
  | act index event =>
      cases found : state.components[index]? with
      | none => simpa only [System.move, found] using upheld
      | some component =>
          have own := upheld.components component (List.mem_of_getElem? found)
          obtain ⟨warranted, keeps⟩ :=
            safe.steps state.shared state.emitted component event own permitted
          simp only [System.move, found]
          refine emits_upheld safe _ _
            (fun other => other = (system.step state.shared component event).1)
            warranted upheld.emitted ?_ ?_
          · intro other member
            rcases List.mem_or_eq_of_mem_set member with old | rfl
            · exact Or.inl (upheld.components other old)
            · exact Or.inr rfl
          · rintro other rfl
            exact keeps

/-- Every component of a run is good, and all it has ever emitted is fine where it stands. -/
theorem run_upheld (safe : system.Safe allowed good fine) (state : State Shared Component Effect)
    (moves : List (Move Shared Event)) (permitted : ∀ move ∈ moves, Permitted allowed move)
    (upheld : Upheld good fine state) : Upheld good fine (system.run state moves) := by
  induction moves generalizing state with
  | nil => exact upheld
  | cons move rest ih =>
      have next := move_upheld safe state move (permitted move List.mem_cons_self) upheld
      exact ih _ (fun other member => permitted other (List.mem_cons_of_mem _ member)) next

end System

end TopInspect.Components
