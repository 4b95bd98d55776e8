import Mathlib.Data.List.Basic

/-! Suspendable programs. An async function is the tree of its awaits: every
node asks one query of the shared world and resumes with the answer, and each
resumption receives a tick, the clock and random draws of the synchronous
segment that follows it. What a world does with a query is left to a machine. -/
namespace TopInspect.Resumption

section Programs
variable {Query : Type} {Answer : Query → Type} {Error Tick α β γ : Type}

/-- What is left to run: a value, a thrown error, or an await. -/
inductive Residual (Query : Type) (Answer : Query → Type) (Error Tick α : Type) where
  | done (value : α)
  | throw (error : Error)
  | await (query : Query)
      (resume : Except Error (Answer query) → Tick → Residual Query Answer Error Tick α)

def Async (Query : Type) (Answer : Query → Type) (Error Tick α : Type) : Type :=
  Tick → Residual Query Answer Error Tick α

namespace Residual

-- The tick at hand when a part ends is the one its continuation starts with.
def bindAt (next : α → Async Query Answer Error Tick β) :
    Residual Query Answer Error Tick α → Async Query Answer Error Tick β
  | .done value, tick => next value tick
  | .throw error, _ => .throw error
  | .await query resume, _ =>
      .await query fun result tick => (resume result tick).bindAt next tick

def catchAt (handler : Error → Async Query Answer Error Tick α) :
    Residual Query Answer Error Tick α → Async Query Answer Error Tick α
  | .done value, _ => .done value
  | .throw error, tick => handler error tick
  | .await query resume, _ =>
      .await query fun result tick => (resume result tick).catchAt handler tick

def awaiting : Residual Query Answer Error Tick α → Option Query
  | .await query _ => some query
  | _ => none

theorem bind_assoc_at (residual : Residual Query Answer Error Tick α)
    (first : α → Async Query Answer Error Tick β)
    (second : β → Async Query Answer Error Tick γ) (tick : Tick) :
    (residual.bindAt first tick).bindAt second tick =
      residual.bindAt (fun value now => (first value now).bindAt second now) tick := by
  induction residual generalizing tick with
  | done value => rfl
  | throw error => rfl
  | await query resume ih =>
      simp only [bindAt, await.injEq, heq_eq_eq, true_and]
      funext result next
      exact ih result next next

theorem bind_done_at (residual : Residual Query Answer Error Tick α) (tick : Tick) :
    residual.bindAt (fun value _ => .done value) tick = residual := by
  induction residual generalizing tick with
  | done value => rfl
  | throw error => rfl
  | await query resume ih =>
      simp only [bindAt, await.injEq, heq_eq_eq, true_and]
      funext result next
      exact ih result next next

end Residual

instance : Monad (Async Query Answer Error Tick) where
  pure value := fun _ => .done value
  bind program next := fun tick => (program tick).bindAt next tick

instance : LawfulMonad (Async Query Answer Error Tick) :=
  LawfulMonad.mk' _
    (fun program => funext fun tick => Residual.bind_done_at (program tick) tick)
    (fun _ _ => rfl)
    (fun program first second => funext fun tick =>
      Residual.bind_assoc_at (program tick) first second tick)

instance : MonadExceptOf Error (Async Query Answer Error Tick) where
  throw error := fun _ => .throw error
  tryCatch program handler := fun tick => (program tick).catchAt handler tick

/-- `await` one query: an error answer is thrown at the awaiting function. -/
def call (query : Query) : Async Query Answer Error Tick (Answer query) :=
  fun _ => .await query fun
    | .ok answer, _ => .done answer
    | .error error, _ => .throw error

def currentTick : Async Query Answer Error Tick Tick := fun tick => .done tick

end Programs

/-- One performed query: the tick its answer came with and the world before it. -/
structure Event (Query Tick World : Type) where
  query : Query
  tick : Tick
  before : World

section Histories
variable {Query : Type} {Answer : Query → Type} {Error Tick World α β : Type}

/-- How a world answers a query and what it becomes. -/
abbrev Perform (Query : Type) (Answer : Query → Type) (Error Tick World : Type) : Type :=
  Tick → (query : Query) → World → Except Error (Answer query) × World

variable (perform : Perform Query Answer Error Tick World)

/-- The events, oldest first, lead from the first residual to the second one.
Only the program's own events occur, so other programs may run in between. -/
def Follows : Residual Query Answer Error Tick α → List (Event Query Tick World) →
    Residual Query Answer Error Tick α → Prop
  | residual, [], last => residual = last
  | .await query resume, event :: rest, last =>
      event.query = query ∧
        Follows (resume (perform event.tick query event.before).1 event.tick) rest last
  | .done _, _ :: _, _ => False
  | .throw _, _ :: _, _ => False

@[simp] theorem follows_nil (residual last : Residual Query Answer Error Tick α) :
    Follows perform residual [] last ↔ residual = last := by
  cases residual <;> rfl

@[simp] theorem follows_done_cons (value : α) (event : Event Query Tick World)
    (rest : List (Event Query Tick World)) (last : Residual Query Answer Error Tick α) :
    ¬ Follows perform (.done value) (event :: rest) last := id

@[simp] theorem follows_throw_cons (error : Error) (event : Event Query Tick World)
    (rest : List (Event Query Tick World)) (last : Residual Query Answer Error Tick α) :
    ¬ Follows perform (.throw error) (event :: rest) last := id

@[simp] theorem follows_await_cons (query : Query)
    (resume : Except Error (Answer query) → Tick → Residual Query Answer Error Tick α)
    (event : Event Query Tick World) (rest : List (Event Query Tick World))
    (last : Residual Query Answer Error Tick α) :
    Follows perform (.await query resume) (event :: rest) last ↔
      event.query = query ∧
        Follows perform (resume (perform event.tick query event.before).1 event.tick)
          rest last := Iff.rfl

theorem follows_append (first last : Residual Query Answer Error Tick α)
    (left right : List (Event Query Tick World)) :
    Follows perform first (left ++ right) last ↔
      ∃ middle, Follows perform first left middle ∧ Follows perform middle right last := by
  induction left generalizing first with
  | nil => simp
  | cons event rest ih =>
      cases first with
      | done value => simp
      | throw error => simp
      | await query resume =>
          simp only [List.cons_append, follows_await_cons, ih]
          exact ⟨fun ⟨same, middle, left, right⟩ => ⟨middle, ⟨same, left⟩, right⟩,
            fun ⟨middle, ⟨same, left⟩, right⟩ => ⟨same, middle, left, right⟩⟩

theorem follows_snoc (first : Residual Query Answer Error Tick α)
    (history : List (Event Query Tick World)) (query : Query)
    (resume : Except Error (Answer query) → Tick → Residual Query Answer Error Tick α)
    (tick : Tick) (world : World)
    (reached : Follows perform first history (.await query resume)) :
    Follows perform first (history ++ [⟨query, tick, world⟩])
      (resume (perform tick query world).1 tick) := by
  rw [follows_append]
  exact ⟨_, reached, by simp⟩

/-- A program that starts with an await either stands there, or was answered
and went on, or was refused and threw. -/
theorem follows_call (query : Query) (next : Answer query → Async Query Answer Error Tick α)
    (tick : Tick) (history : List (Event Query Tick World))
    (last : Residual Query Answer Error Tick α)
    (follows : Follows perform ((call query >>= next) tick) history last) :
    (history = [] ∧ last.awaiting = some query) ∨
      ∃ event rest, history = event :: rest ∧ event.query = query ∧
        ((∃ error, (perform event.tick query event.before).1 = .error error ∧
            rest = [] ∧ last = .throw error) ∨
          ∃ answer, (perform event.tick query event.before).1 = .ok answer ∧
            Follows perform (next answer event.tick) rest last) := by
  cases history with
  | nil =>
      rw [follows_nil] at follows
      subst follows
      exact Or.inl ⟨rfl, rfl⟩
  | cons event rest =>
      obtain ⟨same, follows⟩ := follows
      refine Or.inr ⟨event, rest, rfl, same, ?_⟩
      cases answered : (perform event.tick query event.before).1 with
      | error error =>
          rw [answered] at follows
          cases rest with
          | nil => exact Or.inl ⟨error, rfl, rfl, ((follows_nil _ _ _).mp follows).symm⟩
          | cons later others => exact absurd follows (by simp [Residual.bindAt])
      | ok answer =>
          rw [answered] at follows
          exact Or.inr ⟨answer, rfl, follows⟩

theorem follows_settled (residual last : Residual Query Answer Error Tick α)
    (history : List (Event Query Tick World)) (settled : residual.awaiting = none)
    (follows : Follows perform residual history last) : history = [] ∧ last = residual := by
  cases history with
  | nil => exact ⟨rfl, ((follows_nil _ _ _).mp follows).symm⟩
  | cons event rest =>
      cases residual with
      | done value => exact absurd follows (by simp)
      | throw error => exact absurd follows (by simp)
      | await query resume => simp [Residual.awaiting] at settled

def tickAfter (tick : Tick) : List (Event Query Tick World) → Tick
  | [] => tick
  | event :: rest => tickAfter event.tick rest

/-- A sequenced program is either still inside its first part or has completed
it with a value and follows the second part from there. -/
theorem follows_bind (next : α → Async Query Answer Error Tick β)
    (residual : Residual Query Answer Error Tick α) (tick : Tick)
    (history : List (Event Query Tick World)) (last : Residual Query Answer Error Tick β) :
    Follows perform (residual.bindAt next tick) history last →
      (∃ middle, Follows perform residual history middle ∧ (∀ value, middle ≠ .done value) ∧
        last = middle.bindAt next (tickAfter tick history)) ∨
      (∃ left right value, history = left ++ right ∧
        Follows perform residual left (.done value) ∧
        Follows perform (next value (tickAfter tick left)) right last) := by
  induction residual generalizing tick history with
  | done value => exact fun follows => Or.inr ⟨[], history, value, rfl, by simp, follows⟩
  | throw error =>
      intro follows
      cases history with
      | nil =>
          refine Or.inl ⟨.throw error, by simp, by simp, ?_⟩
          simpa [Residual.bindAt] using follows.symm
      | cons event rest => exact absurd follows (by simp [Residual.bindAt])
  | await query resume ih =>
      intro follows
      cases history with
      | nil =>
          refine Or.inl ⟨.await query resume, by simp, by simp, ?_⟩
          simpa [Residual.bindAt] using follows.symm
      | cons event rest =>
          simp only [Residual.bindAt, follows_await_cons] at follows
          obtain ⟨same, follows⟩ := follows
          rcases ih _ event.tick event.tick rest follows with
            ⟨middle, inside, unfinished, final⟩ | ⟨left, right, value, split, first, second⟩
          · exact Or.inl ⟨middle, ⟨same, inside⟩, unfinished, final⟩
          · exact Or.inr ⟨event :: left, right, value, by simp [split], ⟨same, first⟩, second⟩

theorem follows_unique (residual first second : Residual Query Answer Error Tick α)
    (history : List (Event Query Tick World)) (left : Follows perform residual history first)
    (right : Follows perform residual history second) : first = second := by
  induction history generalizing residual with
  | nil => exact ((follows_nil _ _ _).mp left).symm.trans ((follows_nil _ _ _).mp right)
  | cons event rest ih =>
      cases residual with
      | done value => exact absurd left (by simp)
      | throw error => exact absurd left (by simp)
      | await query resume => exact ih _ left.2 right.2

theorem bind_follows (next : α → Async Query Answer Error Tick β)
    (residual middle : Residual Query Answer Error Tick α) (tick : Tick)
    (history : List (Event Query Tick World)) (follows : Follows perform residual history middle) :
    Follows perform (residual.bindAt next tick) history
      (middle.bindAt next (tickAfter tick history)) := by
  induction history generalizing residual tick with
  | nil =>
      rw [follows_nil] at follows ⊢
      rw [follows]
      rfl
  | cons event rest ih =>
      cases residual with
      | done value => exact absurd follows (by simp)
      | throw error => exact absurd follows (by simp)
      | await query resume =>
          obtain ⟨same, follows⟩ := follows
          exact ⟨same, ih _ event.tick follows⟩

theorem bind_awaits (program : Async Query Answer Error Tick α)
    (next : α → Async Query Answer Error Tick β) (tick : Tick)
    (history : List (Event Query Tick World)) (last : Residual Query Answer Error Tick β)
    (query : Query) (follows : Follows perform ((program >>= next) tick) history last)
    (awaits : last.awaiting = some query) :
    (∃ middle, Follows perform (program tick) history middle ∧ middle.awaiting = some query) ∨
      ∃ left right value, history = left ++ right ∧
        Follows perform (program tick) left (.done value) ∧
        Follows perform (next value (tickAfter tick left)) right last := by
  rcases follows_bind perform next (program tick) tick history last follows with
    ⟨middle, inside, unfinished, same⟩ | completed
  · refine Or.inl ⟨middle, inside, ?_⟩
    subst same
    cases middle with
    | done value => exact absurd rfl (unfinished value)
    | throw error => simp [Residual.bindAt, Residual.awaiting] at awaits
    | await other resume => exact awaits
  · exact Or.inr completed

theorem map_awaits (program : Async Query Answer Error Tick α) (change : α → β) (tick : Tick)
    (history : List (Event Query Tick World)) (last : Residual Query Answer Error Tick β)
    (query : Query) (follows : Follows perform ((change <$> program) tick) history last)
    (awaits : last.awaiting = some query) :
    ∃ middle, Follows perform (program tick) history middle ∧ middle.awaiting = some query := by
  rcases bind_awaits perform program (fun value => pure (change value)) tick history last query
    follows awaits with inside | ⟨left, right, value, -, -, settled⟩
  · exact inside
  · obtain ⟨-, rfl⟩ := follows_settled perform _ last right rfl settled
    simp [pure, Residual.awaiting] at awaits

theorem bind_done (program : Async Query Answer Error Tick α)
    (next : α → Async Query Answer Error Tick β) (tick : Tick)
    (history : List (Event Query Tick World)) (value : β)
    (follows : Follows perform ((program >>= next) tick) history (.done value)) :
    ∃ left right middle, history = left ++ right ∧
      Follows perform (program tick) left (.done middle) ∧
      Follows perform (next middle (tickAfter tick left)) right (.done value) := by
  rcases follows_bind perform next (program tick) tick history _ follows with
    ⟨middle, -, unfinished, same⟩ | completed
  · cases middle with
    | done other => exact absurd rfl (unfinished other)
    | throw error => simp [Residual.bindAt] at same
    | await query resume => simp [Residual.bindAt] at same
  · exact completed

theorem map_done (program : Async Query Answer Error Tick α) (change : α → β) (tick : Tick)
    (history : List (Event Query Tick World)) (value : β)
    (follows : Follows perform ((change <$> program) tick) history (.done value)) :
    ∃ middle, Follows perform (program tick) history (.done middle) ∧ value = change middle := by
  obtain ⟨left, right, middle, rfl, inside, settled⟩ :=
    bind_done perform program (fun value => pure (change value)) tick history value follows
  obtain ⟨rfl, same⟩ := follows_settled perform _ _ right rfl settled
  exact ⟨middle, by simpa using inside, by simpa [pure] using same⟩

end Histories

section Avoidance
variable {Query : Type} {Answer : Query → Type} {Error Tick World α β : Type}
variable (perform : Perform Query Answer Error Tick World) (kind : Query → Prop)

/-- No await of the rest of a program asks a query of the given kind. -/
def Residual.Avoids : Residual Query Answer Error Tick α → Prop
  | .done _ => True
  | .throw _ => True
  | .await query resume => ¬ kind query ∧ ∀ result tick, (resume result tick).Avoids

def Avoids (program : Async Query Answer Error Tick α) : Prop :=
  ∀ tick, (program tick).Avoids kind

variable {kind}

theorem avoids_bind_at (next : α → Async Query Answer Error Tick β)
    (second : ∀ value, Avoids kind (next value))
    (residual : Residual Query Answer Error Tick α) (tick : Tick)
    (first : residual.Avoids kind) : (residual.bindAt next tick).Avoids kind := by
  induction residual generalizing tick with
  | done value => exact second value tick
  | throw error => trivial
  | await query resume ih =>
      exact ⟨first.1, fun result now => ih result now now (first.2 result now)⟩

theorem avoids_catch_at (handler : Error → Async Query Answer Error Tick α)
    (second : ∀ error, Avoids kind (handler error))
    (residual : Residual Query Answer Error Tick α) (tick : Tick)
    (first : residual.Avoids kind) : (residual.catchAt handler tick).Avoids kind := by
  induction residual generalizing tick with
  | done value => trivial
  | throw error => exact second error tick
  | await query resume ih =>
      exact ⟨first.1, fun result now => ih result now now (first.2 result now)⟩

theorem avoids_mono_at {other : Query → Prop} (weaker : ∀ query, other query → kind query)
    (residual : Residual Query Answer Error Tick α) (avoids : residual.Avoids kind) :
    residual.Avoids other := by
  induction residual with
  | done value => trivial
  | throw error => trivial
  | await query resume ih =>
      exact ⟨fun asked => avoids.1 (weaker query asked),
        fun result now => ih result now (avoids.2 result now)⟩

theorem avoids_mono {other : Query → Prop} (weaker : ∀ query, other query → kind query)
    (program : Async Query Answer Error Tick α) (avoids : Avoids kind program) :
    Avoids other program :=
  fun tick => avoids_mono_at weaker (program tick) (avoids tick)

theorem avoids_nothing_at (absent : ∀ query, ¬ kind query)
    (residual : Residual Query Answer Error Tick α) : residual.Avoids kind := by
  induction residual with
  | done value => trivial
  | throw error => trivial
  | await query resume ih => exact ⟨absent query, fun result now => ih result now⟩

theorem avoids_nothing (absent : ∀ query, ¬ kind query)
    (program : Async Query Answer Error Tick α) : Avoids kind program :=
  fun tick => avoids_nothing_at absent (program tick)

theorem avoids_pure (value : α) :
    Avoids kind (pure value : Async Query Answer Error Tick α) := fun _ => trivial

theorem avoids_throw (error : Error) :
    Avoids kind (throw error : Async Query Answer Error Tick α) := fun _ => trivial

theorem avoids_call (query : Query) (other : ¬ kind query) :
    Avoids kind (call query : Async Query Answer Error Tick (Answer query)) := by
  intro tick
  refine ⟨other, fun result now => ?_⟩
  cases result <;> trivial

theorem avoids_bind (program : Async Query Answer Error Tick α)
    (next : α → Async Query Answer Error Tick β)
    (first : Avoids kind program) (second : ∀ value, Avoids kind (next value)) :
    Avoids kind (program >>= next) :=
  fun tick => avoids_bind_at next second (program tick) tick (first tick)

theorem avoids_map (change : α → β) {program : Async Query Answer Error Tick α}
    (avoids : Avoids kind program) : Avoids kind (change <$> program) :=
  avoids_bind program _ avoids fun _ => avoids_pure _

theorem avoids_catch (program : Async Query Answer Error Tick α)
    (handler : Error → Async Query Answer Error Tick α)
    (first : Avoids kind program) (second : ∀ error, Avoids kind (handler error)) :
    Avoids kind (tryCatch program handler) :=
  fun tick => avoids_catch_at handler second (program tick) tick (first tick)

theorem avoids_ite (condition : Prop) [Decidable condition]
    (yes no : Async Query Answer Error Tick α)
    (first : Avoids kind yes) (second : Avoids kind no) :
    Avoids kind (if condition then yes else no) := by
  split
  · exact first
  · exact second

theorem avoids_follows (residual last : Residual Query Answer Error Tick α)
    (history : List (Event Query Tick World)) (avoids : residual.Avoids kind)
    (follows : Follows perform residual history last) :
    last.Avoids kind ∧ ∀ event ∈ history, ¬ kind event.query := by
  induction history generalizing residual with
  | nil =>
      rw [follows_nil] at follows
      exact ⟨follows ▸ avoids, by simp⟩
  | cons event rest ih =>
      cases residual with
      | done value => exact absurd follows (by simp)
      | throw error => exact absurd follows (by simp)
      | await query resume =>
          obtain ⟨same, follows⟩ := follows
          obtain ⟨final, others⟩ := ih _ (avoids.2 _ _) follows
          refine ⟨final, fun member present => ?_⟩
          rcases List.mem_cons.mp present with rfl | later
          · exact same ▸ avoids.1
          · exact others member later

theorem avoids_awaiting (residual : Residual Query Answer Error Tick α) (query : Query)
    (avoids : residual.Avoids kind) (awaits : residual.awaiting = some query) : ¬ kind query := by
  cases residual with
  | done value => simp [Residual.awaiting] at awaits
  | throw error => simp [Residual.awaiting] at awaits
  | await other resume =>
      obtain rfl : other = query := by simpa [Residual.awaiting] using awaits
      exact avoids.1

/-- When only the first part of a sequence can ask a kind of query, a sequence
that awaits one has followed its first part all along. -/
theorem bind_awaits_first (program : Async Query Answer Error Tick α)
    (next : α → Async Query Answer Error Tick β) (second : ∀ value, Avoids kind (next value))
    (tick : Tick) (history : List (Event Query Tick World))
    (last : Residual Query Answer Error Tick β) (query : Query)
    (follows : Follows perform ((program >>= next) tick) history last)
    (awaits : last.awaiting = some query) (asked : kind query) :
    ∃ middle, Follows perform (program tick) history middle ∧ middle.awaiting = some query := by
  rcases bind_awaits perform program next tick history last query follows awaits with
    inside | ⟨left, right, value, -, -, rest⟩
  · exact inside
  · have avoids := (avoids_follows perform _ last right (second value _) rest).1
    exact absurd asked (avoids_awaiting last query avoids awaits)

end Avoidance

section Contracts
variable {Query : Type} {Answer : Query → Type} {Error Tick World α β : Type}
variable (perform : Perform Query Answer Error Tick World)
variable (allowed : (query : Query) → Except Error (Answer query) → Prop)
variable (asks : Query → Prop)

/-- As long as every answer is allowed, the rest of a program asks queries of a
kind only, and what it ends with meets the postcondition. -/
def Residual.Ensures (post : Except Error α → Prop) :
    Residual Query Answer Error Tick α → Prop
  | .done value => post (.ok value)
  | .throw error => post (.error error)
  | .await query resume =>
      asks query ∧ ∀ result tick, allowed query result → (resume result tick).Ensures post

def Ensures (program : Async Query Answer Error Tick α) (post : Except Error α → Prop) : Prop :=
  ∀ tick, (program tick).Ensures allowed asks post

def Onward (next : α → Async Query Answer Error Tick β) (post : Except Error β → Prop) :
    Except Error α → Prop
  | .ok value => Ensures allowed asks (next value) post
  | .error error => post (.error error)

variable {allowed asks} {post : Except Error α → Prop} {last : Except Error β → Prop}

theorem ensures_pure (value : α) (holds : post (.ok value)) :
    Ensures allowed asks (pure value : Async Query Answer Error Tick α) post := fun _ => holds

theorem ensures_throw (error : Error) (holds : post (.error error)) :
    Ensures allowed asks (throw error : Async Query Answer Error Tick α) post := fun _ => holds

theorem ensures_call (query : Query) {post : Except Error (Answer query) → Prop}
    (asked : asks query) (holds : ∀ result, allowed query result → post result) :
    Ensures allowed asks (call query : Async Query Answer Error Tick (Answer query)) post := by
  intro tick
  refine ⟨asked, fun result now answered => ?_⟩
  cases result with
  | ok answer => exact holds _ answered
  | error error => exact holds _ answered

theorem ensures_bind_at (next : α → Async Query Answer Error Tick β)
    (residual : Residual Query Answer Error Tick α) (tick : Tick)
    (first : residual.Ensures allowed asks (Onward allowed asks next last)) :
    (residual.bindAt next tick).Ensures allowed asks last := by
  induction residual generalizing tick with
  | done value => exact first tick
  | throw error => exact first
  | await query resume ih =>
      exact ⟨first.1, fun result now answered => ih result now now (first.2 result now answered)⟩

theorem ensures_bind (program : Async Query Answer Error Tick α)
    (next : α → Async Query Answer Error Tick β)
    (first : Ensures allowed asks program (Onward allowed asks next last)) :
    Ensures allowed asks (program >>= next) last :=
  fun tick => ensures_bind_at next (program tick) tick (first tick)

theorem ensures_mono_at {other : Except Error α → Prop}
    (weaker : ∀ result, post result → other result) (residual : Residual Query Answer Error Tick α)
    (ensures : residual.Ensures allowed asks post) :
    residual.Ensures allowed asks other := by
  induction residual with
  | done value => exact weaker _ ensures
  | throw error => exact weaker _ ensures
  | await query resume ih =>
      exact ⟨ensures.1, fun result now answered => ih result now (ensures.2 result now answered)⟩

theorem ensures_mono {program : Async Query Answer Error Tick α} {other : Except Error α → Prop}
    (ensures : Ensures allowed asks program post) (weaker : ∀ result, post result → other result) :
    Ensures allowed asks program other :=
  fun tick => ensures_mono_at weaker (program tick) (ensures tick)

theorem ensures_then (program : Async Query Answer Error Tick α)
    (next : α → Async Query Answer Error Tick β) (first : Ensures allowed asks program post)
    (second : ∀ value, Ensures allowed asks (next value) fun _ => True) :
    Ensures allowed asks (program >>= next) fun _ => True := by
  refine ensures_bind program next (ensures_mono first ?_)
  rintro (error | value) -
  · trivial
  · exact second value

theorem ensures_map (change : α → β) {program : Async Query Answer Error Tick α}
    (ensures : Ensures allowed asks program fun result => last (result.map change)) :
    Ensures allowed asks (change <$> program) last := by
  refine ensures_bind program _ (ensures_mono ensures ?_)
  rintro (error | value) holds
  · exact holds
  · exact ensures_pure _ holds

theorem ensures_catch_at (handler : Error → Async Query Answer Error Tick α)
    (residual : Residual Query Answer Error Tick α) (tick : Tick)
    (first : residual.Ensures allowed asks fun result =>
      match result with
      | .ok value => post (.ok value)
      | .error error => Ensures allowed asks (handler error) post) :
    (residual.catchAt handler tick).Ensures allowed asks post := by
  induction residual generalizing tick with
  | done value => exact first
  | throw error => exact first tick
  | await query resume ih =>
      exact ⟨first.1, fun result now answered => ih result now now (first.2 result now answered)⟩

theorem ensures_catch (program : Async Query Answer Error Tick α)
    (handler : Error → Async Query Answer Error Tick α)
    (first : Ensures allowed asks program fun result =>
      match result with
      | .ok value => post (.ok value)
      | .error error => Ensures allowed asks (handler error) post) :
    Ensures allowed asks (tryCatch program handler) post :=
  fun tick => ensures_catch_at handler (program tick) tick (first tick)

theorem ensures_awaiting (residual : Residual Query Answer Error Tick α) (query : Query)
    (ensures : residual.Ensures allowed asks post) (awaits : residual.awaiting = some query) :
    asks query := by
  cases residual with
  | done value => simp [Residual.awaiting] at awaits
  | throw error => simp [Residual.awaiting] at awaits
  | await other resume =>
      obtain rfl : other = query := by simpa [Residual.awaiting] using awaits
      exact ensures.1

/-- Along a history of allowed answers the contract stays in force. -/
theorem ensures_follows (residual final : Residual Query Answer Error Tick α)
    (history : List (Event Query Tick World)) (ensures : residual.Ensures allowed asks post)
    (answered : ∀ event ∈ history,
      allowed event.query (perform event.tick event.query event.before).1)
    (follows : Follows perform residual history final) : final.Ensures allowed asks post := by
  induction history generalizing residual with
  | nil =>
      rw [follows_nil] at follows
      exact follows ▸ ensures
  | cons event rest ih =>
      cases residual with
      | done value => exact absurd follows (by simp)
      | throw error => exact absurd follows (by simp)
      | await query resume =>
          obtain ⟨rfl, follows⟩ := follows
          exact ih _ (ensures.2 _ _ (answered event (by simp)))
            (fun other member => answered other (by simp [member])) follows

end Contracts

section Handovers
variable {Query : Type} {Answer : Query → Type} {Error Tick World α β : Type}
variable (perform : Perform Query Answer Error Tick World)
variable (next : (query : Query) → Except Error (Answer query) → Option Query)

theorem bind_awaiting (rest : α → Async Query Answer Error Tick β)
    (residual : Residual Query Answer Error Tick α) (tick : Tick) (query : Query)
    (awaits : residual.awaiting = some query) :
    (residual.bindAt rest tick).awaiting = some query := by
  cases residual with
  | done value => simp [Residual.awaiting] at awaits
  | throw error => simp [Residual.awaiting] at awaits
  | await other resume => exact awaits

theorem catch_awaiting (handler : Error → Async Query Answer Error Tick α)
    (residual : Residual Query Answer Error Tick α) (tick : Tick) (query : Query)
    (awaits : residual.awaiting = some query) :
    (residual.catchAt handler tick).awaiting = some query := by
  cases residual with
  | done value => simp [Residual.awaiting] at awaits
  | throw error => simp [Residual.awaiting] at awaits
  | await other resume => exact awaits

/-- Where an answer fixes the query that follows it, that query is awaited next. -/
def Residual.Leads : Residual Query Answer Error Tick α → Prop
  | .done _ => True
  | .throw _ => True
  | .await query resume => ∀ result tick,
      (∀ follower, next query result = some follower →
        (resume result tick).awaiting = some follower) ∧
      (resume result tick).Leads

def Leads (program : Async Query Answer Error Tick α) : Prop :=
  ∀ tick, (program tick).Leads next

variable {next}

theorem leads_pure (value : α) :
    Leads next (pure value : Async Query Answer Error Tick α) := fun _ => trivial

theorem leads_throw (error : Error) :
    Leads next (throw error : Async Query Answer Error Tick α) := fun _ => trivial

theorem leads_call (query : Query) (free : ∀ result, next query result = none) :
    Leads next (call query : Async Query Answer Error Tick (Answer query)) := by
  intro tick result now
  refine ⟨by simp [free result], ?_⟩
  cases result <;> trivial

theorem leads_call_bind (query : Query) (rest : Answer query → Async Query Answer Error Tick α)
    (refused : ∀ error, next query (.error error) = none)
    (follows : ∀ answer tick follower, next query (.ok answer) = some follower →
      (rest answer tick).awaiting = some follower)
    (onward : ∀ answer, Leads next (rest answer)) : Leads next (call query >>= rest) := by
  intro tick result now
  cases result with
  | error error => exact ⟨by simp [refused error], trivial⟩
  | ok answer => exact ⟨follows answer now, onward answer now⟩

theorem leads_bind_at (rest : α → Async Query Answer Error Tick β)
    (second : ∀ value, Leads next (rest value))
    (residual : Residual Query Answer Error Tick α) (tick : Tick)
    (first : residual.Leads next) : (residual.bindAt rest tick).Leads next := by
  induction residual generalizing tick with
  | done value => exact second value tick
  | throw error => trivial
  | await query resume ih =>
      intro result now
      refine ⟨fun follower led => ?_, ih result now now (first result now).2⟩
      exact bind_awaiting rest _ now follower ((first result now).1 follower led)

theorem leads_bind (program : Async Query Answer Error Tick α)
    (rest : α → Async Query Answer Error Tick β) (first : Leads next program)
    (second : ∀ value, Leads next (rest value)) : Leads next (program >>= rest) :=
  fun tick => leads_bind_at rest second (program tick) tick (first tick)

theorem leads_map (change : α → β) {program : Async Query Answer Error Tick α}
    (leads : Leads next program) : Leads next (change <$> program) :=
  leads_bind program _ leads fun _ => leads_pure _

theorem leads_catch_at (handler : Error → Async Query Answer Error Tick α)
    (second : ∀ error, Leads next (handler error))
    (residual : Residual Query Answer Error Tick α) (tick : Tick)
    (first : residual.Leads next) : (residual.catchAt handler tick).Leads next := by
  induction residual generalizing tick with
  | done value => trivial
  | throw error => exact second error tick
  | await query resume ih =>
      intro result now
      refine ⟨fun follower led => ?_, ih result now now (first result now).2⟩
      exact catch_awaiting handler _ now follower ((first result now).1 follower led)

theorem leads_catch (program : Async Query Answer Error Tick α)
    (handler : Error → Async Query Answer Error Tick α) (first : Leads next program)
    (second : ∀ error, Leads next (handler error)) : Leads next (tryCatch program handler) :=
  fun tick => leads_catch_at handler second (program tick) tick (first tick)

theorem leads_follows (residual last : Residual Query Answer Error Tick α)
    (history : List (Event Query Tick World)) (leads : residual.Leads next)
    (follows : Follows perform residual history last) : last.Leads next := by
  induction history generalizing residual with
  | nil =>
      rw [follows_nil] at follows
      exact follows ▸ leads
  | cons event rest ih =>
      cases residual with
      | done value => exact absurd follows (by simp)
      | throw error => exact absurd follows (by simp)
      | await query resume => exact ih _ (leads _ _).2 follows.2

end Handovers

section Closings
variable {Query : Type} {Answer : Query → Type} {Error Tick World α β : Type}
variable (perform : Perform Query Answer Error Tick World)
variable (ending : (query : Query) → Except Error (Answer query) → Option (Except Error α))

def Residual.settled : Except Error α → Residual Query Answer Error Tick α
  | .ok value => .done value
  | .error error => .throw error

/-- The program ends with the answers of one kind, the way they say, and goes
on after all others. -/
def Residual.Closes : Residual Query Answer Error Tick α → Prop
  | .done _ => True
  | .throw _ => True
  | .await query resume => ∀ result tick,
      match ending query result with
      | some outcome => resume result tick = .settled outcome
      | none => (resume result tick).awaiting ≠ none ∧ (resume result tick).Closes

def Closes (program : Async Query Answer Error Tick α) : Prop :=
  ∀ tick, (program tick).Closes ending

theorem closes_follows (residual last : Residual Query Answer Error Tick α)
    (history : List (Event Query Tick World)) (closes : residual.Closes ending)
    (follows : Follows perform residual history last) :
    (∀ event ∈ history, ∀ outcome,
      ending event.query (perform event.tick event.query event.before).1 = some outcome →
      last = .settled outcome) ∧
    (residual.awaiting ≠ none → last.awaiting = none → ∃ event ∈ history, ∃ outcome,
      ending event.query (perform event.tick event.query event.before).1 = some outcome) := by
  induction history generalizing residual with
  | nil =>
      rw [follows_nil] at follows
      subst follows
      exact ⟨by simp, fun running settled => absurd settled running⟩
  | cons event rest ih =>
      cases residual with
      | done value => exact absurd follows (by simp)
      | throw error => exact absurd follows (by simp)
      | await query resume =>
          obtain ⟨rfl, follows⟩ := follows
          have next := closes (perform event.tick event.query event.before).1 event.tick
          cases closed : ending event.query (perform event.tick event.query event.before).1 with
          | some outcome =>
              rw [closed] at next
              -- Nothing can be recorded after the event that ends the program.
              have settled : rest = [] ∧ last = .settled outcome := by
                rw [next] at follows
                cases outcome with
                | ok value => exact follows_settled perform _ last rest rfl follows
                | error error => exact follows_settled perform _ last rest rfl follows
              refine ⟨?_, fun _ _ => ⟨event, by simp, outcome, closed⟩⟩
              intro other member answered same
              rw [settled.1, List.mem_singleton] at member
              rw [member, closed] at same
              rw [settled.2, Option.some.inj same]
          | none =>
              rw [closed] at next
              obtain ⟨others, ended⟩ := ih _ next.2 follows
              constructor
              · intro other member outcome same
                rcases List.mem_cons.mp member with rfl | later
                · simp [closed] at same
                · exact others other later outcome same
              · intro _ settled
                obtain ⟨other, member, outcome, same⟩ := ended next.1 settled
                exact ⟨other, List.mem_cons_of_mem _ member, outcome, same⟩

variable {ending} in
theorem closes_map (change : α → β) {program : Async Query Answer Error Tick α}
    (closes : Closes ending program) :
    Closes (fun query result => (ending query result).map (Except.map change))
      (change <$> program) := by
  intro tick
  suffices at_residual : ∀ (residual : Residual Query Answer Error Tick α) now,
      residual.Closes ending → (residual.bindAt (fun value => pure (change value)) now).Closes
        fun query result => (ending query result).map (Except.map change) from
    at_residual (program tick) tick (closes tick)
  intro residual
  induction residual with
  | done value => exact fun _ _ => trivial
  | throw error => exact fun _ _ => trivial
  | await query resume ih =>
      intro _ closes result now
      have next := closes result now
      cases closed : ending query result with
      | some outcome =>
          simp only [closed] at next
          simp only [closed, Option.map_some, next]
          cases outcome <;> rfl
      | none =>
          simp only [closed] at next
          obtain ⟨follower, awaits⟩ := Option.ne_none_iff_exists'.mp next.1
          simp only [closed, Option.map_none]
          exact ⟨by simp [bind_awaiting _ _ now follower awaits], ih result now now next.2⟩

theorem leads_outcome_at (follow : Except Error α → Query)
    (last : Except Error α → Async Query Answer Error Tick β)
    (awaits : ∀ outcome tick, (last outcome tick).awaiting = some (follow outcome))
    (onward : ∀ outcome, Leads (fun query result => (ending query result).map follow)
      (last outcome))
    (residual : Residual Query Answer Error Tick α) (tick : Tick)
    (closes : residual.Closes ending) :
    (((residual.bindAt (fun value => pure (Except.ok value)) tick).catchAt
        (fun error => pure (Except.error error)) tick).bindAt last tick).Leads
      fun query result => (ending query result).map follow := by
  induction residual generalizing tick with
  | done value => exact onward _ tick
  | throw error => exact onward _ tick
  | await query resume ih =>
      intro result now
      have next := closes result now
      cases closed : ending query result with
      | some outcome =>
          simp only [closed] at next
          simp only [closed, Option.map_some, Option.some.injEq, forall_eq', next]
          cases outcome with
          | ok value => exact ⟨awaits (.ok value) now, onward _ now⟩
          | error error => exact ⟨awaits (.error error) now, onward _ now⟩
      | none =>
          simp only [closed] at next
          exact ⟨by simp [closed], ih result now now next.2⟩

theorem closes_outcome_at
    {finish : (query : Query) → Except Error (Answer query) → Option (Except Error β)}
    (last : Except Error α → Async Query Answer Error Tick β)
    (awaits : ∀ outcome tick, (last outcome tick).awaiting ≠ none)
    (closes : ∀ outcome, Closes finish (last outcome))
    (residual : Residual Query Answer Error Tick α) (tick : Tick)
    (avoids : residual.Avoids fun query => ∃ result, finish query result ≠ none) :
    (((residual.bindAt (fun value => pure (Except.ok value)) tick).catchAt
        (fun error => pure (Except.error error)) tick).bindAt last tick).awaiting ≠ none ∧
      (((residual.bindAt (fun value => pure (Except.ok value)) tick).catchAt
        (fun error => pure (Except.error error)) tick).bindAt last tick).Closes finish := by
  induction residual generalizing tick with
  | done value => exact ⟨awaits _ tick, closes _ tick⟩
  | throw error => exact ⟨awaits _ tick, closes _ tick⟩
  | await query resume ih =>
      refine ⟨nofun, fun result now => ?_⟩
      have goesOn : finish query result = none :=
        Classical.byContradiction fun closed => avoids.1 ⟨result, closed⟩
      rw [goesOn]
      exact ih result now now (avoids.2 result now)

end Closings

section LastAnswers
variable {Query : Type} {Answer : Query → Type} {Error Tick World α β : Type}
variable (perform : Perform Query Answer Error Tick World)
variable (last : (query : Query) → Except Error (Answer query) → Prop)

/-- Only the answers of one kind can be the last of the program. -/
def Residual.EndsBy : Residual Query Answer Error Tick α → Prop
  | .done _ => True
  | .throw _ => True
  | .await query resume => ∀ result tick,
      ((resume result tick).awaiting = none → last query result) ∧ (resume result tick).EndsBy

def EndsBy (program : Async Query Answer Error Tick α) : Prop :=
  ∀ tick, (program tick).EndsBy last

variable {last}

theorem ends_call (query : Query) (closing : ∀ result, last query result) :
    EndsBy last (call query : Async Query Answer Error Tick (Answer query)) := by
  intro tick result now
  refine ⟨fun _ => closing result, ?_⟩
  cases result <;> trivial

theorem ends_call_bind (query : Query) (next : Answer query → Async Query Answer Error Tick α)
    (refused : ∀ error, last query (.error error))
    (closing : ∀ answer tick, (next answer tick).awaiting = none → last query (.ok answer))
    (onward : ∀ answer, EndsBy last (next answer)) : EndsBy last (call query >>= next) := by
  intro tick result now
  cases result with
  | error error => exact ⟨fun _ => refused error, trivial⟩
  | ok answer => exact ⟨closing answer now, onward answer now⟩

theorem ends_wrapped
    (wrap : Residual Query Answer Error Tick α → Tick → Residual Query Answer Error Tick β)
    (inside : ∀ query resume tick, wrap (.await query resume) tick =
      .await query fun result now => wrap (resume result now) now)
    (value : ∀ value tick,
      (wrap (.done value) tick).awaiting ≠ none ∧ (wrap (.done value) tick).EndsBy last)
    (error : ∀ error tick,
      (wrap (.throw error) tick).awaiting ≠ none ∧ (wrap (.throw error) tick).EndsBy last)
    (residual : Residual Query Answer Error Tick α) (tick : Tick) :
    (wrap residual tick).awaiting ≠ none ∧ (wrap residual tick).EndsBy last := by
  induction residual generalizing tick with
  | done result => exact value result tick
  | throw thrown => exact error thrown tick
  | await query resume ih =>
      rw [inside]
      exact ⟨nofun, fun result now =>
        ⟨fun settled => absurd settled (ih result now now).1, (ih result now now).2⟩⟩

theorem ends_map (change : α → β) {program : Async Query Answer Error Tick α}
    (ends : EndsBy last program) : EndsBy last (change <$> program) := by
  intro tick
  suffices mapped : ∀ (residual : Residual Query Answer Error Tick α) now, residual.EndsBy last →
      (residual.bindAt (fun value => pure (change value)) now).EndsBy last from
    mapped (program tick) tick (ends tick)
  intro residual
  induction residual with
  | done value => exact fun _ _ => trivial
  | throw error => exact fun _ _ => trivial
  | await query resume ih =>
      intro _ ends result now
      refine ⟨fun settled => (ends result now).1 ?_, ih result now now (ends result now).2⟩
      cases rest : resume result now with
      | done value => rfl
      | throw error => rfl
      | await other later => simp [rest, Residual.bindAt, Residual.awaiting] at settled

theorem ends_follows (residual final : Residual Query Answer Error Tick α)
    (history : List (Event Query Tick World)) (ends : residual.EndsBy last)
    (follows : Follows perform residual history final) : final.EndsBy last := by
  induction history generalizing residual with
  | nil =>
      rw [follows_nil] at follows
      exact follows ▸ ends
  | cons event rest ih =>
      cases residual with
      | done value => exact absurd follows (by simp)
      | throw error => exact absurd follows (by simp)
      | await query resume => exact ih _ (ends _ _).2 follows.2

end LastAnswers

section Values
variable {Query : Type} {Answer : Query → Type} {Error Tick World α β : Type}
variable (perform : Perform Query Answer Error Tick World)

/-- Whatever it is answered, a program returns values of one kind only. -/
def Residual.Returns (post : α → Prop) : Residual Query Answer Error Tick α → Prop
  | .done value => post value
  | .throw _ => True
  | .await _ resume => ∀ result tick, (resume result tick).Returns post

def Returns (post : α → Prop) (program : Async Query Answer Error Tick α) : Prop :=
  ∀ tick, (program tick).Returns post

variable {post : β → Prop}

theorem returns_pure (value : β) (holds : post value) :
    Returns post (pure value : Async Query Answer Error Tick β) := fun _ => holds

theorem returns_mono {other : β → Prop} (weaker : ∀ value, post value → other value)
    {program : Async Query Answer Error Tick β} (returns : Returns post program) :
    Returns other program := by
  intro tick
  suffices weakened : ∀ residual : Residual Query Answer Error Tick β,
      residual.Returns post → residual.Returns other from weakened (program tick) (returns tick)
  intro residual
  induction residual with
  | done value => exact weaker value
  | throw error => exact fun _ => trivial
  | await query resume ih => exact fun holds result now => ih result now (holds result now)

theorem returns_after {middle : α → Prop} (program : Async Query Answer Error Tick α)
    (next : α → Async Query Answer Error Tick β) (first : Returns middle program)
    (onward : ∀ value, middle value → Returns post (next value)) :
    Returns post (program >>= next) := by
  intro tick
  suffices rest : ∀ (residual : Residual Query Answer Error Tick α) now,
      residual.Returns middle → (residual.bindAt next now).Returns post from
    rest (program tick) tick (first tick)
  intro residual
  induction residual with
  | done value => exact fun now holds => onward value holds now
  | throw error => exact fun _ _ => trivial
  | await query resume ih => exact fun _ holds result now => ih result now now (holds result now)

theorem returns_any (program : Async Query Answer Error Tick α) :
    Returns (fun _ => True) program := by
  intro tick
  suffices rest : ∀ residual : Residual Query Answer Error Tick α,
      residual.Returns fun _ => True from rest (program tick)
  intro residual
  induction residual with
  | done value => trivial
  | throw error => trivial
  | await query resume ih => exact ih

theorem returns_bind (program : Async Query Answer Error Tick α)
    (next : α → Async Query Answer Error Tick β) (onward : ∀ value, Returns post (next value)) :
    Returns post (program >>= next) :=
  returns_after program next (returns_any program) fun value _ => onward value

theorem returns_map (change : α → β) {program : Async Query Answer Error Tick α}
    (returns : Returns (fun value => post (change value)) program) :
    Returns post (change <$> program) :=
  returns_after program _ returns fun value holds => returns_pure (change value) holds

theorem returns_follows (residual : Residual Query Answer Error Tick β)
    (history : List (Event Query Tick World)) (value : β) (returns : residual.Returns post)
    (follows : Follows perform residual history (.done value)) : post value := by
  induction history generalizing residual with
  | nil =>
      rw [follows_nil] at follows
      subst follows
      exact returns
  | cons event rest ih =>
      cases residual with
      | done other => exact absurd follows (by simp)
      | throw error => exact absurd follows (by simp)
      | await query resume => exact ih _ (returns _ _) follows.2

end Values

/-! What can be awaited right after an answer. -/
section Chains
variable {Query : Type} {Answer : Query → Type} {Error Tick World α β : Type}
variable (perform : Perform Query Answer Error Tick World)
variable (link : (query : Query) → Except Error (Answer query) → Query → Prop)

/-- Each query awaited right after an answer is linked to it. -/
def Residual.Chains : Residual Query Answer Error Tick α → Prop
  | .done _ => True
  | .throw _ => True
  | .await query resume => ∀ result tick,
      (∀ follower, (resume result tick).awaiting = some follower → link query result follower) ∧
        (resume result tick).Chains

def Chains (program : Async Query Answer Error Tick α) : Prop :=
  ∀ tick, (program tick).Chains link

def Opens (program : Async Query Answer Error Tick α) : Prop :=
  ∀ tick follower, (program tick).awaiting = some follower →
    ∀ query result, link query result follower

variable {link}

theorem chains_pure (value : α) :
    Chains link (pure value : Async Query Answer Error Tick α) := fun _ => trivial

theorem chains_throw (error : Error) :
    Chains link (throw error : Async Query Answer Error Tick α) := fun _ => trivial

theorem chains_call_bind (query : Query) (next : Answer query → Async Query Answer Error Tick α)
    (linked : ∀ answer tick follower, (next answer tick).awaiting = some follower →
      link query (.ok answer) follower)
    (onward : ∀ answer, Chains link (next answer)) : Chains link (call query >>= next) := by
  intro tick result now
  cases result with
  | error error => exact ⟨nofun, trivial⟩
  | ok answer => exact ⟨linked answer now, onward answer now⟩

theorem chains_call (query : Query) :
    Chains link (call query : Async Query Answer Error Tick (Answer query)) := by
  intro tick result now
  cases result with
  | error error => exact ⟨nofun, trivial⟩
  | ok answer => exact ⟨nofun, trivial⟩

theorem opens_pure (value : α) :
    Opens link (pure value : Async Query Answer Error Tick α) := nofun

theorem opens_throw (error : Error) :
    Opens link (throw error : Async Query Answer Error Tick α) := nofun

theorem opens_call (query : Query) (free : ∀ other result, link other result query) :
    Opens link (call query : Async Query Answer Error Tick (Answer query)) := by
  intro tick follower awaits other result
  obtain rfl := Option.some.inj awaits
  exact free other result

theorem bound_awaits (next : α → Async Query Answer Error Tick β)
    (residual : Residual Query Answer Error Tick α) (tick : Tick) (follower : Query)
    (awaits : (residual.bindAt next tick).awaiting = some follower) :
    residual.awaiting = some follower ∨
      ∃ value, residual = .done value ∧ (next value tick).awaiting = some follower := by
  cases residual with
  | done value => exact Or.inr ⟨value, rfl, awaits⟩
  | throw error => cases awaits
  | await query resume => exact Or.inl awaits

theorem caught_awaits (handler : Error → Async Query Answer Error Tick α)
    (residual : Residual Query Answer Error Tick α) (tick : Tick) (follower : Query)
    (awaits : (residual.catchAt handler tick).awaiting = some follower) :
    residual.awaiting = some follower ∨
      ∃ error, residual = .throw error ∧ (handler error tick).awaiting = some follower := by
  cases residual with
  | done value => cases awaits
  | throw error => exact Or.inr ⟨error, rfl, awaits⟩
  | await query resume => exact Or.inl awaits

theorem opens_bind (program : Async Query Answer Error Tick α)
    (next : α → Async Query Answer Error Tick β) (first : Opens link program)
    (second : ∀ value, Opens link (next value)) : Opens link (program >>= next) := by
  intro tick follower awaits
  rcases bound_awaits next (program tick) tick follower awaits with own | ⟨value, -, later⟩
  · exact first tick follower own
  · exact second value tick follower later

theorem opens_catch (program : Async Query Answer Error Tick α)
    (handler : Error → Async Query Answer Error Tick α) (first : Opens link program)
    (second : ∀ error, Opens link (handler error)) : Opens link (tryCatch program handler) := by
  intro tick follower awaits
  rcases caught_awaits handler (program tick) tick follower awaits with own | ⟨error, -, later⟩
  · exact first tick follower own
  · exact second error tick follower later

theorem opens_map (change : α → β) {program : Async Query Answer Error Tick α}
    (opens : Opens link program) : Opens link (change <$> program) :=
  opens_bind program _ opens fun _ => opens_pure _

theorem chains_bind_at (next : α → Async Query Answer Error Tick β)
    (opens : ∀ value, Opens link (next value)) (second : ∀ value, Chains link (next value))
    (residual : Residual Query Answer Error Tick α) (tick : Tick) (first : residual.Chains link) :
    (residual.bindAt next tick).Chains link := by
  induction residual generalizing tick with
  | done value => exact second value tick
  | throw error => trivial
  | await query resume ih =>
      intro result now
      refine ⟨fun follower awaits => ?_, ih result now now (first result now).2⟩
      rcases bound_awaits next (resume result now) now follower awaits with own | ⟨value, -, later⟩
      · exact (first result now).1 follower own
      · exact opens value now follower later query result

theorem chains_bind (program : Async Query Answer Error Tick α)
    (next : α → Async Query Answer Error Tick β) (first : Chains link program)
    (opens : ∀ value, Opens link (next value)) (second : ∀ value, Chains link (next value)) :
    Chains link (program >>= next) :=
  fun tick => chains_bind_at next opens second (program tick) tick (first tick)

theorem chains_map (change : α → β) {program : Async Query Answer Error Tick α}
    (chains : Chains link program) : Chains link (change <$> program) :=
  chains_bind program _ chains (fun _ => opens_pure _) fun _ => chains_pure _

theorem chains_catch_at (handler : Error → Async Query Answer Error Tick α)
    (opens : ∀ error, Opens link (handler error)) (second : ∀ error, Chains link (handler error))
    (residual : Residual Query Answer Error Tick α) (tick : Tick) (first : residual.Chains link) :
    (residual.catchAt handler tick).Chains link := by
  induction residual generalizing tick with
  | done value => trivial
  | throw error => exact second error tick
  | await query resume ih =>
      intro result now
      refine ⟨fun follower awaits => ?_, ih result now now (first result now).2⟩
      rcases caught_awaits handler (resume result now) now follower awaits with
        own | ⟨error, -, later⟩
      · exact (first result now).1 follower own
      · exact opens error now follower later query result

theorem chains_catch (program : Async Query Answer Error Tick α)
    (handler : Error → Async Query Answer Error Tick α) (first : Chains link program)
    (opens : ∀ error, Opens link (handler error)) (second : ∀ error, Chains link (handler error)) :
    Chains link (tryCatch program handler) :=
  fun tick => chains_catch_at handler opens second (program tick) tick (first tick)

theorem chains_follows (residual last : Residual Query Answer Error Tick α)
    (history : List (Event Query Tick World)) (chains : residual.Chains link)
    (follows : Follows perform residual history last) : last.Chains link := by
  induction history generalizing residual with
  | nil =>
      rw [follows_nil] at follows
      exact follows ▸ chains
  | cons event rest ih =>
      cases residual with
      | done value => exact absurd follows (by simp)
      | throw error => exact absurd follows (by simp)
      | await query resume => exact ih _ (chains _ _).2 follows.2

/-- What surrounds harmless queries is linked as far as what comes after them is. -/
theorem chains_wrapped (kind : Query → Prop)
    (free : ∀ query result follower, ¬ kind query → link query result follower)
    (wrap : Residual Query Answer Error Tick α → Tick → Residual Query Answer Error Tick β)
    (inside : ∀ query resume tick, wrap (.await query resume) tick =
      .await query fun result now => wrap (resume result now) now)
    (value : ∀ value tick, (wrap (.done value) tick).Chains link)
    (error : ∀ error tick, (wrap (.throw error) tick).Chains link)
    (residual : Residual Query Answer Error Tick α) (tick : Tick) (avoids : residual.Avoids kind) :
    (wrap residual tick).Chains link := by
  induction residual generalizing tick with
  | done result => exact value result tick
  | throw thrown => exact error thrown tick
  | await query resume ih =>
      rw [inside]
      exact fun result now =>
        ⟨fun follower _ => free query result follower avoids.1,
          ih result now now (avoids.2 result now)⟩

theorem avoids_chains (kind : Query → Prop)
    (free : ∀ query result follower, ¬ kind query → link query result follower)
    (program : Async Query Answer Error Tick α) (avoids : Avoids kind program) :
    Chains link program :=
  fun tick => chains_wrapped kind free (fun residual _ => residual) (fun _ _ _ => rfl)
    (fun _ _ => trivial) (fun _ _ => trivial) (program tick) tick (avoids tick)

theorem chains_tried (query : Query)
    (handler : Error → Async Query Answer Error Tick (Answer query))
    (thrown : ∀ error follower, link query (.error error) follower)
    (handles : ∀ error, Chains link (handler error)) (tick : Tick) :
    ((call query tick).catchAt handler tick).Chains link := by
  intro result now
  cases result with
  | ok answer => exact ⟨nofun, trivial⟩
  | error error => exact ⟨fun follower _ => thrown error follower, handles error now⟩

end Chains
end TopInspect.Resumption
