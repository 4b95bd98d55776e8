import Mathlib.Data.Stream.Init

/-! Rejection sampling. Items are drawn one by one, and the rejected ones are passed over. -/
namespace TopInspect.Rejections

variable {Item : Type} (accepts : Item → Bool)

def next : List Item → Option (Item × List Item)
  | [] => none
  | item :: rest => if accepts item then some (item, rest) else next rest

/-- So many accepted items, and what is left behind the last of them. -/
def draw : Nat → List Item → Option (List Item × List Item)
  | 0, items => some ([], items)
  | count + 1, items => do
      let (item, rest) ← next accepts items
      let (drawn, left) ← draw count rest
      return (item :: drawn, left)

/-- The items end with the accepted one of that count. -/
structure Closes (count : Nat) (used : List Item) : Prop where
  count : used.countP accepts = count
  last : ∀ item ∈ used.getLast?, accepts item = true

variable {accepts}

theorem next_cases (items : List Item) :
    (next accepts items = none ∧ ∀ item ∈ items, accepts item = false) ∨
      ∃ before item rest, items = before ++ item :: rest ∧
        (∀ other ∈ before, accepts other = false) ∧
        accepts item = true ∧ next accepts items = some (item, rest) := by
  induction items with
  | nil => exact Or.inl ⟨rfl, by simp⟩
  | cons first others ih =>
      cases taken : accepts first with
      | true => exact Or.inr ⟨[], first, others, rfl, by simp, taken, by simp [next, taken]⟩
      | false =>
          rcases ih with ⟨none_left, all⟩ | ⟨before, item, rest, rfl, rejected, accepted, found⟩
          · exact Or.inl ⟨by simp [next, taken, none_left], List.forall_mem_cons.mpr ⟨taken, all⟩⟩
          · exact Or.inr ⟨first :: before, item, rest, rfl,
              List.forall_mem_cons.mpr ⟨taken, rejected⟩, accepted, by simp [next, taken, found]⟩

theorem rejected_none (before : List Item) (rejected : ∀ other ∈ before, accepts other = false) :
    before.filter accepts = [] ∧ before.countP accepts = 0 := by
  simpa [List.filter_eq_nil_iff, List.countP_eq_zero] using rejected

theorem closes_cons (count : Nat) (before used : List Item) (item : Item)
    (rejected : ∀ other ∈ before, accepts other = false) (taken : accepts item = true)
    (closes : Closes accepts count used) : Closes accepts (count + 1) (before ++ item :: used) := by
  constructor
  · rw [List.countP_append, (rejected_none before rejected).2, List.countP_cons_of_pos taken,
      closes.count,
      Nat.zero_add]
  · intro last ends
    rw [List.getLast?_append, List.getLast?_cons] at ends
    cases empty : used.getLast? with
    | none =>
        simp only [empty, Option.getD_none, Option.some_or, Option.mem_def,
          Option.some.injEq] at ends
        exact ends ▸ taken
    | some other =>
        simp only [empty, Option.getD_some, Option.some_or, Option.mem_def,
          Option.some.injEq] at ends
        exact ends ▸ closes.last other empty

/-- A draw stops right behind the accepted item of its count. -/
theorem draw_cases (count : Nat) (items : List Item) :
    (draw accepts count items = none ∧ items.countP accepts < count) ∨
      ∃ used rest, items = used ++ rest ∧ Closes accepts count used ∧
        draw accepts count items = some (used.filter accepts, rest) := by
  induction count generalizing items with
  | zero => exact Or.inr ⟨[], items, rfl, ⟨rfl, by simp⟩, rfl⟩
  | succ count ih =>
      rcases @next_cases _ accepts items with
        ⟨stuck, all⟩ | ⟨before, item, later, rfl, rejected, taken, found⟩
      · refine Or.inl ⟨by simp [draw, stuck], ?_⟩
        rw [(rejected_none items all).2]
        exact Nat.succ_pos count
      · rcases ih later with ⟨stuck, few⟩ | ⟨used, rest, rfl, closes, drawn⟩
        · refine Or.inl ⟨by simp [draw, found, stuck], ?_⟩
          rw [List.countP_append, (rejected_none before rejected).2, List.countP_cons_of_pos taken,
            Nat.zero_add]
          exact Nat.succ_lt_succ few
        · refine Or.inr ⟨before ++ item :: used, rest, by simp,
            closes_cons count before used item rejected taken closes, ?_⟩
          rw [List.filter_append, (rejected_none before rejected).1, List.filter_cons_of_pos taken]
          simp [draw, found, drawn]

theorem closes_once (count : Nat) (short more : List Item) (closes : Closes accepts count short)
    (longer : Closes accepts count (short ++ more)) : more = [] := by
  by_contra filled
  have total := longer.count
  rw [List.countP_append, closes.count, Nat.add_eq_left, List.countP_eq_zero] at total
  have ends := List.getLast?_eq_some_getLast filled
  refine total _ (List.getLast_mem filled) (longer.last _ ?_)
  rw [List.getLast?_append, ends]
  rfl

/-- Whatever comes later, a draw that has its items stops where they close. -/
theorem draw_closes (count : Nat) (used rest : List Item) (closes : Closes accepts count used) :
    draw accepts count (used ++ rest) = some (used.filter accepts, rest) := by
  rcases @draw_cases _ accepts count (used ++ rest) with
    ⟨-, few⟩ | ⟨other, left, split, stops, drawn⟩
  · rw [List.countP_append, closes.count] at few
    omega
  · have same : used = other ∧ rest = left := by
      rcases List.append_eq_append_iff.mp split with ⟨more, rfl, rfl⟩ | ⟨more, rfl, rfl⟩
      · simp [closes_once count used more closes stops]
      · simp [closes_once count other more stops closes]
    rw [drawn, same.1, same.2]

/-! The items come as a stream, and a draw has seen its first ones. -/
section Streams
variable (stream : Stream' Item)

theorem stream_closes (count seen : Nat) (enough : count ≤ (stream.take seen).countP accepts) :
    ∃ used ≤ seen, Closes accepts count (stream.take used) := by
  rcases @draw_cases _ accepts count (stream.take seen) with
    ⟨-, few⟩ | ⟨used, rest, split, closes, -⟩
  · omega
  · have within : used.length ≤ seen := by
      have length := congrArg List.length split
      rw [Stream'.length_take, List.length_append] at length
      omega
    have same : stream.take used.length = used := by
      have taken := congrArg (List.take used.length) split
      rw [Stream'.take_take, Nat.min_eq_right within, List.take_left] at taken
      exact taken
    refine ⟨used.length, within, ?_⟩
    rw [same]
    exact closes

theorem stream_draws (count used seen : Nat) (closes : Closes accepts count (stream.take used))
    (late : used ≤ seen) :
    draw accepts count (stream.take seen) =
      some ((stream.take used).filter accepts, (stream.take seen).drop used) := by
  have split : stream.take seen = stream.take used ++ (stream.take seen).drop used := by
    conv_lhs => rw [← List.take_append_drop used (stream.take seen)]
    rw [Stream'.take_take, Nat.min_eq_right late]
  conv_lhs => rw [split]
  exact draw_closes count _ _ closes

theorem stream_waits (count used seen : Nat) (closes : Closes accepts count (stream.take used))
    (early : seen < used) : draw accepts count (stream.take seen) = none := by
  rcases @draw_cases _ accepts count (stream.take seen) with
    ⟨waits, -⟩ | ⟨first, rest, split, stops, -⟩
  · exact waits
  · have longer : stream.take used = first ++ (rest ++ (stream.take used).drop seen) := by
      rw [← List.append_assoc, ← split]
      conv_lhs => rw [← List.take_append_drop seen (stream.take used)]
      rw [Stream'.take_take, Nat.min_eq_right (Nat.le_of_lt early)]
    rw [longer] at closes
    have nothing := (List.append_eq_nil_iff.mp (closes_once count first _ stops closes)).2
    have length := congrArg List.length nothing
    rw [List.length_drop, Stream'.length_take, List.length_nil] at length
    omega

end Streams
end TopInspect.Rejections
