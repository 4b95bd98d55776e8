import Mathlib

/-! Numerals of a fixed width: the last digits of a number, with zeros in front where there
are too few. Digits stand in reading order, the most significant one first. -/
namespace TopInspect.Numerals

def numeral (base num : Nat) : List Nat := if num = 0 then [0] else (Nat.digits base num).reverse

def value (base : Nat) (digits : List Nat) : Nat := Nat.ofDigits base digits.reverse

/-- The last digits of a number, exactly so many. -/
def fixed (base width num : Nat) : List Nat :=
    (Nat.digitsAppend base width (num % base ^ width)).reverse

theorem fold_value (base : Nat) (digits : List Nat) :
    digits.foldl (fun num digit => num * base + digit) 0 = value base digits := by
  rw [value, Nat.ofDigits_eq_foldr, List.foldr_reverse]
  congr 1
  funext num digit
  simp [Nat.mul_comm, Nat.add_comm]

section Width
variable {base : Nat} (wide : 1 < base) (width num : Nat)
include wide

theorem below_power : num % base ^ width < base ^ width :=
  Nat.mod_lt _ (Nat.pow_pos (Nat.zero_lt_of_lt wide))

theorem fixed_length : (fixed base width num).length = width := by
  rw [fixed, List.length_reverse]
  exact Nat.length_digitsAppend wide width (below_power wide width num)

theorem fixed_digit (digit : Nat) (member : digit ∈ fixed base width num) : digit < base := by
  rw [fixed, List.mem_reverse] at member
  exact Nat.lt_of_mem_digitsAppend wide width digit member

omit wide in
theorem fixed_value : value base (fixed base width num) = num % base ^ width := by
  rw [value, fixed, List.reverse_reverse, Nat.digitsAppend, Nat.ofDigits_append_replicate_zero,
    Nat.ofDigits_digits]

theorem fixed_unique (digits : List Nat) (count : digits.length = width)
    (small : ∀ digit ∈ digits, digit < base) (spells : value base digits = num % base ^ width) :
    digits = fixed base width num := by
  have reversed : digits.reverse = (fixed base width num).reverse := by
    apply Nat.ofDigits_inj_of_len_eq wide
    · rw [List.length_reverse, List.length_reverse, count, fixed_length wide]
    · simpa using small
    · intro digit member
      exact fixed_digit wide width num digit (List.mem_reverse.mp member)
    · exact spells.trans (fixed_value width num).symm
  exact List.reverse_injective reversed

theorem value_below (digits : List Nat) (small : ∀ digit ∈ digits, digit < base) :
    value base digits < base ^ digits.length := by
  rw [value, ← List.length_reverse]
  exact Nat.ofDigits_lt_base_pow_length wide (by simpa using small)

theorem fixed_of_value (digits : List Nat) (small : ∀ digit ∈ digits, digit < base) :
    fixed base digits.length (value base digits) = digits :=
  (fixed_unique wide _ _ digits rfl small
    (Nat.mod_eq_of_lt (value_below wide digits small)).symm).symm

omit wide in
theorem fixed_eq_iff (other : Nat) :
    fixed base width num = fixed base width other ↔ num ≡ other [MOD base ^ width] := by
  constructor
  · intro same
    have values := congrArg (value base) same
    rwa [fixed_value, fixed_value] at values
  · intro same
    rw [fixed, fixed, same]

omit wide in
theorem padded_digits (positive : 0 < width) :
    (numeral base num).leftpad width 0 = (Nat.digitsAppend base width num).reverse := by
  rw [Nat.digitsAppend, List.reverse_append, List.reverse_replicate, numeral, List.leftpad]
  by_cases zero : num = 0
  · rw [if_pos zero, zero, Nat.digits_zero, List.reverse_nil, List.append_nil,
      List.length_singleton, List.length_nil, Nat.sub_zero, ← List.replicate_succ',
      Nat.sub_add_cancel positive]
  · rw [if_neg zero, List.length_reverse]

/-- A padded numeral that is cut to its last digits has exactly these. -/
theorem padded_last (positive : 0 < width) :
    ((numeral base num).leftpad width 0).rtake width = fixed base width num := by
  have small : ∀ digit ∈ Nat.digitsAppend base width num, digit < base :=
    fun digit member => Nat.lt_of_mem_digitsAppend wide width digit member
  rw [padded_digits width num positive, List.rtake_eq_reverse_take_reverse, List.reverse_reverse]
  apply fixed_unique wide
  · rw [List.length_reverse, List.length_take, Nat.digitsAppend, List.length_append,
      List.length_replicate]
    omega
  · intro digit member
    exact small digit (List.mem_of_mem_take (List.mem_reverse.mp member))
  · rw [value, List.reverse_reverse, ← Nat.ofDigits_mod_pow_eq_ofDigits_take width
      (Nat.zero_lt_of_lt wide) _ small, Nat.digitsAppend, Nat.ofDigits_append_replicate_zero,
      Nat.ofDigits_digits]

omit wide in
theorem padded_fits (positive : 0 < width) (fits : num < base ^ width) :
    (numeral base num).leftpad width 0 = fixed base width num := by
  rw [padded_digits width num positive, fixed, Nat.mod_eq_of_lt fits]

end Width
end TopInspect.Numerals
