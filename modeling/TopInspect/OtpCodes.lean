import TopInspect.CodeSchemas
import TopInspect.Rejections

/-! The one-time codes that are drawn: six digits, each from a random byte below 250. -/
namespace TopInspect.OtpCodes

open Rejections
open CodeSchemas (otp otp_unchanged)

/-- The do-while loop, on the bytes that getRandomValues will draw. It goes on while there is no
byte to end it. -/
def drawDigit : List UInt8 → Option (UInt8 × List UInt8)
  | [] => none
  | digit :: bytes => if 250 ≤ digit then drawDigit bytes else some (digit, bytes)

/-- So many rounds of the for-loop that are left. -/
def digitLoop : Nat → String → List UInt8 → Option (String × List UInt8)
  | 0, otp, bytes => some (otp, bytes)
  | rounds + 1, otp, bytes => do
      let (digit, rest) ← drawDigit bytes
      digitLoop rounds (otp ++ toString (digit.toNat % 10)) rest

/-- The code, and the bytes that were not drawn. -/
def generateOTP (bytes : List UInt8) : Option (String × List UInt8) := digitLoop 6 "" bytes

def accepted (byte : UInt8) : Bool := byte < 250

def letterOf (byte : UInt8) : Char := Nat.digitChar (byte.toNat % 10)

def SixDigits (code : String) : Prop :=
  code.toList.length = 6 ∧ ∀ letter ∈ code.toList, letter.isDigit = true

section Runs

theorem digit_letter (digit : Nat) (small : digit < 10) :
    (toString digit).toList = [Nat.digitChar digit] ∧ (Nat.digitChar digit).isDigit = true := by
  have all : ∀ digit < 10, (toString digit).toList = [Nat.digitChar digit] ∧
      (Nat.digitChar digit).isDigit = true := by decide
  exact all digit small

theorem letter_digit (byte : UInt8) : (letterOf byte).isDigit = true :=
  (digit_letter _ (Nat.mod_lt _ (by decide))).2

theorem draw_digit (bytes : List UInt8) : drawDigit bytes = next accepted bytes := by
  induction bytes with
  | nil => rfl
  | cons digit rest ih =>
      by_cases high : 250 ≤ digit
      · have rejected : accepted digit = false := by simpa [accepted] using high
        simp [drawDigit, next, high, rejected, ih]
      · have taken : accepted digit = true := by simpa [accepted] using high
        simp [drawDigit, next, high, taken]

theorem digit_loop (rounds : Nat) (otp : String) (bytes : List UInt8) :
    digitLoop rounds otp bytes = (draw accepted rounds bytes).map fun drawn =>
      (String.ofList (otp.toList ++ drawn.1.map letterOf), drawn.2) := by
  induction rounds generalizing otp bytes with
  | zero => simp [digitLoop, draw]
  | succ rounds ih =>
      rw [digitLoop, draw_digit, draw]
      cases next accepted bytes with
      | none => rfl
      | some taken =>
          obtain ⟨digit, rest⟩ := taken
          have letters := (digit_letter (digit.toNat % 10) (Nat.mod_lt _ (by decide))).1
          simp only [Option.bind_eq_bind, Option.bind_some, ih, String.toList_append, letters]
          cases draw accepted rounds rest with
          | none => rfl
          | some drawn => simp [letterOf]

/-- The code spells the digits of the first six accepted bytes. -/
theorem generate_draws (bytes : List UInt8) :
    generateOTP bytes = (draw accepted 6 bytes).map fun drawn =>
      (String.ofList (drawn.1.map letterOf), drawn.2) := by
  rw [generateOTP, digit_loop]
  rfl

theorem drawn_six (used : List UInt8) (closes : Closes accepted 6 used) :
    SixDigits (String.ofList ((used.filter accepted).map letterOf)) := by
  constructor
  · rw [String.toList_ofList, List.length_map, ← List.countP_eq_length_filter, closes.count]
  · intro letter member
    rw [String.toList_ofList] at member
    obtain ⟨byte, -, rfl⟩ := List.mem_map.mp member
    exact letter_digit byte

end Runs

/-! How many sequences of six accepted bytes give one code. -/
section Counting

abbrev Accepted : Type := { byte : UInt8 // accepted byte = true }

def sequence (bytes : Fin 6 → Accepted) : List UInt8 := List.ofFn fun place => (bytes place).1

def sources (code : String) : Finset (Fin 6 → Accepted) :=
  Finset.univ.filter fun bytes => generateOTP (sequence bytes) = some (code, [])

def spelled (digits : Fin 6 → Fin 10) : String :=
    String.ofList (List.ofFn fun place => Nat.digitChar (digits place))

theorem spelled_inj : Function.Injective spelled := by
  intro first second same
  have letters := List.ofFn_injective (String.ofList_inj.mp same)
  have all : ∀ one other : Fin 10, Nat.digitChar one = Nat.digitChar other →
    one = other := by decide
  funext place
  exact all _ _ (congrFun letters place)

theorem six_spelled (code : String) (six : SixDigits code) : ∃ digits, spelled digits = code := by
  obtain ⟨count, digits⟩ := six
  have all : ∀ value < 58, (Char.ofNat value).isDigit = true →
      ∃ digit : Fin 10, Nat.digitChar digit = Char.ofNat value := by decide +kernel
  have letter (place : Fin 6) : ∃ digit : Fin 10, Nat.digitChar digit = code.toList[place] := by
    have plain := digits code.toList[place] (List.getElem_mem _)
    have below : code.toList[place].toNat < 58 := by
      simp only [Char.isDigit, Bool.and_eq_true, decide_eq_true_eq, UInt32.le_iff_toNat_le] at plain
      exact Nat.lt_succ_of_le plain.2
    have found := all _ below
    rw [Char.ofNat_toNat] at found
    exact found plain
  choose value spells using letter
  refine ⟨value, String.toList_inj.mp ?_⟩
  rw [spelled, String.toList_ofList]
  apply List.ext_getElem
  · rw [List.length_ofFn, count]
  · intro place inside within
    rw [List.getElem_ofFn]
    exact spells _

theorem spelled_six (digits : Fin 6 → Fin 10) : SixDigits (spelled digits) := by
  have all : ∀ digit : Fin 10, (Nat.digitChar digit).isDigit = true := by decide
  constructor
  · rw [spelled, String.toList_ofList, List.length_ofFn]
  · intro letter member
    rw [spelled, String.toList_ofList] at member
    obtain ⟨place, rfl⟩ := List.mem_ofFn.mp member
    exact all (digits place)

theorem codes_counted : { code | SixDigits code }.ncard = 10 ^ 6 := by
  have range : { code | SixDigits code } = Set.range spelled := by
    ext code
    constructor
    · exact six_spelled code
    · rintro ⟨digits, rfl⟩
      exact spelled_six digits
  rw [range, Set.ncard_range_of_injective spelled_inj]
  simp

/-- Every digit belongs to 25 of the accepted bytes. -/
theorem digit_bytes (digit : Fin 10) :
    (Finset.univ.filter fun byte : Accepted => letterOf byte.1 = Nat.digitChar digit).card =
      25 := by
  revert digit
  decide +kernel

theorem accepted_counted : Fintype.card Accepted = 250 := by decide +kernel

theorem sequence_draws (bytes : Fin 6 → Accepted) :
    generateOTP (sequence bytes) =
      some (String.ofList (List.ofFn fun place => letterOf (bytes place).1), []) := by
  have all : ∀ byte ∈ sequence bytes, accepted byte = true := by
    intro byte member
    obtain ⟨place, rfl⟩ := List.mem_ofFn.mp member
    exact (bytes place).2
  have closes : Closes accepted 6 (sequence bytes) := by
    constructor
    · rw [List.countP_eq_length.mpr all, sequence, List.length_ofFn]
    · exact fun byte ends => all byte (List.mem_of_getLast? ends)
  have drawn := draw_closes 6 (sequence bytes) [] closes
  rw [List.append_nil] at drawn
  rw [generate_draws, drawn, List.filter_eq_self.mpr all, sequence]
  rw [Option.map_some, List.map_ofFn]
  rfl

/-- The bytes are independent, so the counts of the digits multiply. -/
theorem sources_counted (code : String) (six : SixDigits code) : (sources code).card = 25 ^ 6 := by
  obtain ⟨digits, rfl⟩ := six_spelled code six
  have product : sources (spelled digits) =
      Fintype.piFinset fun place => Finset.univ.filter fun byte : Accepted =>
        letterOf byte.1 = Nat.digitChar (digits place) := by
    ext bytes
    rw [sources, Finset.mem_filter, sequence_draws, Fintype.mem_piFinset, spelled]
    simp only [Finset.mem_univ, true_and, Option.some.injEq, Prod.mk.injEq, and_true,
      String.ofList_inj, List.ofFn_inj, Finset.mem_filter]
    exact funext_iff
  rw [product, Fintype.card_piFinset]
  simp [digit_bytes]

end Counting

/-- The loops end on the stream after so many bytes, with this code. -/
structure Stops (stream : Stream' UInt8) (used : Nat) (code : String) : Prop where
  closes : Closes accepted 6 (stream.take used)
  waits : ∀ seen < used, generateOTP (stream.take seen) = none
  stops : ∀ seen ≥ used, generateOTP (stream.take seen) = some (code, (stream.take seen).drop used)

theorem stream_stops (stream : Stream' UInt8) (seen : Nat)
    (enough : 6 ≤ (stream.take seen).countP accepted) :
    ∃ used code, Stops stream used code ∧ SixDigits code := by
  obtain ⟨used, -, closes⟩ := stream_closes stream 6 seen enough
  refine ⟨used, _, ⟨closes, ?_, ?_⟩, drawn_six _ closes⟩
  · intro early short
    rw [generate_draws, stream_waits stream 6 used early closes short]
    rfl
  · intro late long
    rw [generate_draws, stream_draws stream 6 used late closes long]
    rfl

/-- A code is drawn from any stream with six accepted bytes, and every code is as likely. -/
theorem codes_uniform (stream : Stream' UInt8) (seen : Nat)
    (enough : 6 ≤ (stream.take seen).countP accepted) :
    (∃ used code, Stops stream used code ∧ SixDigits code ∧ otp code = .ok code) ∧
      { code | SixDigits code }.ncard = 10 ^ 6 ∧ Fintype.card (Fin 6 → Accepted) = 250 ^ 6 ∧
      ∀ code, SixDigits code → (sources code).card = 25 ^ 6 := by
  obtain ⟨used, code, stops, six⟩ := stream_stops stream seen enough
  refine ⟨⟨used, code, stops, six, (otp_unchanged code).mpr six⟩, codes_counted, ?_,
    sources_counted⟩
  rw [Fintype.card_fun, accepted_counted, Fintype.card_fin]

-- Every other byte is rejected.
def alternating : Stream' UInt8 := fun place => if place % 2 = 0 then 255 else 107

theorem codes_uniform_alternating :
    generateOTP (alternating.take 12) = some ("777777", []) ∧
      (∃ used code, Stops alternating used code ∧ SixDigits code ∧ otp code = .ok code) :=
  ⟨by decide, (codes_uniform alternating 12 (by decide)).1⟩

end TopInspect.OtpCodes
