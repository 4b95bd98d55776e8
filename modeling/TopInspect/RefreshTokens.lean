import TopInspect.CodeSchemas
import TopInspect.Numerals

/-! The refresh tokens that are drawn: sixteen bytes as a numeral of base 36, of which the last
24 digits are kept. The schema takes every one of them, but 36 ^ 24 is below 2 ^ 128. -/
namespace TopInspect.RefreshTokens

open Numerals
open CodeSchemas (isBase36 refreshToken refresh_token_unchanged)

def letters : List Char := "0123456789abcdefghijklmnopqrstuvwxyz".toList

def letterOf (digit : Nat) : Char := letters.getD digit '0'

/-- `BigInt.prototype.toString`. -/
def toString (num radix : Nat) : String := String.ofList ((numeral radix num).map letterOf)

-- What is padded and cut here is ASCII, so a letter is a UTF-16 unit.
def padStart (text : String) (targetLength : Nat) (fill : Char) : String :=
  String.ofList (text.toList.leftpad targetLength fill)

/-- `slice(-count)`. -/
def sliceLast (text : String) (count : Nat) : String := String.ofList (text.toList.rtake count)

/-- The token of the bytes that getRandomValues has drawn. -/
def generateRefreshToken (bytes : Vector UInt8 16) : String :=
  let num := bytes.toList.foldl (fun num byte => (num <<< 8) + byte.toNat) 0
  sliceLast (padStart (toString num 36) 24 '0') 24

/-- The number that the bytes spell, the first one counting most. -/
def bigEndian (bytes : Vector UInt8 16) : Nat :=
    Nat.ofDigits 256 (bytes.toList.map UInt8.toNat).reverse

section Letters

theorem letter_base36 (digit : Nat) (small : digit < 36) : isBase36 (letterOf digit) = true := by
  have all : ∀ digit < 36, isBase36 (letterOf digit) = true := by decide
  exact all digit small

theorem letter_inj (first second : Nat) (one : first < 36) (two : second < 36)
    (same : letterOf first = letterOf second) : first = second := by
  have all : ∀ first < 36, ∀ second < 36, letterOf first = letterOf second →
    first = second := by decide
  exact all first one second two same

theorem letter_of_base36 (letter : Char) (plain : isBase36 letter = true) :
    ∃ digit < 36, letterOf digit = letter := by
  have all : ∀ code < 123, isBase36 (Char.ofNat code) = true →
      ∃ digit < 36, letterOf digit = Char.ofNat code := by decide +kernel
  have below : letter.toNat < 123 := by
    simp only [isBase36, Char.isDigit, Char.isLower, Bool.or_eq_true, Bool.and_eq_true,
      decide_eq_true_eq, ge_iff_le, UInt32.le_iff_toNat_le] at plain
    change (48 ≤ letter.toNat ∧ letter.toNat ≤ 57) ∨
      (97 ≤ letter.toNat ∧ letter.toNat ≤ 122) at plain
    omega
  have found := all letter.toNat below
  rw [Char.ofNat_toNat] at found
  exact found plain

theorem words_inj (first second : List Nat) (one : ∀ digit ∈ first, digit < 36)
    (two : ∀ digit ∈ second, digit < 36) (same : first.map letterOf = second.map letterOf) :
    first = second := by
  induction first generalizing second with
  | nil => exact (List.map_eq_nil_iff.mp same.symm).symm
  | cons digit rest ih =>
      cases second with
      | nil => cases same
      | cons other others =>
          obtain ⟨head, tail⟩ := List.cons.inj same
          obtain ⟨small, smaller⟩ := List.forall_mem_cons.mp one
          obtain ⟨low, lower⟩ := List.forall_mem_cons.mp two
          rw [letter_inj digit other small low head, ih others smaller lower tail]

theorem word_digits (word : List Char) (plain : ∀ letter ∈ word, isBase36 letter = true) :
    ∃ digits : List Nat, digits.map letterOf = word ∧ ∀ digit ∈ digits, digit < 36 := by
  induction word with
  | nil => exact ⟨[], rfl, by simp⟩
  | cons letter rest ih =>
      obtain ⟨first, others⟩ := List.forall_mem_cons.mp plain
      obtain ⟨digit, small, rfl⟩ := letter_of_base36 letter first
      obtain ⟨digits, rfl, below⟩ := ih others
      exact ⟨digit :: digits, rfl, List.forall_mem_cons.mpr ⟨small, below⟩⟩

end Letters

section Tokens

theorem shifted_value (bytes : List UInt8) :
    bytes.foldl (fun num byte => (num <<< 8) + byte.toNat) 0 = value 256
    (bytes.map UInt8.toNat) := by
  rw [← fold_value, List.foldl_map]
  simp [Nat.shiftLeft_eq]

theorem padded_letters (digits : List Nat) (width : Nat) :
    (digits.map letterOf).leftpad width '0' = (digits.leftpad width 0).map letterOf := by
  simp [List.leftpad, show letterOf 0 = '0' by decide]

theorem token_letters (bytes : Vector UInt8 16) :
    (generateRefreshToken bytes).toList = (fixed 36 24 (bigEndian bytes)).map letterOf := by
  have cut (digits : List Nat) : (digits.map letterOf).rtake 24 = (digits.rtake 24).map
    letterOf := by
    simp [List.rtake, List.map_drop]
  simp only [generateRefreshToken, sliceLast, padStart, toString, String.toList_ofList]
  rw [padded_letters, cut, padded_last (by decide) 24 _ (by decide), shifted_value]
  rfl

theorem byte_digits (bytes : Vector UInt8 16) :
    ∀ digit ∈ (bytes.toList.map UInt8.toNat).reverse, digit < 256 := by
  intro digit member
  obtain ⟨byte, -, rfl⟩ := List.mem_map.mp (List.mem_reverse.mp member)
  exact byte.toNat_lt

theorem big_endian_below (bytes : Vector UInt8 16) : bigEndian bytes < 2 ^ 128 := by
  have below := Nat.ofDigits_lt_base_pow_length (by decide) (byte_digits bytes)
  simpa [bigEndian] using below

theorem token_eq_iff (left right : Vector UInt8 16) :
    generateRefreshToken left = generateRefreshToken right ↔
      bigEndian left ≡ bigEndian right [MOD 36 ^ 24] := by
  rw [← fixed_eq_iff 24 (bigEndian left) (bigEndian right), ← String.toList_inj, token_letters,
    token_letters]
  constructor
  · exact words_inj _ _ (fixed_digit (by decide) 24 _) (fixed_digit (by decide) 24 _)
  · exact congrArg (List.map letterOf)

theorem token_word (bytes : Vector UInt8 16) :
    (generateRefreshToken bytes).toList.length = 24 ∧
      ∀ letter ∈ (generateRefreshToken bytes).toList, isBase36 letter = true := by
  rw [token_letters]
  constructor
  · rw [List.length_map, fixed_length (by decide)]
  · intro letter member
    obtain ⟨digit, inside, rfl⟩ := List.mem_map.mp member
    exact letter_base36 digit (fixed_digit (by decide) 24 _ digit inside)

theorem token_accepted (bytes : Vector UInt8 16) :
    refreshToken (generateRefreshToken bytes) = .ok (generateRefreshToken bytes) :=
  (refresh_token_unchanged _).mpr (token_word bytes)

theorem spelled (num : Nat) (fits : num < 2 ^ 128) : ∃ bytes, bigEndian bytes = num := by
  let digits := fixed 256 16 num
  have count : (digits.map UInt8.ofNat).toArray.size = 16 := by
    simp [digits, fixed_length]
  have back : (digits.map UInt8.ofNat).map UInt8.toNat = digits := by
    rw [List.map_map]
    conv_rhs => rw [← List.map_id digits]
    refine List.map_congr_left fun digit member => ?_
    have small : digit < 256 := fixed_digit (by decide) 16 num digit member
    simp [Nat.mod_eq_of_lt small]
  refine ⟨⟨(digits.map UInt8.ofNat).toArray, count⟩, ?_⟩
  change value 256 ((digits.map UInt8.ofNat).map UInt8.toNat) = num
  rw [back, fixed_value, Nat.mod_eq_of_lt (by simpa using fits)]

/-- No input has a token of its own. -/
theorem token_shared (bytes : Vector UInt8 16) :
    ∃ other, other ≠ bytes ∧ generateRefreshToken other = generateRefreshToken bytes := by
  have room : 36 ^ 24 + 36 ^ 24 < 2 ^ 128 := by decide
  have below := big_endian_below bytes
  suffices apart : ∃ num < 2 ^ 128, num ≠ bigEndian bytes ∧ num ≡ bigEndian bytes [MOD 36 ^ 24] by
    obtain ⟨num, fits, different, same⟩ := apart
    obtain ⟨other, rfl⟩ := spelled num fits
    refine ⟨other, ?_, (token_eq_iff other bytes).mpr same⟩
    rintro rfl
    exact different rfl
  by_cases small : bigEndian bytes < 36 ^ 24
  · exact ⟨bigEndian bytes + 36 ^ 24, by omega, by omega, Nat.add_mod_right _ _⟩
  · refine ⟨bigEndian bytes - 36 ^ 24, by omega, by omega, ?_⟩
    exact (Nat.mod_eq_sub_mod (Nat.not_lt.mp small)).symm

/-- The schema lets no other word through than can be drawn. -/
theorem issued_iff (word : String) :
    (∃ bytes, generateRefreshToken bytes = word) ↔ refreshToken word = .ok word := by
  constructor
  · rintro ⟨bytes, rfl⟩
    exact token_accepted bytes
  · intro accepted
    obtain ⟨count, plain⟩ := (refresh_token_unchanged word).mp accepted
    obtain ⟨digits, spells, small⟩ := word_digits word.toList plain
    have width : digits.length = 24 := by rw [← count, ← spells, List.length_map]
    have below : value 36 digits < 36 ^ 24 := by
      rw [← width]
      exact value_below (by decide) digits small
    obtain ⟨bytes, drawn⟩ := spelled (value 36 digits) (Nat.lt_trans below (by decide))
    refine ⟨bytes, String.toList_inj.mp ?_⟩
    rw [token_letters, drawn, ← spells, ← width, fixed_of_value (by decide) digits small]

end Tokens

/-- A token is the padded numeral of the number drawn, up to multiples of 36 ^ 24, and the schema
takes it as it is. -/
theorem token_well_formed (bytes : Vector UInt8 16) :
    (generateRefreshToken bytes).toList.length = 24 ∧
      (∀ letter ∈ (generateRefreshToken bytes).toList, isBase36 letter = true) ∧
      generateRefreshToken bytes = padStart (toString (bigEndian bytes % 36 ^ 24) 36) 24 '0' ∧
      refreshToken (generateRefreshToken bytes) = .ok (generateRefreshToken bytes) := by
  obtain ⟨count, plain⟩ := token_word bytes
  refine ⟨count, plain, String.toList_inj.mp ?_, token_accepted bytes⟩
  have fits : bigEndian bytes % 36 ^ 24 < 36 ^ 24 := Nat.mod_lt _ (by decide)
  have same : bigEndian bytes % 36 ^ 24 ≡ bigEndian bytes [MOD 36 ^ 24] := Nat.mod_modEq _ _
  rw [token_letters, padStart, toString, String.toList_ofList, String.toList_ofList, padded_letters,
    padded_fits 24 _ (by decide) fits, (fixed_eq_iff 24 _ _).mpr same]

/-- Different inputs have different tokens unless a multiple of 36 ^ 24 is between them. -/
theorem tokens_differ_iff (left right : Vector UInt8 16) :
    (left ≠ right → generateRefreshToken left ≠ generateRefreshToken right) ↔
      left = right ∨ ¬ (36 ^ 24 : Int) ∣ bigEndian right - bigEndian left := by
  have collide : generateRefreshToken left = generateRefreshToken right ↔
      (36 ^ 24 : Int) ∣ bigEndian right - bigEndian left := by
    rw [token_eq_iff, Nat.modEq_iff_dvd]
    push_cast
    rfl
  rw [ne_eq, ne_eq, collide]
  exact or_iff_not_imp_left.symm

def zeros : Vector UInt8 16 := ⟨#[0, 0, 0, 0, 0, 0, 0, 0, 0, 0, 0, 0, 0, 0, 0, 0], rfl⟩

def wrapped : Vector UInt8 16 :=
  ⟨#[16, 228, 37, 197, 109, 175, 250, 188, 53, 193, 0, 0, 0, 0, 0, 0], rfl⟩

theorem tokens_collide : ¬ Function.Injective generateRefreshToken := by
  intro injective
  have same : generateRefreshToken zeros = generateRefreshToken wrapped := by decide +kernel
  have apart : zeros ≠ wrapped := by decide
  exact apart (injective same)

end TopInspect.RefreshTokens
