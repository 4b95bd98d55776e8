import Mathlib.Data.Nat.Notation
import Mathlib.Data.List.Basic

/-! Bytes as text of two hexadecimal digits each, and back. Reading is done the loose way: the
text is cut into pairs of letters, whatever they are, and each pair is read as far as it goes. -/
namespace TopInspect.HexText

def digit (value : Nat) : Char := "0123456789abcdef".toList.getD value '0'

def value (letter : Char) : Option Nat :=
  if letter.isDigit then some (letter.toNat - '0'.toNat)
  else if 'a' ≤ letter ∧ letter ≤ 'f' then some (letter.toNat - 'a'.toNat + 10)
  else if 'A' ≤ letter ∧ letter ≤ 'F' then some (letter.toNat - 'A'.toNat + 10)
  else none

def spell (byte : UInt8) : List Char := [digit (byte.toNat / 16), digit (byte.toNat % 16)]

def encode (bytes : List UInt8) : List Char := bytes.flatMap spell

/-- The digits a text starts with, as a number. -/
def number (total : Nat) : List Char → Nat
  | [] => total
  | letter :: rest =>
      match value letter with
      | some digit => number (16 * total + digit) rest
      | none => total

/-- Pairs of letters one after another; a letter that may not be in one is passed over. -/
def pairs (within : Char → Bool) : List Char → List (List Char)
  | first :: second :: rest =>
      if within first && within second then [first, second] :: pairs within rest
      else pairs within (second :: rest)
  | _ => []

def read (pair : List Char) : UInt8 := UInt8.ofNat (number 0 pair)

def decode (within : Char → Bool) (letters : List Char) : List UInt8 :=
    (pairs within letters).map read

theorem value_digit (nibble : Nat) (small : nibble < 16) : value (digit nibble) = some nibble := by
  have all : ∀ nibble < 16, value (digit nibble) = some nibble := by decide
  exact all nibble small

theorem read_spell (byte : UInt8) : read (spell byte) = byte := by
  have small : byte.toNat < 256 := byte.toNat_lt
  have high := value_digit (byte.toNat / 16) (by omega)
  have low := value_digit (byte.toNat % 16) (by omega)
  have whole : 16 * (16 * 0 + byte.toNat / 16) + byte.toNat % 16 = byte.toNat := by omega
  simp only [read, spell, number, high, low, whole, UInt8.ofNat_toNat]

theorem encode_free (letter : Char) (apart : ∀ nibble < 16, digit nibble ≠ letter)
    (bytes : List UInt8) :
    letter ∉ encode bytes := by
  intro member
  obtain ⟨byte, -, spelled⟩ := List.mem_flatMap.mp member
  have small : byte.toNat < 256 := byte.toNat_lt
  simp only [spell, List.mem_cons, List.not_mem_nil, or_false] at spelled
  rcases spelled with high | low
  · exact apart (byte.toNat / 16) (by omega) high.symm
  · exact apart (byte.toNat % 16) (by omega) low.symm

variable {within : Char → Bool}

theorem pairs_spell (digits : ∀ nibble < 16, within (digit nibble) = true) (byte : UInt8)
    (rest : List Char) :
    pairs within (spell byte ++ rest) = spell byte :: pairs within rest := by
  have small : byte.toNat < 256 := byte.toNat_lt
  have high := digits (byte.toNat / 16) (by omega)
  have low := digits (byte.toNat % 16) (by omega)
  simp only [spell, List.cons_append, List.nil_append]
  rw [pairs, if_pos (by rw [high, low]; rfl)]

/-- The bytes come back from their text. -/
theorem decode_encode (digits : ∀ nibble < 16, within (digit nibble) = true) (bytes : List UInt8) :
    decode within (encode bytes) = bytes := by
  induction bytes with
  | nil => simp [decode, encode, pairs]
  | cons byte rest ih =>
      have next := pairs_spell digits byte (encode rest)
      simp only [decode, encode, List.flatMap_cons] at ih next ⊢
      rw [next, List.map_cons, read_spell, ih]

end TopInspect.HexText
