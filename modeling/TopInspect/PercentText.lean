import TopInspect.HexText
import TopInspect.UrlPath

/-! Percent-encoded text and the bytes it stands for. -/
namespace TopInspect.PercentText

open UrlPath (hexDigit percentEncode)

/-- A percent sign with two digits stands for a byte, any other letter for its UTF-8. -/
inductive Spells : List Char → List UInt8 → Prop
  | done : Spells [] []
  | plain {rest : List Char} {bytes : List UInt8} (letter : Char) :
      letter ≠ '%' → Spells rest bytes → Spells (letter :: rest)
      (String.utf8EncodeChar letter ++ bytes)
  | escape {rest : List Char} {bytes : List UInt8} (byte : UInt8) : Spells rest bytes →
      Spells ('%' :: hexDigit (byte.toNat / 16) :: hexDigit (byte.toNat % 16) :: rest)
      (byte :: bytes)

theorem spells_plain (text : List Char) (plain : '%' ∉ text) :
    Spells text (text.flatMap String.utf8EncodeChar) := by
  induction text with
  | nil => exact Spells.done
  | cons letter rest ih =>
      rw [List.mem_cons, not_or] at plain
      exact Spells.plain letter (Ne.symm plain.1) (ih plain.2)

theorem spells_encoded (letter : Char) {rest : List Char} {bytes : List UInt8}
    (spells : Spells rest bytes) :
    Spells (percentEncode letter ++ rest) (String.utf8EncodeChar letter ++ bytes) := by
  unfold percentEncode
  induction String.utf8EncodeChar letter with
  | nil => exact spells
  | cons byte others ih => exact Spells.escape byte ih

theorem spells_flat (spelling : Char → List Char)
    (each : ∀ letter rest bytes, Spells rest bytes →
      Spells (spelling letter ++ rest) (String.utf8EncodeChar letter ++ bytes)) (text : List Char) :
    Spells (text.flatMap spelling) (text.flatMap String.utf8EncodeChar) := by
  induction text with
  | nil => exact Spells.done
  | cons letter rest ih => exact each letter _ _ ih

section Decoding

/-- The bytes of a text; a percent sign without two digits stands for itself. -/
def decoded : List Char → List UInt8
  | [] => []
  | letter :: rest =>
      match letter, rest with
      | '%', high :: low :: later =>
          match HexText.value high, HexText.value low with
          | some first, some second => UInt8.ofNat (16 * first + second) :: decoded later
          | _, _ => String.utf8EncodeChar '%' ++ decoded (high :: low :: later)
      | other, rest => String.utf8EncodeChar other ++ decoded rest

theorem hex_value (nibble : Nat) (small : nibble < 16) :
    HexText.value (hexDigit nibble) = some nibble := by
  have all : ∀ nibble < 16, HexText.value (hexDigit nibble) = some nibble := by decide
  exact all nibble small

theorem decoded_byte (byte : UInt8) (rest : List Char) :
    decoded ('%' :: hexDigit (byte.toNat / 16) :: hexDigit (byte.toNat % 16) :: rest) =
      byte :: decoded rest := by
  have small : byte.toNat < 256 := byte.toNat_lt
  have high := hex_value (byte.toNat / 16) (by omega)
  have low := hex_value (byte.toNat % 16) (by omega)
  have whole : 16 * (byte.toNat / 16) + byte.toNat % 16 = byte.toNat := by omega
  conv => lhs; unfold decoded
  simp only [high, low, whole, UInt8.ofNat_toNat]

theorem decoded_letter (letter : Char) (plain : letter ≠ '%') (rest : List Char) :
    decoded (letter :: rest) = String.utf8EncodeChar letter ++ decoded rest := by
  conv => lhs; unfold decoded
  split
  · exact absurd rfl plain
  · rfl

theorem decoded_spelled {text : List Char} {bytes : List UInt8} (spells : Spells text bytes) :
    decoded text = bytes := by
  induction spells with
  | done => rw [decoded]
  | plain letter plain _ ih => rw [decoded_letter letter plain, ih]
  | escape byte _ ih => rw [decoded_byte, ih]

end Decoding

end TopInspect.PercentText
