import Mathlib

/-! The email schema of schemas/primitives.ts: nonempty, trimmed, lower-cased,
then checked by z.email. Of the runtime's letter case only what ASCII text sees
is fixed, and of z.email only which letters it lets pass, so both are rules a
deployment brings along with what they promise. -/
namespace TopInspect.EmailSchema

/-- WhiteSpace and LineTerminator, the letters `String.prototype.trim` strips. -/
def isSpace (letter : Char) : Bool :=
  letter.toNat ∈ [0x09, 0x0A, 0x0B, 0x0C, 0x0D, 0x20, 0xA0, 0x1680, 0x2028, 0x2029, 0x202F,
    0x205F, 0x3000, 0xFEFF] ∨ (0x2000 ≤ letter.toNat ∧ letter.toNat ≤ 0x200A)

def trim (text : String) : String :=
  String.ofList ((text.toList.dropWhile isSpace).rdropWhile isSpace)

def AddressLetter (letter : Char) : Prop :=
  letter.isAlphanum = true ∨ letter ∈ "._'+-@".toList

instance (letter : Char) : Decidable (AddressLetter letter) :=
  inferInstanceAs (Decidable (letter.isAlphanum = true ∨ letter ∈ "._'+-@".toList))

def lowerAscii (text : String) : String := String.ofList (text.toList.map Char.toLower)

structure EmailRules where
  toLowerCase : String → String
  isEmail : String → Bool
  lowers_ascii : ∀ text : String, (∀ letter ∈ text.toList, letter.toNat < 128) →
    toLowerCase text = lowerAscii text
  no_capitals : ∀ text : String, ∀ letter ∈ (toLowerCase text).toList, letter.isUpper = false
  is_address : ∀ text : String, isEmail text = true →
    text ≠ "" ∧ ∀ letter ∈ text.toList, AddressLetter letter

variable (rules : EmailRules)

-- An input the schema refuses has no value.
def email (input : String) : Option String :=
  if input = "" then none
  else
    let value := rules.toLowerCase (trim input)
    if rules.isEmail value then some value else none

/-- A non-empty text that is its own trimmed lower-case form. -/
def Normal (text : String) : Prop :=
  text ≠ "" ∧ rules.toLowerCase (trim text) = text

theorem address_letter (letter : Char) (address : AddressLetter letter) :
    isSpace letter = false ∧ letter.toNat < 128 := by
  rcases address with plain | mark
  · simp only [Char.isAlphanum, Char.isAlpha, Char.isUpper, Char.isLower, Char.isDigit,
      Bool.or_eq_true, Bool.and_eq_true, decide_eq_true_eq, ge_iff_le,
      UInt32.le_iff_toNat_le] at plain
    change ((65 ≤ letter.toNat ∧ letter.toNat ≤ 90) ∨ (97 ≤ letter.toNat ∧ letter.toNat ≤ 122)) ∨
      (48 ≤ letter.toNat ∧ letter.toNat ≤ 57) at plain
    constructor
    · simp only [isSpace, List.mem_cons, List.not_mem_nil, or_false, decide_eq_false_iff_not]
      omega
    · omega
  · have marks : "._'+-@".toList.all (fun letter => !isSpace letter && letter.toNat < 128) =
      true := by
      decide
    simpa using List.all_eq_true.mp marks letter mark

theorem trim_plain (text : String) (plain : ∀ letter ∈ text.toList, isSpace letter = false) :
    trim text = text := by
  have front : text.toList.dropWhile isSpace = text.toList := by
    rw [List.dropWhile_eq_self_iff]
    intro nonempty
    simp [plain _ (List.getElem_mem nonempty)]
  have back : text.toList.rdropWhile isSpace = text.toList := by
    rw [List.rdropWhile_eq_self_iff]
    intro nonempty
    simp [plain _ (List.getLast_mem nonempty)]
  rw [trim, front, back, String.ofList_toList]

/-- What the schema passes on has nothing left to trim or to lower. -/
theorem email_plain (input value : String) (passes : email rules input = some value) :
    value ≠ "" ∧ trim value = value ∧ rules.toLowerCase value = value := by
  simp only [email] at passes
  split at passes
  · cases passes
  · split at passes
    · next accepted =>
        cases passes
        obtain ⟨nonempty, letters⟩ := rules.is_address _ accepted
        have plain := fun letter member => address_letter letter (letters letter member)
        have capitals := rules.no_capitals (trim input)
        generalize rules.toLowerCase (trim input) = value at *
        have lowered : value.toList.map Char.toLower = value.toList := by
          apply (List.map_congr_left fun letter member =>
            Char.toLower_eq_of_not_isUpper (by simp [capitals letter member])).trans
          exact List.map_id _
        constructor
        · exact nonempty
        · constructor
          · exact trim_plain value fun letter member => (plain letter member).1
          · rw [rules.lowers_ascii value fun letter member => (plain letter member).2]
            rw [lowerAscii, lowered, String.ofList_toList]
    · cases passes

theorem email_normal (input value : String) (passes : email rules input = some value) :
    Normal rules value := by
  obtain ⟨nonempty, trimmed, lowered⟩ := email_plain rules input value passes
  exact ⟨nonempty, by rw [trimmed, lowered]⟩

/-- ASCII case, and addresses with a name and a dotted domain. -/
def asciiRules : EmailRules where
  toLowerCase := lowerAscii
  isEmail := fun text =>
    text.toList.all (fun letter => AddressLetter letter) &&
      !(text.toList.takeWhile fun letter => letter ≠ '@').isEmpty &&
      (text.toList.dropWhile fun letter => letter ≠ '@').contains '.'
  lowers_ascii := fun _ _ => rfl
  no_capitals := by
    intro text letter member
    rw [lowerAscii, String.toList_ofList] at member
    obtain ⟨source, -, rfl⟩ := List.mem_map.mp member
    exact Char.isUpper_toLower_eq_false source
  is_address := by
    intro text accepted
    simp only [Bool.and_eq_true, List.all_eq_true, decide_eq_true_eq] at accepted
    constructor
    · intro empty
      simp [empty] at accepted
    · exact accepted.1.1

end TopInspect.EmailSchema
