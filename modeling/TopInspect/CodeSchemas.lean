import TopInspect.EmailSchema

/-! The schemas of schemas/primitives.ts for the codes that the server draws: nonempty, trimmed,
then refined. -/
namespace TopInspect.CodeSchemas

open EmailSchema (isSpace trim trim_plain)

structure Refinement where
  check : String → Bool
  message : String

-- Nothing is checked of an empty string; the refinements report all at once.
def trimmedText (required : String) (refinements : List Refinement) (input : String) :
    Except (List String) String :=
  if input = "" then .error [required]
  else
    let val := trim input
    match refinements.filter fun refinement => !refinement.check val with
    | [] => .ok val
    | failed => .error (failed.map Refinement.message)

def units (letter : Char) : Nat := if letter.toNat < 0x10000 then 1 else 2

def length (val : String) : Nat := (val.toList.map units).sum

/-- A pattern for so many letters of a kind and nothing else. -/
def repeats (kind : Char → Bool) (count : Nat) (val : String) : Bool :=
  val.toList.length = count && val.toList.all kind

-- The class `[0-9a-z]`.
def isBase36 (letter : Char) : Bool := letter.isDigit || letter.isLower

def otp : String → Except (List String) String :=
  trimmedText "OTP is required" [⟨repeats Char.isDigit 6, "OTP must be 6 digits"⟩]

def refreshToken : String → Except (List String) String :=
  trimmedText "Refresh token is required"
    [⟨fun val => length val = 24, "Invalid refresh token length"⟩,
      ⟨repeats isBase36 24, "Invalid refresh token format"⟩]

theorem trimmed_text_ok (required : String) (refinements : List Refinement) (input val : String) :
    trimmedText required refinements input = .ok val ↔
      input ≠ "" ∧ trim input = val ∧ ∀ refinement ∈ refinements, refinement.check val = true := by
  by_cases empty : input = ""
  · simp [trimmedText, empty]
  · have passes : refinements.filter (fun refinement => !refinement.check (trim input)) = [] ↔
        ∀ refinement ∈ refinements, refinement.check (trim input) = true := by
      simp [List.filter_eq_nil_iff]
    rw [trimmedText, if_neg empty]
    cases failed : refinements.filter fun refinement => !refinement.check (trim input) with
    | nil =>
        constructor
        · intro same
          simp only [failed, Except.ok.injEq] at same
          exact ⟨empty, same, same ▸ passes.mp failed⟩
        · rintro ⟨-, rfl, -⟩
          simp [failed]
    | cons first rest =>
        constructor
        · intro same
          simp [failed] at same
        · rintro ⟨-, rfl, all⟩
          rw [passes.mpr all] at failed
          cases failed

theorem repeats_iff (kind : Char → Bool) (count : Nat) (val : String) :
    repeats kind count val = true ↔ val.toList.length = count ∧ ∀ letter ∈ val.toList,
    kind letter = true := by
  simp [repeats]

theorem digit_base36 (letter : Char) (digit : letter.isDigit = true) : isBase36 letter = true := by
  simp [isBase36, digit]

theorem base36_plain (letter : Char) (plain : isBase36 letter = true) :
    isSpace letter = false ∧ units letter = 1 := by
  have letters : letter.isAlphanum = true := by
    simp only [isBase36, Bool.or_eq_true] at plain
    simp only [Char.isAlphanum, Char.isAlpha, Bool.or_eq_true]
    tauto
  obtain ⟨solid, ascii⟩ := EmailSchema.address_letter letter (Or.inl letters)
  exact ⟨solid, if_pos (by omega)⟩

theorem length_plain (val : String) (plain : ∀ letter ∈ val.toList, isBase36 letter = true) :
    length val = val.toList.length := by
  have single : val.toList.map units = val.toList.map fun _ => 1 :=
    List.map_congr_left fun letter member => (base36_plain letter (plain letter member)).2
  simp [length, single]

theorem trim_code (val : String) (plain : ∀ letter ∈ val.toList, isBase36 letter = true) :
    trim val = val :=
  trim_plain val fun letter member => (base36_plain letter (plain letter member)).1

theorem filled (val : String) (count : Nat) (letters : val.toList.length = count + 1) :
    val ≠ "" := by
  rintro rfl
  cases letters

/-- Six digits pass unchanged, and nothing else does. -/
theorem otp_unchanged (val : String) :
    otp val = .ok val ↔ val.toList.length = 6 ∧ ∀ letter ∈ val.toList, letter.isDigit = true := by
  rw [otp, trimmed_text_ok, List.forall_mem_singleton, repeats_iff]
  constructor
  · rintro ⟨-, -, six⟩
    exact six
  · rintro ⟨six, digits⟩
    exact ⟨filled val 5 six,
      trim_code val fun letter member => digit_base36 letter (digits letter member), six, digits⟩

/-- The tokens that pass unchanged are the 24-letter words of base 36. -/
theorem refresh_token_unchanged (val : String) :
    refreshToken val = .ok val ↔
      val.toList.length = 24 ∧ ∀ letter ∈ val.toList, isBase36 letter = true := by
  rw [refreshToken, trimmed_text_ok, List.forall_mem_cons, List.forall_mem_singleton, repeats_iff]
  constructor
  · rintro ⟨-, -, -, word⟩
    exact word
  · rintro ⟨letters, plain⟩
    refine ⟨filled val 23 letters, trim_code val plain, ?_, letters, plain⟩
    simp [length_plain val plain, letters]

end TopInspect.CodeSchemas
