import TopInspect.EmailSchema
import TopInspect.Splitting
import TopInspect.Utf16

/-! The words of a name with a capital in front, as `text.ts` writes them: the first UTF-16 unit
of a word is raised and the rest lowered, by case mappings that may spell one letter with
several. -/
namespace TopInspect.WordCase
open Utf16

def isSpace (unit : UInt16) : Bool := EmailSchema.isSpace (Char.ofNat unit.toNat)

/-- `[a-zA-Z]` -/
def isLatin (unit : UInt16) : Bool :=
  (65 ≤ unit.toNat && unit.toNat ≤ 90) || (97 ≤ unit.toNat && unit.toNat ≤ 122)

def blank : CodePoint → Bool
  | .unit unit => isSpace unit
  | .pair _ _ _ _ => false

def latin : CodePoint → Bool
  | .unit unit => isLatin unit
  | .pair _ _ _ _ => false

def capitalSigma : CodePoint := .unit 0x03A3

def smallSigma : CodePoint := .unit 0x03C3

def finalSigma : CodePoint := .unit 0x03C2

/-- The full case mappings of Unicode, and what the standard says of their letters. -/
structure CaseTable where
  upper : CodePoint → List CodePoint
  lower : CodePoint → List CodePoint
  cased : CodePoint → Bool
  ignorable : CodePoint → Bool
  upper_filled : ∀ point, upper point ≠ []
  lower_filled : ∀ point, lower point ≠ []
  upper_settled : ∀ point, ∀ image ∈ upper point, upper image = [image]
  lower_settled : ∀ point, ∀ image ∈ lower point, lower image = [image]
  lower_capital : lower capitalSigma = [smallSigma]
  lower_final : lower finalSigma = [finalSigma]
  upper_short : ∀ unit, ∀ image ∈ upper (.unit unit), ∃ other, image = .unit other
  upper_lone : ∀ point, lone point = true → upper point = [point]
  lower_lone : ∀ point, lone point = true → lower point = [point]
  upper_plain : ∀ point, lone point = false → ∀ image ∈ upper point, lone image = false
  lower_plain : ∀ point, lone point = false → ∀ image ∈ lower point, lone image = false
  upper_blank : ∀ point, blank point = false → ∀ image ∈ upper point, blank image = false
  lower_blank : ∀ point, blank point = false → ∀ image ∈ lower point, blank image = false
  upper_latin : ∀ point, latin point = true → ∃ image ∈ upper point, latin image = true
  lower_latin : ∀ point, latin point = true → ∃ image ∈ lower point, latin image = true

variable (table : CaseTable)

/-- A cased letter is reached through letters that case ignores. -/
def CaseTable.reaches : List CodePoint → Bool
  | [] => false
  | point :: rest => table.cased point || (table.ignorable point && CaseTable.reaches rest)

/-- The lower case of a letter between the ones before it, the nearest first, and those after. -/
def CaseTable.lowerAt (before : List CodePoint) (point : CodePoint) (after : List CodePoint) :
    List CodePoint :=
  if point = capitalSigma ∧ table.reaches before = true ∧
    table.reaches after = false then [finalSigma]
  else table.lower point

def CaseTable.lowerAll : List CodePoint → List CodePoint → List CodePoint
  | _, [] => []
  | before, point :: after =>
      table.lowerAt before point after ++ CaseTable.lowerAll (point :: before) after

def toUpperCase (text : List UInt16) : List UInt16 := units ((codePoints text).flatMap table.upper)

def toLowerCase (text : List UInt16) : List UInt16 := units (table.lowerAll [] (codePoints text))

/-- The function that `capitalizeWords` maps over the words. -/
def capitalizeWord : List UInt16 → List UInt16
  | [] => []
  | first :: rest =>
      if (first :: rest).any isLatin then toUpperCase table [first] ++ toLowerCase table rest
      else first :: rest

def capitalizeWords (text : List UInt16) : List UInt16 :=
  [0x20].intercalate ((Splitting.split isSpace text).map (capitalizeWord table))

section Mappings
variable {table}

theorem lower_at_settled (before : List CodePoint) (point : CodePoint) (after : List CodePoint) :
    ∀ image ∈ table.lowerAt before point after, table.lower image = [image] := by
  intro image member
  simp only [CaseTable.lowerAt] at member
  split at member
  · rw [List.mem_singleton.mp member]
    exact table.lower_final
  · exact table.lower_settled point image member

theorem lower_at_filled (before : List CodePoint) (point : CodePoint) (after : List CodePoint) :
    table.lowerAt before point after ≠ [] := by
  simp only [CaseTable.lowerAt]
  split
  · exact List.cons_ne_nil _ _
  · exact table.lower_filled point

theorem lower_at_iff (before : List CodePoint) (point : CodePoint) (after : List CodePoint) :
    table.lowerAt before point after = [point] ↔ table.lower point = [point] := by
  simp only [CaseTable.lowerAt]
  split
  · next sigma =>
      have capital : ¬ table.lower capitalSigma = [capitalSigma] := by
        rw [table.lower_capital]
        decide
      rw [sigma.1]
      constructor
      · intro same
        exact absurd same (by decide)
      · intro same
        exact absurd same capital
  · exact Iff.rfl

theorem lower_all_mem (before points : List CodePoint) (image : CodePoint)
    (member : image ∈ table.lowerAll before points) :
    ∃ front point after, point ∈ points ∧ image ∈ table.lowerAt front point after := by
  induction points generalizing before with
  | nil => cases member
  | cons point rest ih =>
      rcases List.mem_append.mp member with here | later
      · exact ⟨before, point, rest, List.mem_cons_self, here⟩
      · obtain ⟨front, other, after, inside, image_of⟩ := ih (point :: before) later
        exact ⟨front, other, after, List.mem_cons_of_mem point inside, image_of⟩

theorem lower_all_length (before points : List CodePoint) :
    points.length ≤ (table.lowerAll before points).length := by
  induction points generalizing before with
  | nil => exact Nat.le_refl 0
  | cons point rest ih =>
      have later := ih (point :: before)
      have first := List.length_pos_iff.mpr (@lower_at_filled table before point rest)
      rw [CaseTable.lowerAll, List.length_append, List.length_cons]
      omega

theorem lower_all_iff (before points : List CodePoint) :
    table.lowerAll before points = points ↔ ∀ point ∈ points, table.lower point = [point] := by
  induction points generalizing before with
  | nil => simp [CaseTable.lowerAll]
  | cons point rest ih =>
      rw [List.forall_mem_cons, ← ih (point :: before), ← lower_at_iff before point rest,
        CaseTable.lowerAll]
      constructor
      · intro same
        have longer := @lower_all_length table (point :: before) rest
        have first := List.length_pos_iff.mpr (@lower_at_filled table before point rest)
        have total := congrArg List.length same
        rw [List.length_append, List.length_cons] at total
        have single : (table.lowerAt before point rest).length = [point].length := by
          rw [List.length_singleton]
          omega
        exact List.append_inj same single
      · rintro ⟨head, tail⟩
        rw [head, tail, List.singleton_append]

theorem lower_all_replaced (before points : List CodePoint) :
    Replaced points (table.lowerAll before points) := by
  induction points generalizing before with
  | nil => exact Replaced.nil
  | cons point rest ih =>
      rw [CaseTable.lowerAll]
      by_cases alone : lone point = true
      · have other : point ≠ capitalSigma := by
          rintro rfl
          exact absurd alone (by decide)
        have same : table.lowerAt before point rest = [point] := by
          rw [CaseTable.lowerAt, if_neg fun sigma => other sigma.1]
          exact table.lower_lone point alone
        rw [same, List.singleton_append]
        exact Replaced.lone point alone _ _ (ih (point :: before))
      · have plain : lone point = false := Bool.eq_false_iff.mpr alone
        apply Replaced.plain point _ plain (lower_at_filled before point rest) _ _ _
          (ih (point :: before))
        intro image member
        simp only [CaseTable.lowerAt] at member
        split at member
        · rw [List.mem_singleton.mp member]
          decide
        · exact table.lower_plain point plain image member

theorem lower_points (text : List UInt16) :
    codePoints (toLowerCase table text) = table.lowerAll [] (codePoints text) :=
  codePoints_units _ (replaced_apart _ _ (lower_all_replaced [] _) (codePoints_apart text))

theorem lower_case_iff (text : List UInt16) :
    toLowerCase table text = text ↔ ∀ point ∈ codePoints text, table.lower point = [point] := by
  rw [← lower_all_iff [] (codePoints text), ← lower_points]
  constructor
  · intro same
    rw [same]
  · intro same
    rw [← units_codePoints (toLowerCase table text), same, units_codePoints]

theorem lowered_settled (text : List UInt16) :
    ∀ point ∈ codePoints (toLowerCase table text), table.lower point = [point] := by
  intro point member
  rw [lower_points] at member
  obtain ⟨front, source, after, -, image⟩ := lower_all_mem _ _ _ member
  exact lower_at_settled front source after point image

/-- The upper case of one unit: a letter that is its own upper case, and what follows it. -/
theorem upper_unit (first : UInt16) :
    ∃ head rest, table.upper (.unit first) = .unit head :: rest ∧
      table.upper (.unit head) = [.unit head] ∧ (∀ point ∈ rest, lone point = false) := by
  cases images : table.upper (.unit first) with
  | nil => exact absurd images (table.upper_filled _)
  | cons point rest =>
      obtain ⟨head, rfl⟩ := table.upper_short first point (images ▸ List.mem_cons_self)
      have settled := table.upper_settled (.unit first) (.unit head) (images ▸ List.mem_cons_self)
      refine ⟨head, rest, rfl, settled, ?_⟩
      cases alone : lone (.unit first) with
      | true =>
          rw [table.upper_lone _ alone] at images
          cases images
          simp
      | false =>
          intro other member
          exact table.upper_plain _ alone other (images ▸ List.mem_cons_of_mem _ member)

theorem upper_case_unit (first : UInt16) :
    toUpperCase table [first] = units (table.upper (.unit first)) := by
  simp [toUpperCase, codePoints]

end Mappings

section Words
variable {table}

theorem space_plain (unit : UInt16) (space : isSpace unit = true) : lone (.unit unit) = false := by
  cases alone : lone (.unit unit) with
  | false => rfl
  | true =>
      have surrogate : 0xD800 ≤ unit.toNat ∧ unit.toNat ≤ 0xDFFF := by
        simp only [lone, isHigh, isLow, Bool.or_eq_true, Bool.and_eq_true,
          decide_eq_true_eq] at alone
        omega
      have invalid : ¬ unit.toNat.isValidChar := by
        simp only [Nat.isValidChar]
        omega
      rw [isSpace, Char.ofNat, dif_neg invalid] at space
      exact absurd space (by decide)

theorem latin_plain (unit : UInt16) (letter : isLatin unit = true) : lone (.unit unit) = false := by
  simp only [isLatin, Bool.or_eq_true, Bool.and_eq_true, decide_eq_true_eq] at letter
  simp only [lone, isHigh, isLow, Bool.or_eq_false_iff, Bool.and_eq_false_iff,
    decide_eq_false_iff_not]
  omega

theorem units_unbroken (points : List CodePoint) (solid : ∀ point ∈ points, blank point = false) :
    Splitting.Unbroken isSpace (units points) := by
  intro unit member
  cases space : isSpace unit with
  | false => rfl
  | true =>
      obtain ⟨point, inside, spelled⟩ := List.mem_flatMap.mp member
      have plain := space_plain unit space
      simp only [lone, Bool.or_eq_false_iff] at plain
      cases point with
      | unit other =>
          rw [List.mem_singleton.mp spelled] at space
          exact absurd space (Bool.eq_false_iff.mp (solid _ inside))
      | pair high low opens closes =>
          rcases List.mem_pair.mp spelled with rfl | rfl
          · exact absurd opens (Bool.eq_false_iff.mp plain.1)
          · exact absurd closes (Bool.eq_false_iff.mp plain.2)

theorem points_solid (word : List UInt16) (unbroken : Splitting.Unbroken isSpace word) :
    ∀ point ∈ codePoints word, blank point = false := by
  intro point member
  cases point with
  | pair high low opens closes => rfl
  | unit unit =>
      have inside : unit ∈ units (codePoints word) :=
        List.mem_flatMap.mpr ⟨.unit unit, member, List.mem_singleton_self unit⟩
      rw [units_codePoints] at inside
      exact unbroken unit inside

theorem lowered_unbroken (word : List UInt16) (unbroken : Splitting.Unbroken isSpace word) :
    Splitting.Unbroken isSpace (toLowerCase table word) := by
  apply units_unbroken
  intro image member
  obtain ⟨front, point, after, inside, lowered⟩ := lower_all_mem _ _ _ member
  simp only [CaseTable.lowerAt] at lowered
  split at lowered
  · rw [List.mem_singleton.mp lowered]
    decide
  · exact table.lower_blank point (points_solid word unbroken point inside) image lowered

theorem capitalized_unbroken (word : List UInt16) (unbroken : Splitting.Unbroken isSpace word) :
    Splitting.Unbroken isSpace (capitalizeWord table word) := by
  cases word with
  | nil => exact unbroken
  | cons first rest =>
      simp only [capitalizeWord]
      split
      · have raised : Splitting.Unbroken isSpace (toUpperCase table [first]) := by
          rw [upper_case_unit]
          exact units_unbroken _ (table.upper_blank _ (unbroken first List.mem_cons_self))
        have lowered := @lowered_unbroken table rest fun unit member =>
          unbroken unit (List.mem_cons_of_mem first member)
        intro unit member
        exact (List.mem_append.mp member).elim (raised unit) (lowered unit)
      · exact unbroken

theorem capitalized_filled (word : List UInt16) (filled : word ≠ []) :
    capitalizeWord table word ≠ [] := by
  cases word with
  | nil => exact absurd rfl filled
  | cons first rest =>
      simp only [capitalizeWord]
      split
      · obtain ⟨head, others, images, -, -⟩ := @upper_unit table first
        rw [upper_case_unit, images]
        simp [units, spelling]
      · exact filled

theorem latin_spelled (points : List CodePoint) (point : CodePoint) (member : point ∈ points)
    (letter : latin point = true) : (units points).any isLatin = true := by
  cases point with
  | pair high low opens closes => cases letter
  | unit unit =>
      exact List.any_eq_true.mpr
        ⟨unit, List.mem_flatMap.mpr ⟨.unit unit, member, List.mem_singleton_self unit⟩, letter⟩

theorem lower_all_keeps (before points : List CodePoint) (point : CodePoint)
    (member : point ∈ points) (other : point ≠ capitalSigma) :
    ∀ image ∈ table.lower point, image ∈ table.lowerAll before points := by
  induction points generalizing before with
  | nil => cases member
  | cons first rest ih =>
      intro image lowered
      rw [CaseTable.lowerAll, List.mem_append]
      rcases List.mem_cons.mp member with rfl | later
      · apply Or.inl
        rw [CaseTable.lowerAt, if_neg fun sigma => other sigma.1]
        exact lowered
      · exact Or.inr (ih (first :: before) later image lowered)

theorem capitalized_latin (first : UInt16) (rest : List UInt16)
    (letters : (first :: rest).any isLatin = true) :
    (toUpperCase table [first] ++ toLowerCase table rest).any isLatin = true := by
  rw [List.any_append, Bool.or_eq_true]
  rw [List.any_cons, Bool.or_eq_true] at letters
  rcases letters with opening | later
  · obtain ⟨image, member, letter⟩ := table.upper_latin (.unit first) opening
    apply Or.inl
    rw [upper_case_unit]
    exact latin_spelled _ image member letter
  · obtain ⟨unit, member, letter⟩ := List.any_eq_true.mp later
    have inside := unit_mem rest unit member (latin_plain unit letter)
    have other : CodePoint.unit unit ≠ capitalSigma := by
      intro same
      cases same
      exact absurd letter (by decide)
    obtain ⟨image, lowered, still⟩ := table.lower_latin (.unit unit) letter
    exact Or.inr (latin_spelled _ image (lower_all_keeps [] _ _ inside other image lowered) still)

variable (table) in
/-- What follows the first letter in its upper case has no lower case of its own. -/
def Steady (word : List UInt16) : Prop :=
  ∀ first ∈ word.head?, ∀ letter ∈ (table.upper (.unit first)).tail, table.lower letter = [letter]

theorem capitalized_again_iff (word : List UInt16) :
    capitalizeWord table (capitalizeWord table word) = capitalizeWord table word ↔
      (word.any isLatin = true → Steady table word) := by
  cases word with
  | nil => simp [capitalizeWord]
  | cons first rest =>
      by_cases letters : (first :: rest).any isLatin = true
      · obtain ⟨head, others, images, settled, plain⟩ := @upper_unit table first
        have raised : toUpperCase table [first] = head :: units others := by
          rw [upper_case_unit, images]
          rfl
        -- The first unit of an upper-case image is an upper-case unit itself.
        have again : toUpperCase table [head] = [head] := by
          rw [upper_case_unit, settled]
          rfl
        have once : capitalizeWord table (first :: rest) = head ::
          (units others ++ toLowerCase table rest) := by
          rw [capitalizeWord, if_pos letters, raised, List.cons_append]
        have still : (head :: (units others ++ toLowerCase table rest)).any isLatin = true := by
          have kept := @capitalized_latin table first rest letters
          rwa [raised, List.cons_append] at kept
        have lowered := @lowered_settled table rest
        rw [once, capitalizeWord, if_pos still, again, List.singleton_append, List.cons_inj_right,
          lower_case_iff, codePoints_append others _ plain]
        constructor
        · intro same given first' opening letter member
          cases opening
          rw [images] at member
          exact same letter (List.mem_append_left _ member)
        · intro steady point member
          rcases List.mem_append.mp member with front | back
          · exact steady letters first rfl point (by rw [images]; exact front)
          · exact lowered point back
      · have kept : capitalizeWord table (first :: rest) = first :: rest := by
          rw [capitalizeWord, if_neg letters]
        rw [kept, kept]
        simp [letters]

/-- A second pass changes nothing exactly if in every word with a Latin letter the upper case of
the first letter goes on, if at all, with letters that have no lower case. -/
theorem capitalize_words_again_iff (text : List UInt16) :
    capitalizeWords table (capitalizeWords table text) = capitalizeWords table text ↔
      ∀ word ∈ Splitting.split isSpace text, word.any isLatin = true → Steady table word := by
  have given : Splitting.Pieces isSpace (Splitting.split isSpace text) :=
    Splitting.split_pieces text
  have once := Splitting.pieces_map (capitalizeWord table) _ given
    (fun word _ => capitalized_filled word)
    fun word member => capitalized_unbroken word (given.unbroken word member)
  have twice := Splitting.pieces_map (capitalizeWord table) _ once
    (fun word _ => capitalized_filled word)
    fun word member => capitalized_unbroken word (once.unbroken word member)
  have space : isSpace 0x20 = true := by decide
  have found := Splitting.split_joined _ 0x20 space once
  have words : capitalizeWords table (capitalizeWords table text) = capitalizeWords table text ↔
      ((Splitting.split isSpace text).map (capitalizeWord table)).map (capitalizeWord table) =
        (Splitting.split isSpace text).map (capitalizeWord table) := by
    rw [capitalizeWords, capitalizeWords, found]
    constructor
    · intro same
      rw [← Splitting.split_joined _ 0x20 space twice, same, found]
    · intro same
      rw [same]
  rw [words, List.map_map, List.map_inj_left]
  exact forall₂_congr fun word _ => capitalized_again_iff word

end Words

section Samples

/-- ASCII case, and the sharp s, which has no capital of one letter. -/
def germanUpper : CodePoint → List CodePoint
  | .unit unit =>
      if 97 ≤ unit.toNat ∧ unit.toNat ≤ 122 then [.unit (UInt16.ofNat (unit.toNat - 32))]
      else if unit.toNat = 0xDF then [.unit 0x53, .unit 0x53]
      else [.unit unit]
  | point => [point]

def germanLower : CodePoint → List CodePoint
  | .unit unit =>
      if 65 ≤ unit.toNat ∧ unit.toNat ≤ 90 then [.unit (UInt16.ofNat (unit.toNat + 32))]
      else if unit.toNat = 0x3A3 then [smallSigma]
      else [.unit unit]
  | point => [point]

theorem german_upper (point image : CodePoint) (member : image ∈ germanUpper point) :
    image = point ∧ germanUpper point = [point] ∨
      ∃ unit other : UInt16, point = .unit unit ∧ image = .unit other ∧
        (65 ≤ other.toNat ∧ other.toNat ≤ 90) ∧
        (97 ≤ unit.toNat ∧ unit.toNat ≤ 122 ∨ unit.toNat = 0xDF) := by
  cases point with
  | pair high low opens closes => exact Or.inl ⟨List.mem_singleton.mp member, rfl⟩
  | unit unit =>
      simp only [germanUpper] at member ⊢
      split at member
      · next small =>
          have raised : (UInt16.ofNat (unit.toNat - 32)).toNat = unit.toNat - 32 := by
            rw [UInt16.toNat_ofNat']
            omega
          refine Or.inr ⟨unit, _, rfl, List.mem_singleton.mp member, ?_, Or.inl small⟩
          omega
      · split at member
        · next sharp =>
            have image_is : image = .unit 0x53 := by simpa using member
            exact Or.inr ⟨unit, 0x53, rfl, image_is, by decide, Or.inr sharp⟩
        · next small sharp =>
            rw [if_neg small, if_neg sharp]
            exact Or.inl ⟨List.mem_singleton.mp member, rfl⟩

theorem german_lower (point image : CodePoint) (member : image ∈ germanLower point) :
    image = point ∧ germanLower point = [point] ∨
      ∃ unit other : UInt16, point = .unit unit ∧ image = .unit other ∧
        ((65 ≤ unit.toNat ∧ unit.toNat ≤ 90) ∧ (97 ≤ other.toNat ∧ other.toNat ≤ 122) ∨
          unit.toNat = 0x3A3 ∧ other.toNat = 0x3C3) := by
  cases point with
  | pair high low opens closes => exact Or.inl ⟨List.mem_singleton.mp member, rfl⟩
  | unit unit =>
      simp only [germanLower] at member ⊢
      split at member
      · next capital =>
          have lowered : (UInt16.ofNat (unit.toNat + 32)).toNat = unit.toNat + 32 := by
            rw [UInt16.toNat_ofNat']
            omega
          refine Or.inr ⟨unit, _, rfl, List.mem_singleton.mp member, Or.inl ⟨capital, ?_⟩⟩
          omega
      · split at member
        · next sigma =>
            exact Or.inr ⟨unit, 0x3C3, rfl, List.mem_singleton.mp member, Or.inr ⟨sigma, rfl⟩⟩
        · next capital sigma =>
            rw [if_neg capital, if_neg sigma]
            exact Or.inl ⟨List.mem_singleton.mp member, rfl⟩

theorem german_upper_filled (point : CodePoint) : germanUpper point ≠ [] := by
  cases point with
  | pair high low opens closes => exact List.cons_ne_nil _ _
  | unit unit =>
      simp only [germanUpper]
      split_ifs <;> exact List.cons_ne_nil _ _

theorem german_lower_filled (point : CodePoint) : germanLower point ≠ [] := by
  cases point with
  | pair high low opens closes => exact List.cons_ne_nil _ _
  | unit unit =>
      simp only [germanLower]
      split_ifs <;> exact List.cons_ne_nil _ _

theorem plain_solid (unit : UInt16) (printed : 33 ≤ unit.toNat)
    (small : unit.toNat < 0xA0 ∨ unit.toNat = 0x3C3) :
    lone (.unit unit) = false ∧ blank (.unit unit) = false := by
  have valid : (Char.ofNat unit.toNat).toNat = unit.toNat := by
    rw [Char.ofNat, dif_pos (Or.inl (by omega))]
    rfl
  constructor
  · simp only [lone, isHigh, isLow, Bool.or_eq_false_iff, Bool.and_eq_false_iff,
      decide_eq_false_iff_not]
    omega
  · simp only [blank, isSpace, EmailSchema.isSpace, valid, List.mem_cons,
      List.not_mem_nil, or_false,
      decide_eq_false_iff_not]
    omega

theorem german_upper_settled (point image : CodePoint) (member : image ∈ germanUpper point) :
    germanUpper image = [image] := by
  rcases german_upper point image member with ⟨rfl, same⟩ | ⟨unit, other, rfl, rfl, capital, -⟩
  · exact same
  · simp only [germanUpper]
    rw [if_neg (by omega), if_neg (by omega)]

theorem german_lower_settled (point image : CodePoint) (member : image ∈ germanLower point) :
    germanLower image = [image] := by
  rcases german_lower point image member with ⟨rfl, same⟩ | ⟨unit, other, rfl, rfl, letters⟩
  · exact same
  · simp only [germanLower]
    rw [if_neg (by omega), if_neg (by omega)]

theorem german_upper_short (unit : UInt16) (image : CodePoint)
    (member : image ∈ germanUpper (.unit unit)) :
    ∃ other, image = .unit other := by
  rcases german_upper _ image member with ⟨same, -⟩ | ⟨-, other, -, same, -, -⟩
  · exact ⟨unit, same⟩
  · exact ⟨other, same⟩

theorem german_lone (point : CodePoint) (alone : lone point = true) :
    germanUpper point = [point] ∧ germanLower point = [point] := by
  cases point with
  | pair high low opens closes => exact ⟨rfl, rfl⟩
  | unit unit =>
      simp only [lone, isHigh, isLow, Bool.or_eq_true, Bool.and_eq_true, decide_eq_true_eq] at alone
      simp only [germanUpper, germanLower]
      rw [if_neg (by omega), if_neg (by omega), if_neg (by omega), if_neg (by omega)]
      exact ⟨rfl, rfl⟩

theorem german_upper_kept (point image : CodePoint) (member : image ∈ germanUpper point) :
    (lone point = false → lone image = false) ∧ (blank point = false → blank image = false) ∧
      (latin point = true → latin image = true) := by
  rcases german_upper point image member with ⟨rfl, -⟩ | ⟨unit, other, -, rfl, capital, -⟩
  · exact ⟨id, id, id⟩
  · have solid := plain_solid other (by omega) (by omega)
    have letter : latin (.unit other) = true := by simp [latin, isLatin, capital]
    exact ⟨fun _ => solid.1, fun _ => solid.2, fun _ => letter⟩

theorem german_lower_kept (point image : CodePoint) (member : image ∈ germanLower point) :
    (lone point = false → lone image = false) ∧ (blank point = false → blank image = false) ∧
      (latin point = true → latin image = true) := by
  rcases german_lower point image member with ⟨rfl, -⟩ | ⟨unit, other, rfl, rfl, letters⟩
  · exact ⟨id, id, id⟩
  · have solid := plain_solid other (by omega) (by omega)
    refine ⟨fun _ => solid.1, fun _ => solid.2, ?_⟩
    simp only [latin, isLatin, Bool.or_eq_true, Bool.and_eq_true, decide_eq_true_eq]
    omega

def german : CaseTable where
  upper := germanUpper
  lower := germanLower
  cased := latin
  ignorable := fun _ => false
  upper_filled := german_upper_filled
  lower_filled := german_lower_filled
  upper_settled := german_upper_settled
  lower_settled := german_lower_settled
  lower_capital := rfl
  lower_final := rfl
  upper_short := german_upper_short
  upper_lone := fun point alone => (german_lone point alone).1
  lower_lone := fun point alone => (german_lone point alone).2
  upper_plain := fun point plain image member => (german_upper_kept point image member).1 plain
  lower_plain := fun point plain image member => (german_lower_kept point image member).1 plain
  upper_blank := fun point solid image member => (german_upper_kept point image member).2.1 solid
  lower_blank := fun point solid image member => (german_lower_kept point image member).2.1 solid
  upper_latin := fun point letter =>
    (List.exists_mem_of_ne_nil _ (german_upper_filled point)).imp fun image member =>
      ⟨member, (german_upper_kept point image member).2.2 letter⟩
  lower_latin := fun point letter =>
    (List.exists_mem_of_ne_nil _ (german_lower_filled point)).imp fun image member =>
      ⟨member, (german_lower_kept point image member).2.2 letter⟩

def spelled (text : String) : List UInt16 := text.toList.map fun letter => UInt16.ofNat letter.toNat

example : capitalizeWords german (spelled " john  doe ") = spelled " John Doe " := by decide

/-- "ßa" becomes "SSa", and that becomes "Ssa". -/
theorem capitalized_again :
    ¬ ∀ (table : CaseTable) (text : List UInt16),
      capitalizeWords table (capitalizeWords table text) = capitalizeWords table text := by
  intro again
  have once : capitalizeWords german (spelled "ßa") = spelled "SSa" := by decide
  have twice : capitalizeWords german (spelled "SSa") = spelled "Ssa" := by decide
  have same := again german (spelled "ßa")
  rw [once, twice] at same
  exact absurd same (by decide)

end Samples

end TopInspect.WordCase
