import Mathlib.Data.List.Chain

/-! The code points that UTF-16 code units spell, lone surrogates among them. -/
namespace TopInspect.Utf16

def isHigh (unit : UInt16) : Bool := 0xD800 ≤ unit.toNat && unit.toNat ≤ 0xDBFF

def isLow (unit : UInt16) : Bool := 0xDC00 ≤ unit.toNat && unit.toNat ≤ 0xDFFF

inductive CodePoint where
  | unit (unit : UInt16)
  | pair (high low : UInt16) (opens : isHigh high = true) (closes : isLow low = true)
  deriving DecidableEq

def spelling : CodePoint → List UInt16
  | .unit unit => [unit]
  | .pair high low _ _ => [high, low]

def units (points : List CodePoint) : List UInt16 := points.flatMap spelling

def codePoints : List UInt16 → List CodePoint
  | [] => []
  | [unit] => [.unit unit]
  | unit :: next :: rest =>
      if surrogates : isHigh unit = true ∧ isLow next = true then
        .pair unit next surrogates.1 surrogates.2 :: codePoints rest
      else .unit unit :: codePoints (next :: rest)

/-- A surrogate without the other half. -/
def lone : CodePoint → Bool
  | .unit unit => isHigh unit || isLow unit
  | .pair _ _ _ _ => false

/-- Two lone surrogates that together spell one code point. -/
def joins : CodePoint → CodePoint → Bool
  | .unit high, .unit low => isHigh high && isLow low
  | _, _ => false

def Apart (points : List CodePoint) : Prop := points.IsChain fun first second =>
    joins first second = false

theorem high_not_low (unit : UInt16) (high : isHigh unit = true) : isLow unit = false := by
  simp only [isHigh, isLow, Bool.and_eq_true, Bool.and_eq_false_iff, decide_eq_true_eq,
    decide_eq_false_iff_not] at *
  omega

theorem units_codePoints (text : List UInt16) : units (codePoints text) = text := by
  induction text using codePoints.induct with
  | case1 => rfl
  | case2 unit => rfl
  | case3 unit next rest surrogates ih =>
      rw [codePoints, dif_pos surrogates]
      simpa [units, spelling] using ih
  | case4 unit next rest apart ih =>
      rw [codePoints, dif_neg apart]
      simpa [units, spelling] using ih

theorem codePoints_cons (unit : UInt16) (text : List UInt16) (plain : isHigh unit = false) :
    codePoints (unit :: text) = .unit unit :: codePoints text := by
  cases text with
  | nil => rfl
  | cons next rest =>
      have apart : ¬ (isHigh unit = true ∧ isLow next = true) := by simp [plain]
      rw [codePoints, dif_neg apart]

theorem codePoints_head (unit : UInt16) (text : List UInt16) :
    ∃ point rest, codePoints (unit :: text) = point :: rest ∧
      (spelling point).head? = some unit := by
  cases text with
  | nil => exact ⟨.unit unit, [], rfl, rfl⟩
  | cons next rest =>
      by_cases surrogates : isHigh unit = true ∧ isLow next = true
      · rw [codePoints, dif_pos surrogates]
        exact ⟨_, _, rfl, rfl⟩
      · rw [codePoints, dif_neg surrogates]
        exact ⟨_, _, rfl, rfl⟩

theorem codePoints_apart (text : List UInt16) : Apart (codePoints text) := by
  induction text using codePoints.induct with
  | case1 => exact List.isChain_nil
  | case2 unit => exact List.isChain_singleton _
  | case3 unit next rest surrogates ih =>
      rw [codePoints, dif_pos surrogates]
      cases points : codePoints rest with
      | nil => exact List.isChain_singleton _
      | cons point others => exact List.isChain_cons_cons.mpr ⟨rfl, points ▸ ih⟩
  | case4 unit next rest apart ih =>
      rw [codePoints, dif_neg apart]
      obtain ⟨point, others, points, starts⟩ := codePoints_head next rest
      rw [points] at ih ⊢
      refine List.isChain_cons_cons.mpr ⟨?_, ih⟩
      cases point with
      | pair high low opens closes => rfl
      | unit other =>
          cases starts
          simpa [joins, Bool.and_eq_false_iff] using apart

theorem codePoints_units (points : List CodePoint) (apart : Apart points) :
    codePoints (units points) = points := by
  induction points with
  | nil => rfl
  | cons point rest ih =>
      have same := ih (List.IsChain.tail apart)
      cases point with
      | pair high low opens closes =>
          change codePoints (high :: low :: units rest) = _
          rw [codePoints, dif_pos ⟨opens, closes⟩, same]
      | unit unit =>
          cases rest with
          | nil => rfl
          | cons next others =>
              -- A high unit stands apart from a low one, so no pair is read across the border.
              have alone : ∀ first more, units (next :: others) = first :: more →
                  ¬ (isHigh unit = true ∧ isLow first = true) := by
                rintro first more spelled ⟨high, low⟩
                have boundary := (List.isChain_cons_cons.mp apart).1
                cases next with
                | unit other =>
                    cases spelled
                    simp [joins, high, low] at boundary
                | pair opening closing opens closes =>
                    cases spelled
                    rw [high_not_low _ opens] at low
                    cases low
              change codePoints (unit :: units (next :: others)) = _
              cases spelled : units (next :: others) with
              | nil => cases next <;> simp [units, spelling] at spelled
              | cons first more =>
                  rw [codePoints, dif_neg (alone first more spelled), ← spelled, same]

/-- Points that stand alone change nothing in how the text behind them reads. -/
theorem codePoints_append (points : List CodePoint) (text : List UInt16)
    (plain : ∀ point ∈ points, lone point = false) :
    codePoints (units points ++ text) = points ++ codePoints text := by
  induction points with
  | nil => rfl
  | cons point rest ih =>
      have same := ih fun other member => plain other (List.mem_cons_of_mem point member)
      have first := plain point List.mem_cons_self
      cases point with
      | pair high low opens closes =>
          change codePoints (high :: low :: (units rest ++ text)) = _
          rw [codePoints, dif_pos ⟨opens, closes⟩, same, List.cons_append]
      | unit unit =>
          simp only [lone, Bool.or_eq_false_iff] at first
          change codePoints (unit :: (units rest ++ text)) = _
          rw [codePoints_cons unit _ first.1, same, List.cons_append]

theorem unit_mem (text : List UInt16) (unit : UInt16) (member : unit ∈ text)
    (plain : lone (.unit unit) = false) : .unit unit ∈ codePoints text := by
  rw [← units_codePoints text, units, List.mem_flatMap] at member
  obtain ⟨point, inside, spelled⟩ := member
  simp only [lone, Bool.or_eq_false_iff] at plain
  cases point with
  | unit other =>
      rw [spelling, List.mem_singleton] at spelled
      exact spelled ▸ inside
  | pair high low opens closes =>
      rcases List.mem_pair.mp spelled with rfl | rfl
      · rw [plain.1] at opens
        cases opens
      · rw [plain.2] at closes
        cases closes

/-- Every point is replaced by others, and a lone surrogate by itself. -/
inductive Replaced : List CodePoint → List CodePoint → Prop where
  | nil : Replaced [] []
  | lone (point : CodePoint) (alone : lone point = true) (source target : List CodePoint)
      (rest : Replaced source target) : Replaced (point :: source) (point :: target)
  | plain (point : CodePoint) (image : List CodePoint) (given : lone point = false)
      (filled : image ≠ []) (plain : ∀ other ∈ image, Utf16.lone other = false)
      (source target : List CodePoint)
      (rest : Replaced source target) : Replaced (point :: source) (image ++ target)

theorem plain_joins (first second : CodePoint) (plain : lone first = false) :
    joins first second = false := by
  cases first <;> cases second <;> simp_all [lone, joins]

theorem joins_plain (first second : CodePoint) (plain : lone second = false) :
    joins first second = false := by
  cases first <;> cases second <;> simp_all [lone, joins]

theorem plain_apart (image target : List CodePoint) (plain : ∀ point ∈ image, lone point = false)
    (apart : Apart target) : Apart (image ++ target) := by
  induction image with
  | nil => exact apart
  | cons point rest ih =>
      have later := ih fun other member => plain other (List.mem_cons_of_mem point member)
      rw [List.cons_append]
      cases all : rest ++ target with
      | nil => exact List.isChain_singleton _
      | cons next others =>
          exact List.isChain_cons_cons.mpr
            ⟨plain_joins point next (plain point List.mem_cons_self), all ▸ later⟩

theorem replaced_apart (source target : List CodePoint) (replaced : Replaced source target)
    (apart : Apart source) : Apart target := by
  induction replaced with
  | nil => exact apart
  | plain point image given filled plain source target rest ih =>
      exact plain_apart image target plain (ih (List.IsChain.tail apart))
  | lone point alone source target rest ih =>
      have later := ih (List.IsChain.tail apart)
      cases rest with
      | nil => exact List.isChain_singleton _
      | lone next other more others remaining =>
          exact List.isChain_cons_cons.mpr ⟨(List.isChain_cons_cons.mp apart).1, later⟩
      | plain next image given filled plain more others remaining =>
          cases image with
          | nil => exact absurd rfl filled
          | cons first letters =>
              rw [List.cons_append] at later ⊢
              exact List.isChain_cons_cons.mpr
                ⟨joins_plain point first (plain first List.mem_cons_self), later⟩

end TopInspect.Utf16
