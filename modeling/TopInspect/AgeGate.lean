import Mathlib.Data.Rat.Defs
import Mathlib.Algebra.Order.Ring.Unbundled.Rat
import Mathlib.Tactic.Linarith

/-! The age gate of the sign-up. The wizard's options and the birthYear schema both bound
the year of birth by the year of the sign-up; the law they stand for is about full dates. -/
namespace TopInspect.AgeGate

section Calendar

def isLeap (year : Int) : Bool := year % 4 = 0 && (year % 100 ≠ 0 || year % 400 = 0)

def daysIn (year : Int) : Nat → Nat
  | 2 => if isLeap year then 29 else 28
  | 4 | 6 | 9 | 11 => 30
  | _ => 31

structure Date where
  year : Int
  month : Nat
  day : Nat
  month_real : 1 ≤ month ∧ month ≤ 12
  day_real : 1 ≤ day ∧ day ≤ daysIn year month

/-- A day of the year that another date has reached. -/
def Date.Reached (birth today : Date) : Prop :=
  birth.month < today.month ∨ birth.month = today.month ∧ birth.day ≤ today.day

instance (birth today : Date) : Decidable (birth.Reached today) :=
  inferInstanceAs (Decidable (_ ∨ _))

def Date.NotAfter (first last : Date) : Prop :=
  first.year < last.year ∨ first.year = last.year ∧ first.Reached last

instance (first last : Date) : Decidable (first.NotAfter last) :=
  inferInstanceAs (Decidable (_ ∨ _))

theorem march_first (year : Int) : 1 ≤ 1 ∧ 1 ≤ daysIn year 3 := ⟨Nat.le_refl 1, by simp [daysIn]⟩

/-- The birthday after so many years; a leap day's is the first of March where there is none. -/
def Date.birthday (birth : Date) (years : Int) : Date :=
  if real : birth.day ≤ daysIn (birth.year + years) birth.month then
    { year := birth.year + years, month := birth.month, day := birth.day
      month_real := birth.month_real, day_real := ⟨birth.day_real.1, real⟩ }
  else
    { year := birth.year + years, month := 3, day := 1
      month_real := by decide, day_real := march_first _ }

def HasCompleted (years : Int) (birth today : Date) : Prop := (birth.birthday years).NotAfter today

theorem leap_day (birth : Date) (year : Int) (missing : ¬ birth.day ≤ daysIn year birth.month) :
    birth.month = 2 ∧ birth.day = 29 ∧ daysIn year 2 = 28 := by
  have real := birth.day_real.2
  have february : birth.month = 2 := by
    by_contra other
    apply missing
    have same : daysIn birth.year birth.month = daysIn year birth.month := by
      unfold daysIn
      split <;> first | contradiction | rfl
    exact same ▸ real
  rw [february] at real missing
  simp only [daysIn] at real missing ⊢
  split at missing
  · split at real <;> omega
  · next short =>
      split at real
      · exact ⟨february, by omega, if_neg short⟩
      · omega

theorem completed_iff (years : Int) (birth today : Date) :
    HasCompleted years birth today ↔
      birth.year + years < today.year ∨ birth.year + years = today.year ∧ birth.Reached today := by
  unfold HasCompleted Date.birthday
  split
  · rfl
  · next missing =>
      obtain ⟨february, last, short⟩ := leap_day birth _ missing
      have real := today.day_real.2
      simp only [Date.NotAfter, Date.Reached, february, last]
      constructor
      · rintro (before | ⟨same, reached⟩)
        · exact Or.inl before
        · exact Or.inr ⟨same, by omega⟩
      · rintro (before | ⟨same, reached⟩)
        · exact Or.inl before
        · refine Or.inr ⟨same, ?_⟩
          rcases reached with later | ⟨again, day⟩
          · have first := today.day_real.1
            omega
          · rw [← again, ← same, short] at real
            omega

end Calendar

section Gates

structure PickerItem where
  label : String
  value : Int

/-- The loop of the options, from a year down to 1900. -/
def birthYearLoop (year : Int) : List PickerItem :=
  if 1900 ≤ year then { label := toString year, value := year } :: birthYearLoop (year - 1) else []
termination_by (year - 1899).toNat

def birthYearOptions (today : Date) : List PickerItem :=
  let currentYear := today.year
  let maxBirthYear := currentYear - 13
  birthYearLoop maxBirthYear

def maxSafeInteger : Int := 2 ^ 53 - 1

-- An input that is no finite number is none; a fraction stops the checks behind it.
def birthYear (today : Date) (input : Option Rat) : Except (List String) Int :=
  match input with
  | none => .error ["Birth year is required"]
  | some year =>
      if year.den ≠ 1 then .error ["Birth year must be a whole number"]
      else
        let safe := if |year.num| ≤ maxSafeInteger then [] else
          ["Birth year must be a whole number"]
        let past := if 1900 ≤ year.num then [] else ["Birth year too far in the past"]
        let old := if year.num ≤ today.year - 13 then [] else ["Must be at least 13 years old"]
        match safe ++ past ++ old with
        | [] => .ok year.num
        | issues => .error issues

def Offered (today : Date) (year : Int) : Prop := ∃ item ∈ birthYearOptions today, item.value = year

def Accepted (today : Date) (year : Int) : Prop := birthYear today (some year) = .ok year

theorem loop_values (last year : Int) :
    (∃ item ∈ birthYearLoop last, item.value = year) ↔ 1900 ≤ year ∧ year ≤ last := by
  induction last using birthYearLoop.induct with
  | case1 last above ih =>
      rw [birthYearLoop, if_pos above]
      simp only [List.mem_cons, exists_eq_or_imp, ih]
      omega
  | case2 last below =>
      rw [birthYearLoop, if_neg below]
      simp only [List.not_mem_nil, false_and, exists_false, false_iff]
      omega

theorem offered_iff (today : Date) (year : Int) :
    Offered today year ↔ 1900 ≤ year ∧ year ≤ today.year - 13 := loop_values _ _

theorem accepted_iff (today : Date) (year : Int) :
    Accepted today year ↔ |year| ≤ maxSafeInteger ∧ 1900 ≤ year ∧ year ≤ today.year - 13 := by
  have whole : ((year : Rat)).den = 1 := Rat.den_intCast year
  have value : ((year : Rat)).num = year := Rat.num_intCast year
  unfold Accepted birthYear
  simp only [whole, value, ne_eq, not_true_eq_false, if_false]
  by_cases safe : |year| ≤ maxSafeInteger <;> by_cases past : 1900 ≤ year <;>
    by_cases old : year ≤ today.year - 13 <;> simp [safe, past, old]

theorem accepted_offered (today : Date) (year : Int) (accepted : Accepted today year) :
    Offered today year :=
  (offered_iff today year).mpr ((accepted_iff today year).mp accepted).2

/-- In every year that a clock can show, the two gates agree. -/
theorem gates_agree (today : Date) (year : Int) (clock : today.year ≤ maxSafeInteger) :
    Offered today year ↔ Accepted today year := by
  rw [offered_iff, accepted_iff]
  constructor
  · rintro ⟨past, old⟩
    have positive : |year| = year := abs_of_nonneg (by omega)
    exact ⟨by omega, past, old⟩
  · rintro ⟨-, within⟩
    exact within

def Admitted (birth today : Date) : Prop := Offered today birth.year ∨ Accepted today birth.year

theorem admitted_iff (birth today : Date) :
    Admitted birth today ↔ 1900 ≤ birth.year ∧ birth.year ≤ today.year - 13 := by
  rw [← offered_iff]
  constructor
  · rintro (offered | accepted)
    · exact offered
    · exact accepted_offered today birth.year accepted
  · exact Or.inl

theorem thirteen_admitted (birth today : Date) (since : 1900 ≤ birth.year)
    (completed : HasCompleted 13 birth today) : Admitted birth today := by
  rw [completed_iff] at completed
  rw [admitted_iff]
  omega

/-- The gate is at most a year off. -/
theorem admitted_twelve (birth today : Date) (admitted : Admitted birth today) :
    HasCompleted 12 birth today := by
  rw [admitted_iff] at admitted
  rw [completed_iff]
  omega

theorem admits_only_thirteen (birth today : Date) :
    (Admitted birth today → HasCompleted 13 birth today) ↔
      birth.year < 1900 ∨ birth.year ≠ today.year - 13 ∨ birth.Reached today := by
  rw [admitted_iff, completed_iff]
  constructor
  · intro gate
    by_cases born : birth.year < 1900 ∨ birth.year ≠ today.year - 13
    · omega
    · rcases gate (by omega) with before | ⟨-, reached⟩
      · omega
      · exact Or.inr (Or.inr reached)
  · rintro (before | other | reached) admitted
    · omega
    · omega
    · by_cases same : birth.year + 13 = today.year
      · exact Or.inr ⟨same, reached⟩
      · omega

def newYearsEve : Date :=
  { year := 2012, month := 12, day := 31, month_real := by decide, day_real := by decide }

def newYearsDay : Date :=
  { year := 2025, month := 1, day := 1, month_real := by decide, day_real := by decide }

/-- On the first day of 2025 the gate lets in a child who turned twelve the day before. -/
theorem child_admitted :
    ¬ ∀ birth today : Date, birth.NotAfter today → Admitted birth today →
      HasCompleted 13 birth today := by
  intro gate
  have completed := gate newYearsEve newYearsDay (by decide)
    ((admitted_iff newYearsEve newYearsDay).mpr (by decide))
  rw [completed_iff] at completed
  exact absurd completed (by decide)

end Gates

end TopInspect.AgeGate
