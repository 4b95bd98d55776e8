import Mathlib

/-! Whole numbers as doubles: below 2^53 they are kept, and truncated they come back. -/
namespace TopInspect.Binary64

open Float.Model Float.Model.UnpackedFloat

theorem log_normal (mantissa : Nat) (low : 2 ^ 52 ≤ mantissa) (high : mantissa < 2 ^ 53) :
    mantissa.log2 = 52 := by
  rw [Nat.log2_eq_iff (by omega)]
  omega

theorem unpack_pack (mantissa : Nat) (exponent : Int) (positive : 0 < mantissa)
    (low : 2 ^ 52 ≤ mantissa) (high : mantissa < 2 ^ 53) (least : -1074 ≤ exponent)
    (most : exponent ≤ 970) :
    (Float.Model.pack (.finite .positive mantissa exponent positive)).unpack =
      .finite .positive mantissa exponent positive := by
  have length := log_normal mantissa low high
  have bias : ((Format.binary64.exponentBias : Nat) : Int) = 1023 := by decide
  -- A normal number: its exponent is biased, and its leading bit is left out.
  have bits : UnpackedFloat.pack Format.binary64 (.finite .positive mantissa exponent positive) =
      packComponents Format.binary64 .positive (BitVec.ofNat 11 (exponent + 1075).toNat)
        (BitVec.ofNat 52 mantissa) := by
    have biased : (exponent + ((Format.binary64.exponentBias : Nat) : Int) +
        ((Format.binary64.mantissaBitsWithoutImplicit : Nat) : Int)).toNat =
          (exponent + 1075).toNat := by
      rw [bias]
      congr 1
      change exponent + 1023 + 52 = exponent + 1075
      omega
    simp only [UnpackedFloat.pack, biased, length]
    rw [if_neg (by omega), if_pos (by decide)]
  have number : (BitVec.ofNat 11 (exponent + 1075).toNat).toNat = (exponent + 1075).toNat := by
    rw [BitVec.toNat_ofNat, Nat.mod_eq_of_lt (by omega)]
  have finite : BitVec.ofNat 11 (exponent + 1075).toNat ≠ -1#11 := by
    intro same
    have numbers := congrArg BitVec.toNat same
    rw [number] at numbers
    change _ = 2047 at numbers
    omega
  have normal : BitVec.ofNat 11 (exponent + 1075).toNat ≠ 0#11 := by
    intro same
    have numbers := congrArg BitVec.toNat same
    rw [number] at numbers
    change _ = 0 at numbers
    omega
  have whole : (1#1 ++ BitVec.ofNat 52 mantissa).toNat = mantissa := by
    have rest : mantissa % 2 ^ 52 < 2 ^ 52 := Nat.mod_lt _ (by decide)
    rw [BitVec.toNat_append, BitVec.toNat_ofNat, BitVec.toNat_ofNat,
      ← Nat.shiftLeft_add_eq_or_of_lt rest, Nat.shiftLeft_eq]
    omega
  unfold Float.Model.unpack Float.Model.pack
  simp only [bits]
  unfold UnpackedFloat.unpack
  simp only [unpackExponent_packComponents, unpackMantissa_packComponents,
    unpackSign_packComponents, if_neg finite, if_neg normal, whole, number, bias]
  congr 1
  change ((exponent + 1075).toNat : Int) - (1023 + 52) = exponent
  omega

theorem shifted_mantissa (extended : ExtendedMantissa) (places : Nat) :
    (extended >>> places).mantissa = extended.mantissa / 2 ^ places := by
  induction places with
  | zero => simp [HShiftRight.hShiftRight, Nat.repeat]
  | succ places ih =>
      change (extended >>> places).mantissa / 2 = _
      rw [ih, Nat.div_div_eq_div_mul, Nat.pow_succ]

theorem shifted_zero (mantissa : Nat) (exponent : Int) (target : Int)
    (reached : target ≤ exponent) :
    shiftToExponent mantissa exponent .exact target = (⟨mantissa, false, false⟩, exponent) := by
  have none : (target - exponent).toNat = 0 := by omega
  simp [shiftToExponent, none, HShiftRight.hShiftRight, Nat.repeat,
    ExtendedMantissa.ofMantissaAndAccuracy]

theorem target_normal (mantissa : Nat) (exponent : Int) (low : 2 ^ 52 ≤ mantissa)
    (high : mantissa < 2 ^ 53) (least : -1074 ≤ exponent) :
    Format.binary64.targetExponent (totalExponent mantissa exponent) = exponent := by
  have length := log_normal mantissa low high
  have minimum : Format.binary64.minExponent = -1074 := by decide
  have bits : ((Format.binary64.mantissaBits : Nat) : Int) = 53 := by decide
  rw [Format.targetExponent, totalExponent, length, minimum, bits]
  omega

theorem rounded_normal (mantissa : Nat) (exponent : Int) (positive : 0 < mantissa)
    (low : 2 ^ 52 ≤ mantissa) (high : mantissa < 2 ^ 53) (least : -1074 ≤ exponent) :
    roundWithAccuracy Format.binary64 .positive mantissa exponent .exact =
      .finite .positive mantissa exponent positive := by
  have target := target_normal mantissa exponent low high least
  have present : mantissa ≠ 0 := by omega
  have kept : ExtendedMantissa.roundedMantissa ⟨mantissa, false, false⟩ = mantissa := rfl
  simp only [roundWithAccuracy, shiftToTargetExponent, target,
    shifted_zero mantissa exponent exponent le_rfl, kept, dif_neg present]

section Numbers
variable (number : Nat)

def mantissaOf : Nat := number * 2 ^ (52 - number.log2)

theorem mantissa_bounds (positive : 0 < number) (small : number < 2 ^ 53) :
    2 ^ 52 ≤ mantissaOf number ∧ mantissaOf number < 2 ^ 53 := by
  have length : number.log2 ≤ 52 := by
    have := (Nat.log2_lt (by omega)).mpr small
    omega
  have low := Nat.log2_self_le (n := number) (by omega)
  have high := Nat.lt_log2_self (n := number)
  have power : 2 ^ number.log2 * 2 ^ (52 - number.log2) = 2 ^ 52 := by
    rw [← Nat.pow_add]
    congr 1
    omega
  have above : 0 < 2 ^ (52 - number.log2) := Nat.two_pow_pos _
  constructor
  · rw [← power]
    exact Nat.mul_le_mul_right _ low
  · calc mantissaOf number < 2 ^ (number.log2 + 1) * 2 ^ (52 - number.log2) :=
          Nat.mul_lt_mul_of_pos_right high above
      _ = 2 ^ 53 := by
          rw [Nat.pow_succ, Nat.mul_right_comm, power]
          rfl

theorem unpacked_number (positive : 0 < number) (small : number < 2 ^ 53) :
    UnpackedFloat.ofNat Format.binary64 number = .finite .positive (mantissaOf number)
      (number.log2 - 52)
      (lt_of_lt_of_le (by decide) (mantissa_bounds number positive small).1) := by
  obtain ⟨low, high⟩ := mantissa_bounds number positive small
  have length : number.log2 ≤ 52 := by
    have := (Nat.log2_lt (by omega)).mpr small
    omega
  have minimum : Format.binary64.minExponent = -1074 := by decide
  have bits : ((Format.binary64.mantissaBits : Nat) : Int) = 53 := by decide
  have target : Format.binary64.targetExponent (totalExponent number 0) = number.log2 - 52 := by
    rw [Format.targetExponent, totalExponent, minimum, bits]
    omega
  have decreased : decreaseExponent number 0 (number.log2 - 52) =
    (mantissaOf number, (number.log2 : Int) - 52) := by
    have shift : (0 - ((number.log2 : Int) - 52)).toNat = 52 - number.log2 := by omega
    simp only [decreaseExponent, shift, Nat.shiftLeft_eq, mantissaOf]
    congr 1
    omega
  have above : compare (number : Int) 0 = .gt := by
    rw [Int.compare_eq_gt]
    omega
  rw [UnpackedFloat.ofNat, UnpackedFloat.ofInt, UnpackedFloat.normalize, above]
  simp only [UnpackedFloat.round, Int.toNat_natCast, target, decreased]
  exact rounded_normal _ _ _ low high (by omega)

theorem pack_zero : (Float.Model.ofNat 0).toUInt64.toNat = 0 := by decide

/-- A number below 2^53 comes back by truncation. -/
theorem truncated_number (small : number < 2 ^ 53) :
    (Float.Model.ofNat number).toUInt64.toNat = number := by
  rcases Nat.eq_zero_or_pos number with rfl | positive
  · exact pack_zero
  · obtain ⟨low, high⟩ := mantissa_bounds number positive small
    have length : number.log2 ≤ 52 := by
      have := (Nat.log2_lt (by omega)).mpr small
      omega
    have unpacked : (Float.Model.ofNat number).unpack = .finite .positive (mantissaOf number)
      (number.log2 - 52)
        (lt_of_lt_of_le (by decide) low) := by
      rw [Float.Model.ofNat, unpacked_number number positive small]
      exact unpack_pack _ _ _ low high (by omega) (by omega)
    have whole : roundToInt .positive (mantissaOf number) (number.log2 - 52) = number := by
      have none : ((number.log2 : Int) - 52 - 0).toNat = 0 := by omega
      have places : (0 - ((number.log2 : Int) - 52 - ((0 : Nat) : Int))).toNat =
        52 - number.log2 := by omega
      have exact : mantissaOf number <<< 0 = mantissaOf number := rfl
      simp only [roundToInt, decreaseExponent, none, shiftToExponent, places, shifted_mantissa,
        ExtendedMantissa.ofMantissaAndAccuracy, exact, Sign.apply]
      rw [mantissaOf, Nat.mul_div_cancel _ (Nat.two_pow_pos _)]
    rw [Float.Model.toUInt64, unpacked, UnpackedFloat.toUInt64, UnpackedFloat.toInt, whole,
      Int.toNat_natCast,
      UInt64.ofNatClamp_eq_ofNat _
        (lt_trans small (by decide)), UInt64.toNat_ofNat_of_lt' (lt_trans small (by decide))]

end Numbers
end TopInspect.Binary64
