import Mathlib
import Sensorium.Numeric.Single

/-!
# Packing numbers into bits

`Stored format u` says that `u` is in the one form in which the format keeps it. What is
unpacked from bits is in this form, and a number in this form survives being packed. A
number that can be brought into this form by shifting its mantissa is rounded to just that,
so no digit of it is lost.
-/

namespace Sensorium

open Float.Model (Format totalExponent UnpackedFloat)
open Float.Model.UnpackedFloat

/-- A number in the form that belongs to a format: a finite one has a mantissa of full width,
    or the least exponent. -/
def Stored (format : Format) : UnpackedFloat → Prop
  | .finite _ mantissa exponent _ =>
    mantissa < 2 ^ format.mantissaBits ∧
      (2 ^ format.mantissaBitsWithoutImplicit ≤ mantissa ∨ exponent = format.minExponent) ∧
      format.minExponent ≤ exponent ∧
      exponent ≤ (format.exponentBias : Int) - format.mantissaBitsWithoutImplicit
  | _ => True

section Format

variable (format : Format)

/-- The greatest biased exponent is kept for infinities and NaN. -/
theorem two_pow_exponentBits : 2 ^ format.exponentBits = 2 * format.exponentBias + 2 := by
  have positive := Nat.two_pow_pos (format.exponentBits - 1)
  have split : format.exponentBits = format.exponentBits - 1 + 1 := by
    have := format.he
    omega
  rw [split, Nat.pow_succ, Format.exponentBias]
  omega

theorem minExponent_eq :
    format.minExponent = 1 - (format.exponentBias : Int) - format.mantissaBitsWithoutImplicit := by
  have positive := Nat.two_pow_pos (format.exponentBits - 1)
  have cast : ((2 ^ (format.exponentBits - 1) : Nat) : Int) = 2 ^ (format.exponentBits - 1) := by
    simp
  rw [Format.minExponent, Format.mantissaBits, Format.exponentBias]
  omega

theorem two_pow_mantissaBits :
    2 ^ format.mantissaBits = 2 * 2 ^ format.mantissaBitsWithoutImplicit := by
  rw [Format.mantissaBits, Nat.pow_add]

variable {format}

/-- A word of ones is the greatest of its width. -/
theorem eq_neg_one_iff {width : Nat} (b : BitVec width) :
    b = -BitVec.ofNat width 1 ↔ b.toNat = 2 ^ width - 1 := by
  rw [← BitVec.toNat_inj, BitVec.neg_one_eq_allOnes, BitVec.toNat_allOnes]

theorem eq_zero_iff {width : Nat} (b : BitVec width) : b = BitVec.ofNat width 0 ↔ b.toNat = 0 := by
  rw [← BitVec.toNat_inj, BitVec.toNat_zero]

theorem unpackSign_packComponents (sign : Sign) (exponent : BitVec format.exponentBits)
    (mantissa : BitVec format.mantissaBitsWithoutImplicit) :
    Sign.ofBitVec (unpackSign (packComponents format sign exponent mantissa)) = sign := by
  have bit : unpackSign (packComponents format sign exponent mantissa) = sign.toBitVec := by
    ext i hi
    obtain rfl : i = 0 := by omega
    simp [unpackSign, packComponents, BitVec.getLsbD_append, BitVec.getElem_append]
  rw [bit]
  cases sign <;> rfl

/-- The leading digit of a mantissa stands before its stored digits. -/
theorem toNat_one_append {width : Nat} (b : BitVec width) :
    (1#1 ++ b).toNat = 2 ^ width + b.toNat := by
  rw [BitVec.toNat_append, BitVec.toNat_ofNat, ← Nat.shiftLeft_add_eq_or_of_lt b.isLt]
  simp [Nat.shiftLeft_eq]

theorem stored_unpack (wide : 0 < format.exponentBias) (b : BitVec format.numBits) :
    Stored format (unpack format b) := by
  have top := two_pow_exponentBits format
  have least := minExponent_eq format
  have width := two_pow_mantissaBits format
  have bound := (unpackMantissa b).isLt
  have range := (unpackExponent b).isLt
  simp only [unpack]
  split
  · split <;> trivial
  · rename_i notTop
    rw [eq_neg_one_iff] at notTop
    split
    · rename_i zero
      rw [eq_zero_iff] at zero
      split
      · trivial
      · refine ⟨?_, .inr ?_, ?_, ?_⟩ <;> omega
    · rename_i notZero
      rw [eq_zero_iff] at notZero
      refine ⟨?_, .inl ?_, ?_, ?_⟩
      · rw [toNat_one_append]
        omega
      · rw [toNat_one_append]
        omega
      · omega
      · omega

theorem zero_ne_neg_one :
    BitVec.ofNat format.exponentBits 0 ≠ -BitVec.ofNat format.exponentBits 1 := by
  have top := two_pow_exponentBits format
  rw [Ne, eq_neg_one_iff, BitVec.toNat_zero]
  omega

/-- Unpacking three fields gives the number that they say. -/
theorem unpack_packComponents (sign : Sign) (exponent : BitVec format.exponentBits)
    (mantissa : BitVec format.mantissaBitsWithoutImplicit) :
    unpack format (packComponents format sign exponent mantissa) =
      if exponent = -1#_ then
        if mantissa = 0#_ then .infinity sign else .notANumber
      else if exponent = 0#_ then
        if h : mantissa = 0#_ then .zero sign
        else .finite sign mantissa.toNat
          ((exponent.toNat : Int) - (format.exponentBias + format.mantissaBitsWithoutImplicit) + 1)
          (by simpa [BitVec.toNat_pos, BitVec.pos_iff_ne_zero])
      else .finite sign (1#1 ++ mantissa).toNat
        ((exponent.toNat : Int) - (format.exponentBias + format.mantissaBitsWithoutImplicit))
        (by simp) := by
  simp only [unpack, unpackMantissa_packComponents, unpackExponent_packComponents,
    unpackSign_packComponents]

/-- A finite number in the form of a format is packed without loss. -/
theorem unpack_pack_finite {sign : Sign} {mantissa : Nat} {exponent : Int}
    (positive : 0 < mantissa) (h : Stored format (.finite sign mantissa exponent positive)) :
    unpack format (pack format (.finite sign mantissa exponent positive)) =
      .finite sign mantissa exponent positive := by
  obtain ⟨narrow, form, above, below⟩ := h
  have top := two_pow_exponentBits format
  have least := minExponent_eq format
  have width := two_pow_mantissaBits format
  generalize biasedEq :
    (exponent + format.exponentBias + format.mantissaBitsWithoutImplicit).toNat = biased
  have biasedLt : biased + 1 < 2 ^ format.exponentBits := by omega
  have kept : (BitVec.ofNat format.exponentBits biased).toNat = biased := by
    rw [BitVec.toNat_ofNat, Nat.mod_eq_of_lt (by omega)]
  simp only [pack, biasedEq, if_neg (Nat.not_le.mpr biasedLt)]
  by_cases full : 2 ^ format.mantissaBitsWithoutImplicit ≤ mantissa
  · have digits : mantissa.log2 + 1 = format.mantissaBits := by
      have : mantissa.log2 = format.mantissaBitsWithoutImplicit :=
        (Nat.log2_eq_iff (by omega)).mpr ⟨full, by rw [Nat.pow_succ]; omega⟩
      rw [this, Format.mantissaBits, Nat.add_comm]
    have tail : mantissa % 2 ^ format.mantissaBitsWithoutImplicit =
        mantissa - 2 ^ format.mantissaBitsWithoutImplicit := by
      rw [Nat.mod_eq_sub_mod full, Nat.mod_eq_of_lt (by omega)]
    rw [if_pos digits, unpack_packComponents, if_neg, if_neg, UnpackedFloat.finite.injEq]
    · refine ⟨rfl, ?_, ?_⟩
      · rw [toNat_one_append, BitVec.toNat_ofNat, tail]
        omega
      · omega
    · rw [eq_zero_iff]
      omega
    · rw [eq_neg_one_iff]
      omega
  · have digits : mantissa.log2 + 1 ≠ format.mantissaBits := by
      have : mantissa.log2 < format.mantissaBitsWithoutImplicit :=
        (Nat.log2_lt (by omega)).mpr (by omega)
      rw [Format.mantissaBits]
      omega
    have least' := form.resolve_left full
    have whole : (BitVec.ofNat format.mantissaBitsWithoutImplicit mantissa).toNat = mantissa := by
      rw [BitVec.toNat_ofNat, Nat.mod_eq_of_lt (by omega)]
    have nonzero : BitVec.ofNat format.mantissaBitsWithoutImplicit mantissa ≠ BitVec.ofNat _ 0 := by
      rw [Ne, eq_zero_iff]
      omega
    rw [if_neg digits, unpack_packComponents, if_neg zero_ne_neg_one, if_pos rfl,
      dif_neg nonzero, UnpackedFloat.finite.injEq]
    refine ⟨rfl, whole, ?_⟩
    rw [BitVec.toNat_zero]
    omega

/-- The mark of NaN is the leading stored digit. -/
theorem leading_digit_ne_zero :
    BitVec.ofNat format.mantissaBitsWithoutImplicit 1 <<<
      (format.mantissaBitsWithoutImplicit - 1) ≠ BitVec.ofNat _ 0 := by
  have wide := format.hm
  have one : 1 < 2 ^ format.mantissaBitsWithoutImplicit := Nat.one_lt_two_pow (by omega)
  have place : 2 ^ (format.mantissaBitsWithoutImplicit - 1) <
      2 ^ format.mantissaBitsWithoutImplicit := Nat.pow_lt_pow_right (by decide) (by omega)
  rw [Ne, eq_zero_iff, BitVec.toNat_shiftLeft, BitVec.toNat_ofNat, Nat.mod_eq_of_lt one,
    Nat.shiftLeft_eq, Nat.one_mul, Nat.mod_eq_of_lt place]
  exact Nat.ne_of_gt (Nat.two_pow_pos _)

/-- A number in the form of a format is packed without loss. -/
theorem unpack_pack {u : UnpackedFloat} (h : Stored format u) :
    unpack format (pack format u) = u := by
  cases u with
  | finite sign mantissa exponent positive => exact unpack_pack_finite positive h
  | zero sign =>
    rw [pack, packedZero, unpack_packComponents]
    simp only [BitVec.ofNat_eq_ofNat, if_neg zero_ne_neg_one, if_true, dite_true]
  | infinity sign =>
    rw [pack, packedInfinity, unpack_packComponents, if_pos rfl]
    exact if_pos rfl
  | notANumber =>
    rw [pack, packedNaN, unpack_packComponents, if_pos rfl, if_neg leading_digit_ne_zero]

/-! ## Rounding -/

theorem log2_shiftLeft {mantissa : Nat} (positive : 0 < mantissa) (places : Nat) :
    (mantissa <<< places).log2 = mantissa.log2 + places := by
  induction places with
  | zero => rfl
  | succ places ih =>
    have shifted : 0 < mantissa <<< places := by
      rw [Nat.shiftLeft_eq]
      exact Nat.mul_pos positive (Nat.two_pow_pos _)
    rw [Nat.shiftLeft_succ, Nat.log2_two_mul (Nat.ne_of_gt shifted), ih, Nat.add_assoc]

/-- Shifting a mantissa moves no digit. -/
theorem totalExponent_shiftLeft {mantissa : Nat} (positive : 0 < mantissa) (exponent : Int)
    (places : Nat) :
    totalExponent (mantissa <<< places) (exponent - places) = totalExponent mantissa exponent := by
  simp only [totalExponent, log2_shiftLeft positive]
  omega

/-- In the form of a format, a number has the exponent that the format asks for. -/
theorem targetExponent_of_stored {sign : Sign} {mantissa : Nat} {exponent : Int}
    {positive : 0 < mantissa} (h : Stored format (.finite sign mantissa exponent positive)) :
    format.targetExponent (totalExponent mantissa exponent) = exponent := by
  obtain ⟨narrow, form, above, -⟩ := h
  have digits : mantissa.log2 < format.mantissaBits := (Nat.log2_lt (by omega)).mpr narrow
  have total : format.mantissaBits = 1 + format.mantissaBitsWithoutImplicit := rfl
  rw [Format.targetExponent, totalExponent]
  rcases form with full | least
  · have := (Nat.le_log2 (by omega)).mpr full
    omega
  · omega

/-- Rounding keeps a number that is in the form of the format. -/
theorem roundWithAccuracy_of_stored {sign : Sign} {mantissa : Nat} {exponent : Int}
    {positive : 0 < mantissa} (h : Stored format (.finite sign mantissa exponent positive)) :
    roundWithAccuracy format sign mantissa exponent .exact =
      .finite sign mantissa exponent positive := by
  have kept : shiftToTargetExponent format mantissa exponent .exact =
      (⟨mantissa, false, false⟩, exponent) := by
    simp only [shiftToTargetExponent, targetExponent_of_stored h, shiftToExponent, Int.sub_self]
    simp only [Int.toNat_zero, Int.natCast_zero, Int.add_zero]
    rfl
  have rounded : (⟨mantissa, false, false⟩ : ExtendedMantissa).roundedMantissa = mantissa := rfl
  simp only [roundWithAccuracy, kept, rounded, dif_neg (Nat.ne_of_gt positive)]

/-- A number that has the form of the format once its mantissa is shifted is rounded to that. -/
theorem round_of_stored {sign : Sign} {mantissa places : Nat} {exponent : Int}
    {shifted : 0 < mantissa <<< places}
    (h : Stored format (.finite sign (mantissa <<< places) (exponent - places) shifted)) :
    UnpackedFloat.round format sign mantissa exponent =
      .finite sign (mantissa <<< places) (exponent - places) shifted := by
  have positive : 0 < mantissa := by
    rw [Nat.shiftLeft_eq] at shifted
    exact Nat.pos_of_mul_pos_right shifted
  have target : format.targetExponent (totalExponent mantissa exponent) = exponent - places := by
    rw [← totalExponent_shiftLeft positive exponent places, targetExponent_of_stored h]
  have moved : decreaseExponent mantissa exponent (exponent - places) =
      (mantissa <<< places, exponent - places) := by
    have : (exponent - (exponent - places)).toNat = places := by omega
    simp only [decreaseExponent, this]
  simp only [UnpackedFloat.round, target, moved]
  exact roundWithAccuracy_of_stored h

end Format

end Sensorium
