import Sensorium.Numeric.Elementary
import Sensorium.Proofs.Numeric.Operations

/-!
# The range of the elementary functions

Sine and cosine of a zero are exact. The exponential of a number that is not positive and the
angle of a point are rounded from fixed-point numbers of which only the size matters here: the
series for the arc is below the number of its terms, since every factor in Horner's form is at
most one.
-/

namespace Sensorium

open Float.Model (Format UnpackedFloat totalExponent)
open Float.Model.UnpackedFloat

section

variable {format : Format} {sign : Sign} {u v : UnpackedFloat} {j k : Int}

theorem Bounded.mono (h : Bounded format j u) (le : j ≤ k) : Bounded format k u :=
  ⟨h.form, h.within.mono le⟩

/-- Nothing is rounded to zero. -/
theorem round_zero (exponent : Int) :
    UnpackedFloat.round format sign 0 exponent = .zero sign := by
  have nothing (places : Nat) :
      ExtendedMantissa.ofMantissaAndAccuracy 0 .exact >>> places = ⟨0, false, false⟩ := by
    have shifted := shiftRight_shiftLeft 0 places
    rw [Nat.zero_shiftLeft] at shifted
    exact shifted
  have rounded : (⟨0, false, false⟩ : ExtendedMantissa).roundedMantissa = 0 := rfl
  simp only [UnpackedFloat.round, decreaseExponent, Nat.zero_shiftLeft, roundWithAccuracy,
    shiftToTargetExponent, shiftToExponent, nothing, rounded, dite_true]

theorem minExponent_le (format : Format) : format.minExponent ≤ 0 := by
  have least := minExponent_eq format
  have wide := format.hm
  omega

/-- A number of so many digits is rounded to one that has one more at most. -/
theorem bounded_round {mantissa digits : Nat} {exponent : Int} (sign : Sign)
    (short : mantissa < 2 ^ digits) (le : digits + exponent ≤ k) (low : format.minExponent ≤ k) :
    Bounded format (k + 1) (UnpackedFloat.round format sign mantissa exponent) := by
  rcases Nat.eq_zero_or_pos mantissa with rfl | positive
  · rw [round_zero]
    exact ⟨trivial, trivial⟩
  · have size : mantissa.log2 < digits := (Nat.log2_lt (Nat.ne_of_gt positive)).mpr short
    apply (rounded_round sign positive).bounded _ low
    rw [totalExponent]
    omega

end

namespace Elementary

variable {format : Format} {sign : Sign} {u v : UnpackedFloat}

/-- A fixed-point number below `64`. -/
theorem bounded_ofFixed {value : Nat} (format : Format) (sign : Sign) (small : value ≤ 57 * one) :
    Bounded format 7 (ofFixed format sign value) := by
  have short : value < 2 ^ 134 := Nat.lt_of_le_of_lt small (by decide)
  have low : format.minExponent ≤ 6 := (minExponent_le format).trans (by decide)
  exact bounded_round sign short (by decide) low

/-! ## The exponential -/

theorem bounded_exp_zero (format : Format) (sign : Sign) :
    Bounded format 2 (exp format (.zero sign)) := by
  have one : 1 < 2 ^ 1 := by decide
  have low : format.minExponent ≤ 1 := (minExponent_le format).trans (by decide)
  exact bounded_round .positive one (by decide) low

/-- The exponential of a number that is not positive is finite. -/
theorem bounded_exp (side : OnSide .negative u) (finite : u.isFinite = true) :
    Bounded format 130 (exp format u) := by
  cases u with
  | infinity _ | notANumber => cases finite
  | zero sign => exact (bounded_exp_zero format sign).mono (by decide)
  | finite sign mantissa exponent positive =>
    cases side
    simp only [exp]
    split
    · exact ⟨trivial, trivial⟩
    · split
      · exact ⟨trivial, trivial⟩
      · generalize toFixed mantissa exponent fractionBits / ln2 = halvings
        generalize expSeries _ = growth
        have square : one * one = 2 ^ (fractionBits + fractionBits) :=
          (Nat.pow_add 2 fractionBits fractionBits).symm
        have short : one * one / growth < 2 ^ (fractionBits + fractionBits + 1) := by
          rw [Nat.pow_succ, ← square]
          apply Nat.lt_of_le_of_lt (Nat.div_le_self _ _)
          exact (Nat.lt_mul_iff_one_lt_right (by decide)).mpr (by decide)
        -- However often the result is halved, it only gets smaller.
        have le : ((fractionBits + fractionBits + 1 : Nat) : Int) + (-halvings - fractionBits) ≤
            129 := by
          rw [fractionBits]
          omega
        have low : format.minExponent ≤ 129 := (minExponent_le format).trans (by decide)
        exact bounded_round .positive short le low

/-! ## Angles -/

theorem mul_le {a b : Nat} (small : a ≤ one) : mul a b ≤ b := by
  rw [mul, Nat.shiftRight_eq_div_pow]
  apply Nat.div_le_of_le_mul
  exact Nat.mul_le_mul_right b small

theorem le_foldr_arctan {z : Nat} (small : z ≤ one) (terms : List Nat) :
    terms.foldr (fun n tail => one + mul z tail * (2 * n + 2) / (2 * n + 3)) one ≤
      (terms.length + 1) * one := by
  induction terms with
  | nil => rw [List.foldr_nil, List.length_nil, Nat.zero_add, Nat.one_mul]
  | cons n terms ih =>
    rw [List.foldr_cons, List.length_cons]
    generalize terms.foldr _ one = tail at ih ⊢
    have shrunk : mul z tail * (2 * n + 2) / (2 * n + 3) ≤ tail := by
      apply Nat.div_le_of_le_mul
      rw [Nat.mul_comm]
      exact Nat.mul_le_mul (by omega) (mul_le small)
    calc one + mul z tail * (2 * n + 2) / (2 * n + 3)
      _ ≤ one + tail := Nat.add_le_add_left shrunk one
      _ ≤ one + (terms.length + 1) * one := Nat.add_le_add_left ih one
      _ = (terms.length + 1 + 1) * one := by rw [Nat.succ_mul (_ + 1), Nat.add_comm]

theorem arctanSeries_le {t : Nat} (small : t ≤ one) : arctanSeries t ≤ 57 * one := by
  unfold arctanSeries
  generalize mul t t = square
  have ratio : square * one / (one + square) ≤ one := by
    apply Nat.div_le_of_le_mul
    exact Nat.mul_le_mul_right one (Nat.le_add_left _ _)
  have factor : t * one / (one + square) ≤ one := by
    apply Nat.le_trans _ small
    apply Nat.div_le_of_le_mul
    rw [Nat.mul_comm]
    exact Nat.mul_le_mul_right t (Nat.le_add_right _ _)
  have sum := le_foldr_arctan ratio (List.range 56)
  rw [List.length_range] at sum
  exact Nat.le_trans (mul_le factor) sum

theorem halfPi_le : halfPi ≤ 2 * one := by decide +kernel

theorem arctanUnit_le (t : Nat) : arctanUnit t ≤ 57 * one := by
  have quarter := halfPi_le
  unfold arctanUnit
  split
  · exact arctanSeries_le (by omega)
  · omega

theorem angleTo_le (up across : Nat) : angleTo up across ≤ 57 * one := by
  have quarter := halfPi_le
  unfold angleTo
  split
  · exact arctanUnit_le _
  · omega

/-- The angle of a point that is not infinitely far away is bounded. -/
theorem bounded_atan2 (finiteU : u.isFinite = true) (finiteV : v.isFinite = true)
    (low : format.minExponent ≤ -30) : Bounded format 7 (atan2 format u v) := by
  have quarter := halfPi_le
  cases u with
  | infinity _ | notANumber => cases finiteU
  | zero sign =>
    have half : Bounded format 7 (halfTurn format sign) := bounded_ofFixed format sign (by omega)
    cases v with
    | infinity _ | notANumber => cases finiteV
    | zero side | finite side _ _ _ =>
      cases side with
      | positive => exact ⟨trivial, trivial⟩
      | negative => exact half
  | finite sign my ey hy =>
    cases v with
    | infinity _ | notANumber => cases finiteV
    | zero side => exact bounded_ofFixed format sign (by omega)
    | finite side mx ex hx =>
      have arc := angleTo_le (my <<< (ey - ex).toNat) (mx <<< (ex - ey).toNat)
      simp only [atan2]
      cases side with
      | negative => exact bounded_ofFixed format sign (by omega)
      | positive =>
        simp only
        split
        · rename_i small
          change (my.log2 + ey) - (mx.log2 + ex) < (-30 : Int) at small
          have up : Within (totalExponent my ey) (.finite sign my ey hy) := Int.le_refl _
          have far : AtLeast (totalExponent my ey + 30) (.finite .positive mx ex hx) := by
            change totalExponent my ey + 30 ≤ totalExponent mx ex
            simp only [totalExponent]
            omega
          exact (bounded_div up far (by omega)).mono (by omega)
        · exact bounded_ofFixed format sign arc

end Elementary

/-! ## Single precision -/

namespace Single

variable {x y : Single}

theorem isZero_sin (zero : IsZero x.unpack) : IsZero x.sin.unpack := by
  obtain ⟨sign, zero⟩ := zero
  rw [sin, zero]
  exact IsZero.unpack_pack ⟨sign, rfl⟩

theorem cos_of_isZero (zero : IsZero x.unpack) : x.cos = 1 := by
  obtain ⟨sign, zero⟩ := zero
  have one : pack (UnpackedFloat.round .binary32 .positive 1 0) = 1 := by decide
  rw [cos, zero, ← one]
  rfl

theorem within_atan2 (finiteY : y.isFinite = true) (finiteX : x.isFinite = true) :
    Within 7 (atan2 y x).unpack := by
  rw [isFinite_eq] at finiteX finiteY
  have angle : Bounded .binary32 7 _ := Elementary.bounded_atan2 finiteY finiteX (by decide)
  exact angle.within_packed (by decide) (by decide)

/-- A point on the right half of the first axis is at no angle from it. -/
theorem isZero_atan2_abs (zero : IsZero y.unpack) (number : x.unpack ≠ .notANumber) :
    IsZero (atan2 y x.abs).unpack := by
  obtain ⟨sign, zero⟩ := zero
  have angle : IsZero (Elementary.atan2 .binary32 y.unpack x.abs.unpack) := by
    rw [zero, unpack_abs]
    cases form : x.unpack with
    | notANumber => exact (number form).elim
    | zero _ | infinity _ | finite _ _ _ _ => exact ⟨sign, rfl⟩
  exact angle.unpack_pack

end Single

/-! ## Time -/

namespace Nanos

/-- A moment is a signed number of 64 bits. -/
theorem natAbs_span_le (start now : Nanos) : (span start now).natAbs ≤ 2 ^ 63 := by
  unfold span least greatest
  omega

theorem within_seconds (start now : Nanos) :
    Within 37 (unpackDouble (seconds (span start now))) := by
  have short : (span start now).natAbs < 2 ^ 64 :=
    Nat.lt_of_le_of_lt (natAbs_span_le start now) (by decide)
  have count (sign : Sign) : Bounded .binary64 (64 + 1)
      (UnpackedFloat.round .binary64 sign (span start now).natAbs 0) :=
    bounded_round sign short (by decide) (by decide)
  have whole : Within 65 (unpackDouble (doubleOfInt (span start now))) :=
    (count _).within_packed (by decide) (by decide)
  have billion : AtLeast 30 (unpackDouble 1e9) := by
    change 30 ≤ totalExponent 8388608000000000 (-23)
    decide
  exact Double.within_div whole billion (by decide) (by decide)

/-- The time since a moment is finite and not negative. -/
theorem secondsSince_bounds (start now : Nanos) :
    Within 37 (unpackDouble (secondsSince start now)) ∧
      OnSide .positive (unpackDouble (secondsSince start now)) := by
  simp only [secondsSince]
  split
  · rename_i later
    have above : Positive _ := Double.isZero_zero.positive_of_lt (Double.lt_iff.mp later)
    exact ⟨within_seconds start now, above.onSide⟩
  · exact ⟨trivial, trivial⟩

end Nanos

/-- At a positive rate, what is left after any time is a finite share. -/
theorem within_decay {x : Single} (finite : x.isFinite = true)
    (positive : Single.lt 0 x = true) (start now : Nanos) :
    Within 130 (unpackDouble (decay x.widen (Nanos.secondsSince start now))) := by
  obtain ⟨within, late⟩ := Nanos.secondsSince_bounds start now
  have rate : OnSide .negative (unpackDouble (-x.widen)) := by
    rw [unpackDouble_neg]
    exact (Single.onSide_widen (Single.positive_of_lt positive).onSide).neg
  have size : Within 128 (unpackDouble (-x.widen)) :=
    Double.within_neg (Single.within_widen finite)
  have product := Double.within_mul size within (by decide) (by decide)
  have side := Double.onSide_mul rate late size.isFinite within.isFinite
  have left : Bounded .binary64 130 _ := Elementary.bounded_exp side product.isFinite
  exact left.within_packed (by decide) (by decide)

end Sensorium
