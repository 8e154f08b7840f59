import Sensorium.Proofs.Numeric.Functions

/-!
# Zero, infinity and NaN

What is lost at the ends of the range: the exponential of a number that is far enough below zero is
zero, what is infinite does not become finite again, and what is not a number stays so.
-/

namespace Sensorium

open Float.Model (Format UnpackedFloat)
open Float.Model.UnpackedFloat

/-! ## Underflow -/

section

variable {format : Format}

theorem roundWithAccuracy_neg (sign : Sign) (mantissa : Nat) (exponent : Int)
    (accuracy : Accuracy) :
    roundWithAccuracy format (-sign) mantissa exponent accuracy =
      (roundWithAccuracy format sign mantissa exponent accuracy).neg := by
  simp only [roundWithAccuracy]
  split <;> rfl

/-- The other sign of a factor is the other sign of the product. -/
theorem neg_mul (format : Format) (u v : UnpackedFloat) :
    UnpackedFloat.mul format u.neg v = (UnpackedFloat.mul format u v).neg := by
  have sign (s t : Sign) : -s * t = -(s * t) := by cases s <;> cases t <;> rfl
  cases u with
  | notANumber => rfl
  | finite s m e hm =>
    cases v with
    | finite t n f hn =>
      simp only [UnpackedFloat.mul, UnpackedFloat.neg, sign]
      exact roundWithAccuracy_neg _ _ _ _
    | _ => simp only [UnpackedFloat.mul, UnpackedFloat.neg, sign]
  | _ => cases v <;> simp only [UnpackedFloat.mul, UnpackedFloat.neg, sign]

end

/-- A double precision number that is not below the limit has at least its size, in fixed
    point. -/
theorem Elementary.expUnderflow_le {mantissa : Nat} {exponent : Int} {positive : 0 < mantissa}
    (stored : Stored .binary64 (.finite .positive mantissa exponent positive))
    (late : (unpackDouble 746).le (.finite .positive mantissa exponent positive) = true) :
    expUnderflow * one ≤ toFixed mantissa exponent fractionBits := by
  have limit : unpackDouble 746 = .finite .positive (746 * 2 ^ 43) (-43) (by decide) := rfl
  have order : ((compare (-43) exponent).then (compare (746 * 2 ^ 43) mantissa)).isLE = true := by
    rw [limit] at late
    exact late
  obtain ⟨-, full, -, -⟩ := stored
  change 2 ^ 52 ≤ mantissa ∨ exponent = -1074 at full
  have fixed : expUnderflow * one = 746 * 2 ^ 43 * 2 ^ 85 := by decide
  have place : -43 ≤ exponent := by
    by_contra below
    rw [Int.compare_eq_gt.mpr (by omega)] at order
    cases order
  have nonneg : 0 ≤ exponent + (fractionBits : Nat) := by
    rw [fractionBits]
    omega
  rw [toFixed, if_pos nonneg, Nat.shiftLeft_eq, fixed]
  rcases Int.lt_or_eq_of_le place with above | same
  · have places : 86 ≤ (exponent + (fractionBits : Nat)).toNat := by
      rw [fractionBits]
      omega
    calc 746 * 2 ^ 43 * 2 ^ 85
      _ ≤ 2 ^ 52 * 2 ^ 86 := by decide
      _ ≤ mantissa * 2 ^ (exponent + (fractionBits : Nat)).toNat :=
        Nat.mul_le_mul (full.resolve_right (by omega)) (Nat.pow_le_pow_right (by decide) places)
  · subst same
    rw [Int.compare_eq_eq.mpr rfl, Ordering.eq_then] at order
    exact Nat.mul_le_mul_right (2 ^ 85) (Nat.isLE_compare.mp order)

/-- From the limit on the exponential of a negative number is zero. -/
theorem Elementary.isZero_exp_neg {u : UnpackedFloat} (stored : Stored .binary64 u)
    (late : (unpackDouble 746).le u = true) : IsZero (exp .binary64 u.neg) := by
  cases u with
  | notANumber => cases late
  | zero sign => cases late
  | infinity sign =>
    cases sign with
    | negative => cases late
    | positive => exact ⟨.positive, rfl⟩
  | finite sign mantissa exponent positive =>
    cases sign with
    | negative => cases late
    | positive =>
      have size := expUnderflow_le stored late
      refine ⟨.positive, ?_⟩
      change exp .binary64 (.finite .negative mantissa exponent positive) = .zero .positive
      simp only [exp, if_pos size]
      split <;> rfl

namespace Double

variable {x y : Float}

theorem isFinite_of_mul (h : (unpackDouble (x * y)).isFinite = true) :
    (unpackDouble x).isFinite = true ∧ (unpackDouble y).isFinite = true := by
  rw [unpack_mul] at h
  exact Sensorium.isFinite_of_mul (isFinite_of_packed h)

end Double

/-- After long enough nothing is left of a way that is made at a finite rate. -/
theorem isZero_decay {rate : Single} (finite : rate.isFinite = true) {start now : Nanos}
    (late : 746 ≤ rate.widen * Nanos.secondsSince start now) :
    IsZero (unpackDouble (decay rate.widen (Nanos.secondsSince start now))) := by
  have size := Single.within_widen finite
  have timely := (Nanos.secondsSince_bounds start now).1
  generalize Nanos.secondsSince start now = elapsed at *
  have product : Bounded .binary64 166 _ := bounded_mul (Double.canonical rate.widen)
    (Double.canonical elapsed) size timely (by decide)
  have turned : Bounded .binary64 166 _ := bounded_mul (Double.canonical rate.widen).neg
    (Double.canonical elapsed) size.neg timely (by decide)
  have argument : unpackDouble (-rate.widen * elapsed) =
      (unpackDouble (rate.widen * elapsed)).neg := by
    rw [Double.unpack_mul, Double.unpack_mul, unpackDouble_neg,
      turned.unpack_pack (by decide) (by decide), product.unpack_pack (by decide) (by decide),
      neg_mul]
  have compared : (unpackDouble 746).le (unpackDouble (rate.widen * elapsed)) = true :=
    of_decide_eq_true late
  rw [decay, doubleExp, argument]
  exact (Elementary.isZero_exp_neg (stored_unpackDouble _) compared).unpack_pack

/-! ## Finite operands of single precision -/

namespace Single

variable {x y : Single}

theorem isFinite_of_widen (h : (unpackDouble x.widen).isFinite = true) : x.isFinite = true := by
  rw [isFinite_eq]
  rcases x.unpackDouble_widen with ⟨same, -⟩ | ⟨_, _, _, _, _, _, narrow, -⟩
  · rw [← same]
    exact h
  · rw [narrow]
    rfl

theorem isFinite_of_narrow {y : Float} (h : (narrow y).isFinite = true) :
    (unpackDouble y).isFinite = true := by
  rw [isFinite_eq] at h
  have rounded : (roundTo .binary32 (unpackDouble y)).isFinite = true := isFinite_of_packed h
  cases form : unpackDouble y with
  | zero _ | finite _ _ _ _ => rfl
  | infinity _ | notANumber =>
    rw [form] at rounded
    cases rounded

end Single

/-! ## NaN -/

section

variable {format : Format} {u v : UnpackedFloat}

theorem unpack_pack_notANumber (format : Format) :
    UnpackedFloat.unpack format (UnpackedFloat.pack format .notANumber) = .notANumber :=
  unpack_pack (show Stored format .notANumber from trivial)

/-- The difference of a number and itself is NaN if the number is not finite. -/
theorem sub_self_notANumber (infinite : u.isFinite = false) :
    UnpackedFloat.sub format u u = .notANumber := by
  cases u with
  | zero _ | finite _ _ _ _ => cases infinite
  | notANumber => rfl
  | infinity sign => cases sign <;> rfl

end

namespace Double

variable {x y : Float}

theorem add_notANumber (h : unpackDouble x = .notANumber) :
    unpackDouble (x + y) = .notANumber := by
  change UnpackedFloat.unpack _ (UnpackedFloat.pack _
    (UnpackedFloat.add _ (unpackDouble x) _)) = _
  rw [h]
  exact unpack_pack_notANumber _

theorem mul_notANumber (h : unpackDouble x = .notANumber) :
    unpackDouble (x * y) = .notANumber := by
  rw [unpack_mul, h]
  exact unpack_pack_notANumber _

end Double

namespace Single

variable {x y : Single}

theorem widen_notANumber (h : x.unpack = .notANumber) : unpackDouble x.widen = .notANumber := by
  rw [widen, h]
  exact unpackDouble_packDouble (show Stored .binary64 .notANumber from trivial)

theorem narrow_notANumber {y : Float} (h : unpackDouble y = .notANumber) :
    (narrow y).unpack = .notANumber := by
  rw [narrow, h]
  exact unpack_pack_notANumber _

theorem add_notANumber (h : y.unpack = .notANumber) : (x + y).unpack = .notANumber := by
  rw [unpack_add, h]
  cases x.unpack <;> exact unpack_pack_notANumber _

/-- NaN is equal to nothing. -/
theorem ne_notANumber_of_eqv (h : x.eqv y = true) : x.unpack ≠ .notANumber := by
  intro number
  rw [eqv_eq_beq, number] at h
  cases h

end Single

end Sensorium
