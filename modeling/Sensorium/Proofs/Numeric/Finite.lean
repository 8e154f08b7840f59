import Sensorium.Motion.Track
import Sensorium.Proofs.Numeric.Packing

/-!
# Finite numbers

A finite number stays finite in double precision, and a finite number times zero is zero.
So whatever is approached at a finite rate has not shrunk at all when no time has passed:
the factor `decay` is one.
-/

namespace Sensorium

open Float.Model (Format UnpackedFloat)
open Float.Model.UnpackedFloat

/-! ## Single precision -/

namespace Single

theorem stored_unpack (x : Single) : Stored .binary32 x.unpack :=
  @Sensorium.stored_unpack .binary32 (by decide) x.bits.toBitVec

theorem isFinite_eq (x : Single) : x.isFinite = x.unpack.isFinite := by
  change (UnpackedFloat.unpack _ (UnpackedFloat.pack _ x.unpack)).isFinite = _
  rw [unpack_pack x.stored_unpack]

end Single

/-! ## Double precision -/

theorem stored_unpackDouble (x : Float) : Stored .binary64 (unpackDouble x) :=
  @stored_unpack .binary64 (by decide) x.toModel.toBits.toBitVec

theorem unpackDouble_packDouble {u : UnpackedFloat} (h : Stored .binary64 u) :
    unpackDouble (packDouble u) = u :=
  unpack_pack h

@[simp]
theorem unpackDouble_packDouble_zero (sign : Sign) :
    unpackDouble (packDouble (.zero sign)) = .zero sign :=
  unpackDouble_packDouble (show Stored .binary64 (.zero sign) from trivial)

theorem unpackDouble_neg (x : Float) : unpackDouble (-x) = (unpackDouble x).neg := by
  have stored : Stored .binary64 (unpackDouble x).neg := by
    have := stored_unpackDouble x
    cases h : unpackDouble x <;> simp only [h] at this ⊢ <;> exact this
  exact unpackDouble_packDouble stored

theorem isFinite_neg (u : UnpackedFloat) : u.neg.isFinite = u.isFinite := by
  cases u <;> rfl

/-- A finite number times zero is zero. -/
theorem unpackDouble_mul_zero {x y : Float} {sign : Sign} (hx : (unpackDouble x).isFinite = true)
    (hy : unpackDouble y = .zero sign) : ∃ sign, unpackDouble (x * y) = .zero sign := by
  have product : unpackDouble (x * y) =
      unpackDouble (packDouble (UnpackedFloat.mul .binary64 (unpackDouble x) (unpackDouble y))) :=
    rfl
  rw [hy] at product
  cases h : unpackDouble x with
  | infinity _ => simp [h, isFinite] at hx
  | notANumber => simp [h, isFinite] at hx
  | zero left => exact ⟨_, by rw [product, h, UnpackedFloat.mul, unpackDouble_packDouble_zero]⟩
  | finite left mantissa exponent positive =>
    exact ⟨_, by rw [product, h, UnpackedFloat.mul, unpackDouble_packDouble_zero]⟩

/-- The mantissa of a single precision number has room in a double precision one. -/
theorem stored_shiftLeft {sign : Sign} {mantissa : Nat} {exponent : Int}
    {positive : 0 < mantissa} (h : Stored .binary32 (.finite sign mantissa exponent positive)) :
    ∃ shifted : 0 < mantissa <<< (52 - mantissa.log2),
      Stored .binary64 (.finite sign (mantissa <<< (52 - mantissa.log2))
        (exponent - (52 - mantissa.log2 : Nat)) shifted) := by
  obtain ⟨narrow, -, above, below⟩ := h
  change mantissa < 2 ^ 24 at narrow
  change -149 ≤ exponent at above
  change exponent ≤ 104 at below
  have digits : mantissa.log2 < 24 := (Nat.log2_lt (by omega)).mpr narrow
  have wide : (mantissa <<< (52 - mantissa.log2)).log2 = 52 := by
    rw [log2_shiftLeft positive]
    omega
  have shifted : 0 < mantissa <<< (52 - mantissa.log2) := by
    rw [Nat.shiftLeft_eq]
    exact Nat.mul_pos positive (Nat.two_pow_pos _)
  obtain ⟨full, bound⟩ := (Nat.log2_eq_iff (Nat.ne_of_gt shifted)).mp wide
  refine ⟨shifted, bound, .inl full, ?_, ?_⟩
  · change -1074 ≤ _
    omega
  · change _ ≤ 971
    omega

/-- A finite single precision number is finite in double precision. -/
theorem Single.isFinite_widen {x : Single} (h : x.isFinite = true) :
    (unpackDouble x.widen).isFinite = true := by
  rw [isFinite_eq] at h
  have stored := x.stored_unpack
  unfold widen
  cases form : x.unpack with
  | infinity _ => simp [form, UnpackedFloat.isFinite] at h
  | notANumber => simp [form, UnpackedFloat.isFinite] at h
  | zero sign =>
    change (unpackDouble (packDouble (.zero sign))).isFinite = true
    rw [unpackDouble_packDouble_zero]
    rfl
  | finite sign mantissa exponent positive =>
    rw [form] at stored
    obtain ⟨shifted, stored⟩ := stored_shiftLeft stored
    rw [roundTo, round_of_stored stored, unpackDouble_packDouble stored]
    rfl

/-! ## No time -/

/-- From a moment to itself no time passes. -/
theorem Nanos.secondsSince_self (now : Nanos) : secondsSince now now = 0 := by
  have none : span now now = 0 := by
    rw [span, Int.sub_self]
    rfl
  rw [secondsSince, none]
  decide

/-- In no time nothing shrinks. -/
theorem decay_zero {rate : Float} (h : (unpackDouble rate).isFinite = true) :
    decay rate 0 = 1 := by
  have finite : (unpackDouble (-rate)).isFinite = true := by
    rw [unpackDouble_neg, isFinite_neg, h]
  have nothing : unpackDouble 0 = .zero .positive := rfl
  obtain ⟨sign, zero⟩ := unpackDouble_mul_zero finite nothing
  rw [decay, doubleExp, zero]
  rfl

end Sensorium
