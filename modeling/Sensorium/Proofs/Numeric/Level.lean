import Sensorium.Proofs.Numeric.Finite
import Sensorium.Quantity.Value

/-!
# Numbers that are level

Arithmetic gives a number back only up to the sign of a zero: `-0 + 0` is `0`. Two numbers
are `Level` if they are the same or zeros of any sign, which for finite numbers is equality
as it is computed. Here are the few laws by which the forms of motion give back, when no
time has passed, what was put into them: `x - x` is zero, zero times a finite number is
zero, `x + 0` is level with `x`, and a single precision number is not changed by a way
through double precision.
-/

namespace Sensorium

open Float.Model (Format UnpackedFloat totalExponent)
open Float.Model.UnpackedFloat

/-- The number is a zero of either sign. -/
def IsZero (u : UnpackedFloat) : Prop := ∃ sign, u = .zero sign

/-- Two numbers are the same, or both are zeros. -/
def Level (u v : UnpackedFloat) : Prop := u = v ∨ IsZero u ∧ IsZero v

theorem IsZero.finite {u : UnpackedFloat} (h : IsZero u) : u.isFinite = true := by
  obtain ⟨sign, rfl⟩ := h
  rfl

/-- A finite number is a zero or has a mantissa. -/
theorem finite_cases {u : UnpackedFloat} (finite : u.isFinite = true) :
    IsZero u ∨ ∃ sign mantissa exponent positive, u = .finite sign mantissa exponent positive := by
  cases u with
  | infinity _ | notANumber => cases finite
  | zero sign => exact .inl ⟨sign, rfl⟩
  | finite sign mantissa exponent positive => exact .inr ⟨sign, mantissa, exponent, positive, rfl⟩

namespace Level

variable {u v w : UnpackedFloat}

theorem refl (u : UnpackedFloat) : Level u u := .inl rfl

theorem symm (h : Level u v) : Level v u := by
  rcases h with rfl | ⟨hu, hv⟩
  · exact refl u
  · exact .inr ⟨hv, hu⟩

theorem trans (huv : Level u v) (hvw : Level v w) : Level u w := by
  rcases huv with rfl | ⟨hu, hv⟩
  · exact hvw
  · rcases hvw with rfl | ⟨-, hw⟩
    · exact .inr ⟨hu, hv⟩
    · exact .inr ⟨hu, hw⟩

theorem isZero (h : Level u v) (zero : IsZero v) : IsZero u := by
  rcases h with rfl | ⟨hu, -⟩
  · exact zero
  · exact hu

theorem isFinite (h : Level u v) : u.isFinite = v.isFinite := by
  rcases h with rfl | ⟨hu, hv⟩
  · rfl
  · rw [hu.finite, hv.finite]

/-- Finite numbers that are level compare as equal. -/
theorem beq (h : Level u v) (finite : u.isFinite = true) : u.beq v = true := by
  rcases h with rfl | ⟨⟨s, rfl⟩, ⟨t, rfl⟩⟩
  · cases u with
    | infinity _ => cases finite
    | notANumber => cases finite
    | zero _ => rfl
    | finite sign mantissa exponent _ =>
      cases sign <;> simp [UnpackedFloat.beq, UnpackedFloat.compare]
  · rfl

/-- Numbers that compare as equal are level. -/
theorem of_beq (h : u.beq v = true) : Level u v := by
  have same {m n : Nat} {e f : Int} (h : ((compare e f).then (compare m n)) = .eq) :
      e = f ∧ m = n := by
    rw [Ordering.then_eq_eq] at h
    exact ⟨Int.compare_eq_eq.mp h.1, Nat.compare_eq_eq.mp h.2⟩
  cases u with
  | notANumber => cases h
  | infinity s =>
    cases v with
    | infinity t => cases s <;> cases t <;> first | exact refl _ | cases h
    | _ => cases s <;> cases h
  | zero s =>
    cases v with
    | zero t => exact .inr ⟨⟨s, rfl⟩, ⟨t, rfl⟩⟩
    | finite t _ _ _ | infinity t => cases t <;> cases h
    | notANumber => cases h
  | finite s m e hm =>
    cases v with
    | finite t n f hn =>
      have sides : s = t ∧ (compare e f).then (compare m n) = .eq := by
        cases s <;> cases t <;> simp only [UnpackedFloat.beq, UnpackedFloat.compare] at h
        · exact ⟨rfl, by simpa using h⟩
        · cases h
        · cases h
        · exact ⟨rfl, by simpa using h⟩
      obtain ⟨rfl, order⟩ := sides
      obtain ⟨rfl, rfl⟩ := same order
      exact refl _
    | zero _ => cases s <;> cases h
    | infinity t => cases s <;> cases t <;> cases h
    | notANumber => cases s <;> cases h

end Level

/-! ## Arithmetic -/

section

variable {format : Format} {u v : UnpackedFloat}

theorem isZero_sub_self (finite : u.isFinite = true) : IsZero (UnpackedFloat.sub format u u) := by
  cases u with
  | infinity _ => cases finite
  | notANumber => cases finite
  | zero sign => cases sign <;> exact ⟨_, rfl⟩
  | finite sign mantissa exponent _ =>
    refine ⟨.positive, ?_⟩
    simp only [UnpackedFloat.sub, Int.sub_self]
    rfl

theorem isZero_mul (hu : IsZero u) (finite : v.isFinite = true) :
    IsZero (UnpackedFloat.mul format u v) := by
  obtain ⟨sign, rfl⟩ := hu
  cases v with
  | infinity _ => cases finite
  | notANumber => cases finite
  | zero other => exact ⟨_, rfl⟩
  | finite other _ _ _ => exact ⟨_, rfl⟩

theorem isZero_mul_right (finite : u.isFinite = true) (hv : IsZero v) :
    IsZero (UnpackedFloat.mul format u v) := by
  obtain ⟨sign, rfl⟩ := hv
  cases u with
  | infinity _ => cases finite
  | notANumber => cases finite
  | zero other => exact ⟨_, rfl⟩
  | finite other _ _ _ => exact ⟨_, rfl⟩

/-- Adding a zero leaves a number as it is, but for the sign of a zero. -/
theorem level_add_zero (hv : IsZero v) (finite : u.isFinite = true) :
    Level (UnpackedFloat.add format u v) u := by
  obtain ⟨sign, rfl⟩ := hv
  cases u with
  | infinity _ => cases finite
  | notANumber => cases finite
  | zero other =>
    right
    refine ⟨?_, ⟨other, rfl⟩⟩
    simp only [UnpackedFloat.add]
    split <;> exact ⟨_, rfl⟩
  | finite other _ _ _ => exact .inl rfl

theorem isZero_add (hu : IsZero u) (hv : IsZero v) : IsZero (UnpackedFloat.add format u v) := by
  rcases @level_add_zero format u v hv hu.finite with same | ⟨zero, -⟩
  · rw [same]
    exact hu
  · exact zero

/-- Subtracting a number is adding it with the other sign. -/
theorem sub_eq_add_neg (format : Format) (u v : UnpackedFloat) :
    UnpackedFloat.sub format u v = UnpackedFloat.add format u v.neg := by
  cases u with
  | notANumber => rfl
  | infinity s =>
    cases v with
    | infinity t => cases s <;> cases t <;> rfl
    | _ => rfl
  | zero s =>
    cases v with
    | zero t => cases s <;> cases t <;> rfl
    | _ => rfl
  | finite s m e hm =>
    cases v with
    | finite t n f hn =>
      have turned (l : Nat) : (-t).apply (l : Int) = -t.apply (l : Int) := by
        cases t with
        | positive => rfl
        | negative => exact (Int.neg_neg _).symm
      simp only [UnpackedFloat.sub, UnpackedFloat.add, UnpackedFloat.neg, turned,
        Int.sub_eq_add_neg]
    | _ => rfl

theorem IsZero.neg (h : IsZero u) : IsZero u.neg := by
  obtain ⟨sign, rfl⟩ := h
  exact ⟨-sign, rfl⟩

theorem isZero_sub (hu : IsZero u) (hv : IsZero v) : IsZero (UnpackedFloat.sub format u v) := by
  rw [sub_eq_add_neg]
  exact isZero_add hu hv.neg

/-- So does subtracting one. -/
theorem level_sub_zero (hv : IsZero v) (finite : u.isFinite = true) :
    Level (UnpackedFloat.sub format u v) u := by
  rw [sub_eq_add_neg]
  exact level_add_zero hv.neg finite

theorem isZero_div (hu : IsZero u) (finite : v.isFinite = true) (nonzero : ¬ IsZero v) :
    IsZero (UnpackedFloat.div format u v) := by
  obtain ⟨sign, rfl⟩ := hu
  cases v with
  | infinity _ => cases finite
  | notANumber => cases finite
  | zero other => exact (nonzero ⟨other, rfl⟩).elim
  | finite other _ _ _ => exact ⟨_, rfl⟩

end

/-! ## Single precision -/

theorem IsZero.unpack_pack {format : Format} {u : UnpackedFloat} (h : IsZero u) :
    IsZero (UnpackedFloat.unpack format (UnpackedFloat.pack format u)) := by
  obtain ⟨sign, rfl⟩ := h
  rw [Sensorium.unpack_pack (show Stored format (.zero sign) from trivial)]
  exact ⟨sign, rfl⟩

/-- What is level with a number in the form of a format is packed to something level. -/
theorem Level.unpack_pack {format : Format} {u v : UnpackedFloat} (h : Level u v)
    (stored : Stored format v) :
    Level (UnpackedFloat.unpack format (UnpackedFloat.pack format u)) v := by
  rcases h with rfl | ⟨hu, hv⟩
  · rw [Sensorium.unpack_pack stored]
    exact .refl u
  · exact .inr ⟨hu.unpack_pack, hv⟩

namespace Single

variable {x y z : Single}

theorem unpack_toFloat32 (x : Single) : x.toFloat32.toModel.unpack = x.unpack :=
  unpack_pack x.stored_unpack

theorem unpack_add (x y : Single) :
    (x + y).unpack = UnpackedFloat.unpack .binary32
      (UnpackedFloat.pack .binary32 (UnpackedFloat.add .binary32 x.unpack y.unpack)) := by
  rw [← x.unpack_toFloat32, ← y.unpack_toFloat32]
  rfl

theorem unpack_sub (x y : Single) :
    (x - y).unpack = UnpackedFloat.unpack .binary32
      (UnpackedFloat.pack .binary32 (UnpackedFloat.sub .binary32 x.unpack y.unpack)) := by
  rw [← x.unpack_toFloat32, ← y.unpack_toFloat32]
  rfl

theorem eqv_eq_beq (x y : Single) : x.eqv y = x.unpack.beq y.unpack := by
  rw [← x.unpack_toFloat32, ← y.unpack_toFloat32]
  rfl

theorem eqv_of_level (h : Level x.unpack y.unpack) (finite : y.isFinite = true) :
    x.eqv y = true := by
  rw [eqv_eq_beq]
  apply h.beq
  rw [h.isFinite, ← isFinite_eq]
  exact finite

/-- Numbers that compare as equal are level. -/
theorem level_of_eqv (h : x.eqv y = true) : Level x.unpack y.unpack := by
  rw [eqv_eq_beq] at h
  exact Level.of_beq h

/-- Only zeros are equal to zero. -/
theorem isZero_of_eqv (h : x.eqv 0 = true) : IsZero x.unpack := by
  rw [eqv_eq_beq] at h
  cases form : x.unpack with
  | zero sign => exact ⟨sign, rfl⟩
  | infinity sign =>
    rw [form] at h
    cases sign <;> cases h
  | notANumber =>
    rw [form] at h
    cases h
  | finite sign _ _ _ =>
    rw [form] at h
    cases sign <;> cases h

theorem isZero_sub_self (finite : x.isFinite = true) : IsZero (x - x).unpack := by
  rw [unpack_sub]
  rw [isFinite_eq] at finite
  exact (Sensorium.isZero_sub_self finite).unpack_pack

theorem level_add_zero (finite : x.isFinite = true) (zero : IsZero y.unpack) :
    Level (x + y).unpack x.unpack := by
  rw [unpack_add]
  rw [isFinite_eq] at finite
  exact (Sensorium.level_add_zero zero finite).unpack_pack x.stored_unpack

/-- The difference of a zero and a number is finite if the number is. -/
theorem isFinite_zero_sub (zero : IsZero x.unpack) (z : Single) :
    (x - z).isFinite = z.isFinite := by
  obtain ⟨sign, zero⟩ := zero
  have stored := z.stored_unpack
  rw [isFinite_eq, isFinite_eq, unpack_sub, zero]
  cases form : z.unpack with
  | infinity other =>
    have difference : UnpackedFloat.sub .binary32 (.zero sign) (.infinity other) =
        .infinity (-other) := rfl
    rw [difference, unpack_pack (show Stored .binary32 (.infinity _) from trivial)]
    rfl
  | notANumber =>
    have difference : UnpackedFloat.sub .binary32 (.zero sign) .notANumber = .notANumber := rfl
    rw [difference, unpack_pack (show Stored .binary32 .notANumber from trivial)]
  | zero other =>
    have difference : IsZero (UnpackedFloat.sub .binary32 (.zero sign) (.zero other)) :=
      isZero_sub ⟨sign, rfl⟩ ⟨other, rfl⟩
    rw [difference.unpack_pack.finite]
    rfl
  | finite other mantissa exponent positive =>
    have difference : UnpackedFloat.sub .binary32 (.zero sign)
        (.finite other mantissa exponent positive) = .finite (-other) mantissa exponent positive :=
      rfl
    rw [form] at stored
    have turned : Stored .binary32 (.finite (-other) mantissa exponent positive) := stored
    rw [difference, unpack_pack turned]
    rfl

/-- Whether a difference is finite does not depend on the sign of a zero. -/
theorem isFinite_sub_of_level (h : Level x.unpack y.unpack) (z : Single) :
    (x - z).isFinite = (y - z).isFinite := by
  rcases h with same | ⟨hx, hy⟩
  · rw [isFinite_eq, isFinite_eq, unpack_sub, unpack_sub, same]
  · rw [isFinite_zero_sub hx, isFinite_zero_sub hy]

end Single

/-! ## Double precision -/

/-- The digits of a shifted mantissa that are shifted out again are all zero. -/
theorem shiftRight_shiftLeft (mantissa places : Nat) :
    ExtendedMantissa.ofMantissaAndAccuracy (mantissa <<< places) .exact >>> places =
      ⟨mantissa, false, false⟩ := by
  have shifts (n rest : Nat) : n.repeat ExtendedMantissa.shiftRightOne
      ⟨mantissa <<< (n + rest), false, false⟩ = ⟨mantissa <<< rest, false, false⟩ := by
    induction n generalizing rest with
    | zero => rw [Nat.zero_add, Nat.repeat]
    | succ n ih =>
      have split : n + 1 + rest = n + (rest + 1) := by omega
      rw [Nat.repeat, split, ih]
      simp [ExtendedMantissa.shiftRightOne, Nat.shiftLeft_succ]
  exact shifts places 0

section

variable {format : Format} {sign : Sign} {mantissa : Nat} {exponent : Int}
  {positive : 0 < mantissa} (h : Stored format (.finite sign mantissa exponent positive))
include h

theorem targetExponent_shiftLeft (places : Nat) :
    format.targetExponent (totalExponent (mantissa <<< places) (exponent - places)) =
      exponent := by
  rw [totalExponent_shiftLeft positive, targetExponent_of_stored h]

theorem shiftToTargetExponent_shiftLeft (places : Nat) :
    shiftToTargetExponent format (mantissa <<< places) (exponent - places) .exact =
      (⟨mantissa, false, false⟩, exponent) := by
  have back : (exponent - (exponent - places)).toNat = places := by omega
  simp only [shiftToTargetExponent, targetExponent_shiftLeft h, shiftToExponent, back,
    shiftRight_shiftLeft, Int.sub_add_cancel]

/-- Digits that are all zero are lost without trace. -/
theorem roundWithAccuracy_shiftLeft (places : Nat) :
    roundWithAccuracy format sign (mantissa <<< places) (exponent - places) .exact =
      .finite sign mantissa exponent positive := by
  have again := shiftToTargetExponent_shiftLeft h 0
  rw [Nat.shiftLeft_zero, Int.natCast_zero, Int.sub_zero] at again
  have rounded : (⟨mantissa, false, false⟩ : ExtendedMantissa).roundedMantissa = mantissa := rfl
  simp only [roundWithAccuracy, shiftToTargetExponent_shiftLeft h, rounded, again,
    dif_neg (Nat.ne_of_gt positive)]

/-- A number in the form of a format whose mantissa was shifted is rounded to what it was. -/
theorem round_shiftLeft (places : Nat) :
    UnpackedFloat.round format sign (mantissa <<< places) (exponent - places) =
      .finite sign mantissa exponent positive := by
  have kept : decreaseExponent (mantissa <<< places) (exponent - places) exponent =
      (mantissa <<< places, exponent - places) := by
    have none : (exponent - places - exponent).toNat = 0 := by omega
    simp only [decreaseExponent, none, Nat.shiftLeft_zero, Int.natCast_zero, Int.sub_zero]
  simp only [UnpackedFloat.round, targetExponent_shiftLeft h, kept, roundWithAccuracy_shiftLeft h]

end

namespace Single

variable {x : Single}

/-- A single precision number in double precision has a longer mantissa and is the same
    otherwise. -/
theorem unpackDouble_widen (x : Single) :
    unpackDouble x.widen = x.unpack ∧ roundTo .binary32 x.unpack = x.unpack ∨
      ∃ sign mantissa exponent positive places shifted,
        x.unpack = .finite sign mantissa exponent positive ∧
        unpackDouble x.widen =
          .finite sign (mantissa <<< places) (exponent - (places : Nat)) shifted := by
  have stored := x.stored_unpack
  unfold widen
  cases form : x.unpack with
  | infinity sign =>
    left
    exact ⟨unpackDouble_packDouble (show Stored .binary64 (.infinity sign) from trivial), rfl⟩
  | notANumber =>
    left
    exact ⟨unpackDouble_packDouble (show Stored .binary64 .notANumber from trivial), rfl⟩
  | zero sign => exact .inl ⟨unpackDouble_packDouble_zero sign, rfl⟩
  | finite sign mantissa exponent positive =>
    right
    rw [form] at stored
    obtain ⟨shifted, wide⟩ := stored_shiftLeft stored
    refine ⟨sign, mantissa, exponent, positive, 52 - mantissa.log2, shifted, rfl, ?_⟩
    rw [roundTo, round_of_stored wide, unpackDouble_packDouble wide]

theorem isZero_widen_iff : IsZero (unpackDouble x.widen) ↔ IsZero x.unpack := by
  rcases x.unpackDouble_widen with ⟨same, -⟩ | ⟨_, _, _, _, _, _, narrow, wide⟩
  · rw [same]
  · rw [narrow, wide]
    constructor
    · rintro ⟨_, zero⟩
      cases zero
    · rintro ⟨_, zero⟩
      cases zero

/-- A way through double precision leaves a number as it is, but for the sign of a zero. -/
theorem level_narrow {y : Float} (h : Level (unpackDouble y) (unpackDouble x.widen)) :
    Level (narrow y).unpack x.unpack := by
  apply Level.unpack_pack _ x.stored_unpack
  rcases h with same | ⟨⟨sign, zero⟩, wide⟩
  · left
    rw [same]
    rcases x.unpackDouble_widen with ⟨form, kept⟩ | ⟨_, _, _, _, places, _, narrow, wide⟩
    · rw [form]
      exact kept
    · have stored := x.stored_unpack
      rw [narrow] at stored
      rw [wide, narrow]
      exact round_shiftLeft stored places
  · rw [zero]
    exact .inr ⟨⟨sign, rfl⟩, isZero_widen_iff.mp wide⟩

theorem isZero_narrow {y : Float} (h : IsZero (unpackDouble y)) : IsZero (narrow y).unpack := by
  obtain ⟨sign, zero⟩ := h
  unfold narrow
  rw [zero]
  exact IsZero.unpack_pack ⟨sign, rfl⟩

/-- A positive number is not zero. -/
theorem not_isZero_of_pos (positive : Single.lt 0 x = true) : ¬ IsZero x.unpack := by
  rintro ⟨sign, zero⟩
  have less : (toFloat32 0).toModel.unpack.lt x.toFloat32.toModel.unpack = true :=
    of_decide_eq_true (of_decide_eq_true positive)
  rw [unpack_toFloat32, unpack_toFloat32, zero] at less
  cases less

end Single

namespace Double

variable {x y : Float}

theorem isZero_add (hx : IsZero (unpackDouble x)) (hy : IsZero (unpackDouble y)) :
    IsZero (unpackDouble (x + y)) :=
  (Sensorium.isZero_add hx hy).unpack_pack

theorem isZero_sub_self (finite : (unpackDouble x).isFinite = true) :
    IsZero (unpackDouble (x - x)) :=
  (Sensorium.isZero_sub_self finite).unpack_pack

theorem isZero_mul (hx : IsZero (unpackDouble x)) (finite : (unpackDouble y).isFinite = true) :
    IsZero (unpackDouble (x * y)) :=
  (Sensorium.isZero_mul hx finite).unpack_pack

theorem isZero_mul_right (finite : (unpackDouble x).isFinite = true)
    (hy : IsZero (unpackDouble y)) : IsZero (unpackDouble (x * y)) :=
  (Sensorium.isZero_mul_right finite hy).unpack_pack

theorem isZero_div (hx : IsZero (unpackDouble x)) (finite : (unpackDouble y).isFinite = true)
    (nonzero : ¬ IsZero (unpackDouble y)) : IsZero (unpackDouble (x / y)) :=
  (Sensorium.isZero_div hx finite nonzero).unpack_pack

theorem level_add_zero (finite : (unpackDouble x).isFinite = true)
    (hy : IsZero (unpackDouble y)) : Level (unpackDouble (x + y)) (unpackDouble x) :=
  (Sensorium.level_add_zero hy finite).unpack_pack (stored_unpackDouble x)

theorem isZero_zero : IsZero (unpackDouble 0) := ⟨.positive, rfl⟩

theorem isFinite_one : (unpackDouble 1).isFinite = true := by decide

theorem isZero_one_sub_one : IsZero (unpackDouble (1 - 1)) := isZero_sub_self isFinite_one

end Double

/-! ## Vectors and values -/

/-- Every component is level with its counterpart. -/
structure Vec3.Level (v w : Vec3 Single) : Prop where
  x : Sensorium.Level v.x.unpack w.x.unpack
  y : Sensorium.Level v.y.unpack w.y.unpack
  z : Sensorium.Level v.z.unpack w.z.unpack

namespace Vec3

variable {u v w : Vec3 Single}

theorem Level.refl (v : Vec3 Single) : v.Level v := ⟨.refl _, .refl _, .refl _⟩

theorem Level.symm (h : v.Level w) : w.Level v := ⟨h.x.symm, h.y.symm, h.z.symm⟩

theorem Level.trans (huv : u.Level v) (hvw : v.Level w) : u.Level w :=
  ⟨huv.x.trans hvw.x, huv.y.trans hvw.y, huv.z.trans hvw.z⟩

theorem isFinite_iff :
    v.isFinite = true ↔ v.x.isFinite = true ∧ v.y.isFinite = true ∧ v.z.isFinite = true := by
  simp only [isFinite, Bool.and_eq_true, and_assoc]

theorem Level.isFinite (h : v.Level w) (finite : w.isFinite = true) : v.isFinite = true := by
  rw [isFinite_iff] at finite ⊢
  simp only [Single.isFinite_eq] at finite ⊢
  rw [h.x.isFinite, h.y.isFinite, h.z.isFinite]
  exact finite

theorem Level.eqv (h : v.Level w) (finite : w.isFinite = true) : v.eqv w = true := by
  rw [isFinite_iff] at finite
  obtain ⟨hx, hy, hz⟩ := finite
  simp only [Vec3.eqv, Single.eqv_of_level h.x hx, Single.eqv_of_level h.y hy,
    Single.eqv_of_level h.z hz, Bool.and_self]

theorem level_of_eqv (h : v.eqv w = true) : v.Level w := by
  simp only [Vec3.eqv, Bool.and_eq_true] at h
  obtain ⟨⟨x, y⟩, z⟩ := h
  exact ⟨Single.level_of_eqv x, Single.level_of_eqv y, Single.level_of_eqv z⟩

theorem Level.isFinite_sub (h : v.Level w) (finite : (w - u).isFinite = true) :
    (v - u).isFinite = true := by
  rw [isFinite_iff] at finite ⊢
  obtain ⟨hx, hy, hz⟩ := finite
  refine ⟨?_, ?_, ?_⟩
  · exact (Single.isFinite_sub_of_level h.x u.x).trans hx
  · exact (Single.isFinite_sub_of_level h.y u.y).trans hy
  · exact (Single.isFinite_sub_of_level h.z u.z).trans hz

theorem isFinite_sub_self (finite : v.isFinite = true) : (v - v).isFinite = true := by
  obtain ⟨x, y, z⟩ := isFinite_iff.mp finite
  apply isFinite_iff.mpr
  refine ⟨?_, ?_, ?_⟩
  · exact (Single.isFinite_eq _).trans (Single.isZero_sub_self x).finite
  · exact (Single.isFinite_eq _).trans (Single.isZero_sub_self y).finite
  · exact (Single.isFinite_eq _).trans (Single.isZero_sub_self z).finite

/-- The zero vector is level with whatever is equal to it. -/
theorem level_zero_of_eqv (h : v.eqv .zero = true) : Level .zero v := by
  simp only [Vec3.eqv, Bool.and_eq_true] at h
  obtain ⟨⟨hx, hy⟩, hz⟩ := h
  have zero : IsZero (Single.unpack 0) := ⟨.positive, rfl⟩
  refine ⟨?_, ?_, ?_⟩
  · exact .inr ⟨zero, Single.isZero_of_eqv hx⟩
  · exact .inr ⟨zero, Single.isZero_of_eqv hy⟩
  · exact .inr ⟨zero, Single.isZero_of_eqv hz⟩

end Vec3

namespace Value

/-- True if every component is finite. -/
def isFinite : Value → Bool
  | scalar number => number.isFinite
  | vector components => components.isFinite

theorem isFinite_toVector {value : Value} (finite : value.isFinite = true) :
    value.toVector.isFinite = true := by
  cases value with
  | scalar x => exact (by decide : (Vec3.zero).isFinite = true)
  | vector v => exact finite

/-- Numerical equality of two values of one kind. -/
def eqv : Value → Value → Bool
  | scalar x, scalar y => x.eqv y
  | vector v, vector w => v.eqv w
  | _, _ => false

/-- Two values of one kind, every number of one level with that of the other. -/
def Level : Value → Value → Prop
  | scalar x, scalar y => Sensorium.Level x.unpack y.unpack
  | vector v, vector w => v.Level w
  | _, _ => False

theorem Level.refl (value : Value) : value.Level value := by
  cases value with
  | scalar x => exact Sensorium.Level.refl _
  | vector v => exact Vec3.Level.refl v

theorem Level.eqv {v w : Value} (h : v.Level w) (finite : w.isFinite = true) : v.eqv w = true := by
  cases v <;> cases w
  case scalar.scalar => exact Single.eqv_of_level h finite
  case vector.vector => exact Vec3.Level.eqv h finite
  all_goals cases h

end Value

end Sensorium
