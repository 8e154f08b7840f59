import Sensorium.Proofs.Numeric.Magnitude

/-!
# Signs and order

On which side of zero a number lies is kept by packing, which may only make it infinite. An
operation gives a finite number only for finite operands, and only what is neither infinite nor
NaN is below something in size. So a test that some distance is small says at once that everything
it was computed from is finite.
-/

namespace Sensorium

open Float.Model (Format UnpackedFloat totalExponent)
open Float.Model.UnpackedFloat

/-- The number is a zero, or on this side of zero, perhaps infinitely far. -/
def OnSide (sign : Sign) : UnpackedFloat → Prop
  | .zero _ => True
  | .finite other _ _ _ | .infinity other => other = sign
  | .notANumber => False

/-- The number is above zero, perhaps infinitely far. -/
def Positive : UnpackedFloat → Prop
  | .finite sign _ _ _ | .infinity sign => sign = .positive
  | _ => False

section

variable {format : Format} {sign other : Sign} {u v : UnpackedFloat}

theorem IsZero.canonical (h : IsZero u) : Canonical format u := by
  obtain ⟨_, rfl⟩ := h
  trivial

theorem IsZero.onSide (h : IsZero u) : OnSide sign u := by
  obtain ⟨_, rfl⟩ := h
  trivial

theorem Signed.onSide (h : Signed sign u) : OnSide sign u := by
  cases u with
  | zero _ => trivial
  | finite _ _ _ _ => exact h
  | _ => cases h

theorem Positive.onSide (h : Positive u) : OnSide .positive u := by
  cases u with
  | finite _ _ _ _ | infinity _ => exact h
  | _ => cases h

/-- A positive number that is finite has a mantissa. -/
theorem Positive.exists_finite (h : Positive u) (finite : u.isFinite = true) :
    ∃ mantissa exponent positive, u = .finite .positive mantissa exponent positive := by
  cases u with
  | finite _ mantissa exponent positive =>
    cases h
    exact ⟨mantissa, exponent, positive, rfl⟩
  | infinity _ => cases finite
  | _ => cases h

/-- What is rounded from a positive number that is not too small is positive. -/
theorem Rounded.positive {total : Int} (h : Rounded format .positive total u)
    (big : format.minExponent < total) : Positive u := by
  have above := h.above big
  have sign := h.sign
  cases u with
  | finite _ _ _ _ => exact sign
  | _ => cases above

theorem OnSide.ne_notANumber (h : OnSide sign u) : u ≠ .notANumber := by
  rintro rfl
  cases h

theorem OnSide.neg (h : OnSide sign u) : OnSide (-sign) u.neg := by
  cases u with
  | zero _ => trivial
  | notANumber => cases h
  | infinity _ | finite _ _ _ _ => exact congrArg (- ·) h

/-! ## Packing -/

/-- A number in the form of a format is kept by it, unless it is too large. -/
theorem unpack_pack_cases (form : Canonical format u) :
    UnpackedFloat.unpack format (UnpackedFloat.pack format u) = u ∨
      ∃ sign mantissa exponent positive, u = .finite sign mantissa exponent positive ∧
        UnpackedFloat.unpack format (UnpackedFloat.pack format u) = .infinity sign := by
  cases u with
  | infinity _ | notANumber | zero _ => exact .inl (unpack_pack (show Stored format _ from trivial))
  | finite sign mantissa exponent positive =>
    have top := two_pow_exponentBits format
    have least := minExponent_eq format
    by_cases fits : exponent ≤ (format.exponentBias : Int) - format.mantissaBitsWithoutImplicit
    · obtain ⟨narrow, full, above⟩ := form
      exact .inl (unpack_pack (show Stored format (.finite ..) from ⟨narrow, full, above, fits⟩))
    · have large : 2 ^ format.exponentBits ≤
          (exponent + format.exponentBias + format.mantissaBitsWithoutImplicit).toNat + 1 := by
        omega
      have same : UnpackedFloat.pack format (.finite sign mantissa exponent positive) =
          UnpackedFloat.pack format (.infinity sign) := by
        simp only [UnpackedFloat.pack, if_pos large]
      refine .inr ⟨sign, mantissa, exponent, positive, rfl, ?_⟩
      rw [same, unpack_pack (show Stored format (.infinity sign) from trivial)]

theorem OnSide.packed (h : OnSide sign u) (form : Canonical format u) :
    OnSide sign (UnpackedFloat.unpack format (UnpackedFloat.pack format u)) := by
  rcases unpack_pack_cases form with same | ⟨_, _, _, _, rfl, infinite⟩
  · rw [same]
    exact h
  · rw [infinite]
    exact h

theorem Positive.packed (h : Positive u) (form : Canonical format u) :
    Positive (UnpackedFloat.unpack format (UnpackedFloat.pack format u)) := by
  rcases unpack_pack_cases form with same | ⟨_, _, _, _, rfl, infinite⟩
  · rw [same]
    exact h
  · rw [infinite]
    exact h

/-- What is neither infinite nor NaN once it is packed was not before. -/
theorem isFinite_of_packed
    (h : (UnpackedFloat.unpack format (UnpackedFloat.pack format u)).isFinite = true) :
    u.isFinite = true := by
  cases u with
  | zero _ | finite _ _ _ _ => rfl
  | infinity sign =>
    rw [unpack_pack (show Stored format (.infinity sign) from trivial)] at h
    exact h
  | notANumber =>
    rw [unpack_pack (show Stored format .notANumber from trivial)] at h
    exact h

/-! ## Operands -/

theorem isFinite_of_add (h : (UnpackedFloat.add format u v).isFinite = true) :
    u.isFinite = true ∧ v.isFinite = true := by
  cases u <;> cases v <;> first
    | exact ⟨rfl, rfl⟩
    | cases h
    | (simp only [UnpackedFloat.add] at h
       split at h <;> cases h)

theorem isFinite_of_sub (h : (UnpackedFloat.sub format u v).isFinite = true) :
    u.isFinite = true ∧ v.isFinite = true := by
  rw [sub_eq_add_neg] at h
  obtain ⟨first, second⟩ := isFinite_of_add h
  exact ⟨first, (isFinite_neg v).symm.trans second⟩

theorem isFinite_of_mul (h : (UnpackedFloat.mul format u v).isFinite = true) :
    u.isFinite = true ∧ v.isFinite = true := by
  cases u <;> cases v <;> first
    | exact ⟨rfl, rfl⟩
    | cases h

/-! ## Order -/

/-- What is below something and on the upper side is finite. -/
theorem isFinite_of_lt (h : u.lt v = true) (upper : OnSide .positive u) : u.isFinite = true := by
  cases u with
  | zero _ | finite _ _ _ _ => rfl
  | notANumber => cases upper
  | infinity sign =>
    cases upper
    cases v with
    | infinity sign => cases sign <;> cases h
    | _ => cases h

theorem IsZero.lt (h : IsZero u) (positive : Positive v) : u.lt v = true := by
  obtain ⟨sign, rfl⟩ := h
  cases v with
  | infinity _ | finite _ _ _ _ =>
    cases positive
    rfl
  | _ => cases positive

/-- What is above a zero is positive. -/
theorem IsZero.positive_of_lt (h : IsZero u) (above : u.lt v = true) : Positive v := by
  obtain ⟨sign, rfl⟩ := h
  cases v with
  | infinity sign | finite sign _ _ _ =>
    cases sign with
    | positive => rfl
    | negative => cases above
  | _ => cases above

/-! ## Sides of sums and products -/

/-- The sum of two mantissas, whose sign is known. -/
theorem onSide_normalize {sum exponent : Int} {zeroSign : Sign}
    (upper : sign = .positive → 0 ≤ sum) (lower : sign = .negative → sum ≤ 0) :
    Canonical format (UnpackedFloat.normalize format sum exponent zeroSign) ∧
      OnSide sign (UnpackedFloat.normalize format sum exponent zeroSign) := by
  rcases lt_trichotomy sum 0 with negative | rfl | positive
  · have same : sign = .negative := by
      cases sign with
      | negative => rfl
      | positive => exact absurd (upper rfl) (Int.not_le.mpr negative)
    have size : 0 < (-sum).toNat := by omega
    have rounded : Rounded format .negative _ (UnpackedFloat.round format _ _ exponent) :=
      rounded_round .negative size
    rw [UnpackedFloat.normalize, Int.compare_eq_lt.mpr negative, same]
    exact ⟨rounded.form, rounded.sign.onSide⟩
  · exact ⟨trivial, trivial⟩
  · have same : sign = .positive := by
      cases sign with
      | positive => rfl
      | negative => exact absurd (lower rfl) (Int.not_le.mpr positive)
    have size : 0 < sum.toNat := by omega
    have rounded : Rounded format .positive _ (UnpackedFloat.round format _ _ exponent) :=
      rounded_round .positive size
    rw [UnpackedFloat.normalize, Int.compare_eq_gt.mpr positive, same]
    exact ⟨rounded.form, rounded.sign.onSide⟩

/-- A sum of two numbers on one side stays there. -/
theorem onSide_add (hu : OnSide sign u) (hv : OnSide sign v) (formU : Canonical format u)
    (formV : Canonical format v) :
    Canonical format (UnpackedFloat.add format u v) ∧
      OnSide sign (UnpackedFloat.add format u v) := by
  cases u with
  | notANumber => cases hu
  | infinity s =>
    cases v with
    | notANumber => cases hv
    | infinity t =>
      cases hu
      cases hv
      cases sign <;> exact ⟨trivial, rfl⟩
    | zero _ | finite _ _ _ _ => exact ⟨trivial, hu⟩
  | zero s =>
    cases v with
    | notANumber => cases hv
    | infinity _ | finite _ _ _ _ => exact ⟨formV, hv⟩
    | zero t =>
      have zero : IsZero (UnpackedFloat.add format _ _) := isZero_add ⟨s, rfl⟩ ⟨t, rfl⟩
      exact ⟨zero.canonical, zero.onSide⟩
  | finite s m e hm =>
    cases v with
    | notANumber => cases hv
    | infinity _ => exact ⟨trivial, hv⟩
    | zero _ => exact ⟨formU, hu⟩
    | finite t n f hn =>
      cases hu
      cases hv
      apply onSide_normalize
      · rintro rfl
        exact Int.add_nonneg (Int.natCast_nonneg _) (Int.natCast_nonneg _)
      · rintro rfl
        apply Int.add_nonpos
        · exact neg_nonpos.mpr (Int.natCast_nonneg _)
        · exact neg_nonpos.mpr (Int.natCast_nonneg _)

/-- The difference of two numbers on different sides stays on the side of the first. -/
theorem onSide_sub (hu : OnSide sign u) (hv : OnSide (-sign) v) (formU : Canonical format u)
    (formV : Canonical format v) :
    Canonical format (UnpackedFloat.sub format u v) ∧
      OnSide sign (UnpackedFloat.sub format u v) := by
  have back : - -sign = sign := by cases sign <;> rfl
  have turned := hv.neg
  rw [back] at turned
  rw [sub_eq_add_neg]
  exact onSide_add hu turned formU formV.neg

/-- The signs of finite numbers are multiplied. -/
theorem onSide_mul (hu : OnSide sign u) (hv : OnSide other v) (formU : Canonical format u)
    (formV : Canonical format v) (finiteU : u.isFinite = true) (finiteV : v.isFinite = true) :
    Canonical format (UnpackedFloat.mul format u v) ∧
      OnSide (sign * other) (UnpackedFloat.mul format u v) := by
  cases u with
  | infinity _ | notANumber => cases finiteU
  | zero s =>
    have zero : IsZero (UnpackedFloat.mul format _ v) := isZero_mul ⟨s, rfl⟩ finiteV
    exact ⟨zero.canonical, zero.onSide⟩
  | finite s m e hm =>
    cases v with
    | infinity _ | notANumber => cases finiteV
    | zero _ => exact ⟨trivial, trivial⟩
    | finite t n f hn =>
      cases hu
      cases hv
      have rounded := rounded_roundWithAccuracy (sign * other) .exact (Nat.mul_pos hm hn)
        (enough_mul formU formV)
      exact ⟨rounded.form, rounded.sign.onSide⟩

end

end Sensorium
