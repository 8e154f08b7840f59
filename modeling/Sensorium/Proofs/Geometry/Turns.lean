import Sensorium.Geometry.Rotation
import Sensorium.Proofs.Numeric.Functions

/-!
# Lengths and turns

A vector whose length is below something is finite, and so is the axis of a rotation with small
components: the square of the length of its vector part is not below the least number, so the root
of that is not so small that the axis could become infinite. A turn by no angle about a finite
axis changes nothing.
-/

namespace Sensorium

open Float.Model (UnpackedFloat)
open Float.Model.UnpackedFloat

/-! ## Vectors -/

namespace Vec3

/-- Every component is a zero. -/
structure IsZero (v : Vec3 Single) : Prop where
  x : Sensorium.IsZero v.x.unpack
  y : Sensorium.IsZero v.y.unpack
  z : Sensorium.IsZero v.z.unpack

/-- Every component is below `2 ^ k` in size. -/
structure Within (k : Int) (v : Vec3 Single) : Prop where
  x : Sensorium.Within k v.x.unpack
  y : Sensorium.Within k v.y.unpack
  z : Sensorium.Within k v.z.unpack

variable {u v w : Vec3 Single} {s : Single} {j k : Int}

theorem isZero_zero : IsZero zero := ⟨⟨.positive, rfl⟩, ⟨.positive, rfl⟩, ⟨.positive, rfl⟩⟩

theorem IsZero.within (h : v.IsZero) : v.Within k := ⟨h.x.within, h.y.within, h.z.within⟩

theorem Within.isFinite (h : v.Within k) : v.isFinite = true :=
  isFinite_iff.mpr ⟨Single.isFinite_of_within h.x, Single.isFinite_of_within h.y,
    Single.isFinite_of_within h.z⟩

theorem Within.neg (h : v.Within k) : (-v).Within k :=
  ⟨Single.within_neg h.x, Single.within_neg h.y, Single.within_neg h.z⟩

theorem IsZero.isFinite (h : v.IsZero) : v.isFinite = true :=
  (h.within (k := 0)).isFinite

theorem IsZero.level (h : v.IsZero) : v.Level zero :=
  ⟨.inr ⟨h.x, isZero_zero.x⟩, .inr ⟨h.y, isZero_zero.y⟩, .inr ⟨h.z, isZero_zero.z⟩⟩

theorem IsZero.eqv (h : v.IsZero) : v.eqv zero = true := h.level.eqv isZero_zero.isFinite

theorem isZero_of_eqv (h : v.eqv zero = true) : v.IsZero := by
  simp only [Vec3.eqv, Bool.and_eq_true] at h
  exact ⟨Single.isZero_of_eqv h.1.1, Single.isZero_of_eqv h.1.2, Single.isZero_of_eqv h.2⟩

theorem isFinite_of_add (h : (v + w).isFinite = true) :
    v.isFinite = true ∧ w.isFinite = true := by
  obtain ⟨x, y, z⟩ := isFinite_iff.mp h
  have x := Single.isFinite_of_add x
  have y := Single.isFinite_of_add y
  have z := Single.isFinite_of_add z
  exact ⟨isFinite_iff.mpr ⟨x.1, y.1, z.1⟩, isFinite_iff.mpr ⟨x.2, y.2, z.2⟩⟩

theorem isFinite_of_sub (h : (v - w).isFinite = true) :
    v.isFinite = true ∧ w.isFinite = true := by
  obtain ⟨x, y, z⟩ := isFinite_iff.mp h
  have x := Single.isFinite_of_sub x
  have y := Single.isFinite_of_sub y
  have z := Single.isFinite_of_sub z
  exact ⟨isFinite_iff.mpr ⟨x.1, y.1, z.1⟩, isFinite_iff.mpr ⟨x.2, y.2, z.2⟩⟩

theorem IsZero.neg (h : v.IsZero) : (-v).IsZero :=
  ⟨Single.isZero_neg h.x, Single.isZero_neg h.y, Single.isZero_neg h.z⟩

theorem IsZero.add (hv : v.IsZero) (hw : w.IsZero) : (v + w).IsZero :=
  ⟨Single.isZero_add hv.x hw.x, Single.isZero_add hv.y hw.y, Single.isZero_add hv.z hw.z⟩

/-- What is level has no difference. -/
theorem Level.isZero_sub (h : v.Level w) (finite : w.isFinite = true) : (v - w).IsZero := by
  obtain ⟨x, y, z⟩ := isFinite_iff.mp finite
  exact ⟨Single.isZero_sub_of_level h.x x, Single.isZero_sub_of_level h.y y,
    Single.isZero_sub_of_level h.z z⟩

theorem level_add_zero (finite : v.isFinite = true) (zero : w.IsZero) : (v + w).Level v := by
  obtain ⟨x, y, z⟩ := isFinite_iff.mp finite
  exact ⟨Single.level_add_zero x zero.x, Single.level_add_zero y zero.y,
    Single.level_add_zero z zero.z⟩

theorem isZero_mul (finite : v.isFinite = true) (zero : Sensorium.IsZero s.unpack) :
    (v * s).IsZero := by
  obtain ⟨x, y, z⟩ := isFinite_iff.mp finite
  exact ⟨Single.isZero_mul_right x zero, Single.isZero_mul_right y zero,
    Single.isZero_mul_right z zero⟩

theorem within_div (hv : v.Within j) (hs : AtLeast k s.unpack) (low : -149 ≤ j - k + 1)
    (fits : j - k + 2 ≤ 128) : (v / s).Within (j - k + 2) :=
  ⟨Single.within_div hv.x hs low fits, Single.within_div hv.y hs low fits,
    Single.within_div hv.z hs low fits⟩

/-! ### Lengths -/

theorem within_normSquared (h : v.Within k) (low : -149 ≤ k + k) (fits : k + k + 5 ≤ 128) :
    Sensorium.Within (k + k + 5) v.normSquared.unpack := by
  have square {s : Single} (hs : Sensorium.Within k s.unpack) :
      Sensorium.Within (k + k + 1) (s * s).unpack :=
    Single.within_mul hs hs low (by omega)
  have two := Single.within_add (square h.x) (square h.y) (by omega) (by omega)
  have three := Single.within_add two ((square h.z).mono (by omega)) (by omega) (by omega)
  exact three.mono (by omega)

theorem onSide_normSquared (finite : v.isFinite = true) :
    OnSide .positive v.normSquared.unpack := by
  obtain ⟨x, y, z⟩ := isFinite_iff.mp finite
  have two := Single.onSide_add (Single.onSide_mul_self x) (Single.onSide_mul_self y)
  exact Single.onSide_add two (Single.onSide_mul_self z)

theorem IsZero.normSquared (h : v.IsZero) : Sensorium.IsZero v.normSquared.unpack := by
  obtain ⟨x, y, z⟩ := isFinite_iff.mp h.isFinite
  have two := Single.isZero_add (Single.isZero_mul h.x x) (Single.isZero_mul h.y y)
  exact Single.isZero_add two (Single.isZero_mul h.z z)

theorem IsZero.norm_lt (h : v.IsZero) (positive : Positive s.unpack) : v.norm.lt s = true :=
  Single.lt_of_isZero (Single.isZero_sqrt h.normSquared) positive

/-- A vector of a length below something is finite. -/
theorem isFinite_of_norm_lt (h : v.norm.lt s = true) : v.isFinite = true := by
  obtain ⟨two, z⟩ := Single.isFinite_of_add (Single.isFinite_of_sqrt_lt h)
  obtain ⟨x, y⟩ := Single.isFinite_of_add two
  exact isFinite_iff.mpr ⟨(Single.isFinite_of_mul x).1, (Single.isFinite_of_mul y).1,
    (Single.isFinite_of_mul z).1⟩

end Vec3

/-! ## Rotations -/

namespace Rotation

/-- Every component is below `2 ^ k` in size. -/
structure Within (k : Int) (q : Rotation) : Prop where
  w : Sensorium.Within k q.w.unpack
  i : Sensorium.Within k q.i.unpack
  j : Sensorium.Within k q.j.unpack
  k : Sensorium.Within k q.k.unpack

/-- Every component is level with its counterpart. -/
structure Level (a b : Rotation) : Prop where
  w : Sensorium.Level a.w.unpack b.w.unpack
  i : Sensorium.Level a.i.unpack b.i.unpack
  j : Sensorium.Level a.j.unpack b.j.unpack
  k : Sensorium.Level a.k.unpack b.k.unpack

variable {a b c q : Rotation} {axis : Vec3 Single} {angle : Single} {m n : Int}

theorem Level.refl (q : Rotation) : q.Level q := ⟨.refl _, .refl _, .refl _, .refl _⟩

theorem Level.symm (h : a.Level b) : b.Level a := ⟨h.w.symm, h.i.symm, h.j.symm, h.k.symm⟩

theorem Level.trans (hab : a.Level b) (hbc : b.Level c) : a.Level c :=
  ⟨hab.w.trans hbc.w, hab.i.trans hbc.i, hab.j.trans hbc.j, hab.k.trans hbc.k⟩

theorem Level.within (h : a.Level b) (bound : b.Within m) : a.Within m :=
  ⟨bound.w.of_level h.w, bound.i.of_level h.i, bound.j.of_level h.j, bound.k.of_level h.k⟩

theorem Within.mono (h : q.Within m) (le : m ≤ n) : q.Within n :=
  ⟨h.w.mono le, h.i.mono le, h.j.mono le, h.k.mono le⟩

theorem Within.imaginary (h : q.Within m) : q.imaginary.Within m := ⟨h.i, h.j, h.k⟩

theorem Within.inverse (h : q.Within m) : q.inverse.Within m :=
  ⟨h.w, Single.within_neg h.i, Single.within_neg h.j, Single.within_neg h.k⟩

theorem within_mul (ha : a.Within m) (hb : b.Within n) (low : -149 ≤ m + n)
    (fits : m + n + 7 ≤ 128) : (a * b).Within (m + n + 7) := by
  have product {x y : Single} (hx : Sensorium.Within m x.unpack)
      (hy : Sensorium.Within n y.unpack) : Sensorium.Within (m + n + 1) (x * y).unpack :=
    Single.within_mul hx hy low (by omega)
  have plus {k : Int} {x y : Single} (hx : Sensorium.Within (m + n + k) x.unpack)
      (hy : Sensorium.Within (m + n + 1) y.unpack) (le : 1 ≤ k) (most : k ≤ 5) :
      Sensorium.Within (m + n + (k + 2)) (x + y).unpack :=
    (Single.within_add hx (hy.mono (by omega)) (by omega) (by omega)).mono (by omega)
  have minus {k : Int} {x y : Single} (hx : Sensorium.Within (m + n + k) x.unpack)
      (hy : Sensorium.Within (m + n + 1) y.unpack) (le : 1 ≤ k) (most : k ≤ 5) :
      Sensorium.Within (m + n + (k + 2)) (x - y).unpack :=
    (Single.within_sub hx (hy.mono (by omega)) (by omega) (by omega)).mono (by omega)
  -- Every component is a sum of four products, of which the last two have room to spare.
  refine ⟨?_, ?_, ?_, ?_⟩
  · have two := minus (product ha.w hb.w) (product ha.i hb.i) (by decide) (by decide)
    have three := minus two (product ha.j hb.j) (by decide) (by decide)
    exact minus three (product ha.k hb.k) (by decide) (by decide)
  · have two := plus (product ha.w hb.i) (product ha.i hb.w) (by decide) (by decide)
    have three := plus two (product ha.j hb.k) (by decide) (by decide)
    exact minus three (product ha.k hb.j) (by decide) (by decide)
  · have two := minus (product ha.w hb.j) (product ha.i hb.k) (by decide) (by decide)
    have three := plus two (product ha.j hb.w) (by decide) (by decide)
    exact plus three (product ha.k hb.i) (by decide) (by decide)
  · have two := plus (product ha.w hb.k) (product ha.i hb.j) (by decide) (by decide)
    have three := minus two (product ha.j hb.i) (by decide) (by decide)
    exact plus three (product ha.k hb.w) (by decide) (by decide)

/-! ### Axis and angle -/

/-- The angle of a rotation with a finite vector part that is not too long is finite. -/
theorem isFinite_angle (h : q.Within 50) : q.angle.isFinite = true := by
  have length := Vec3.within_normSquared h.imaginary (by decide) (by decide)
  have norm := Single.within_sqrt (Vec3.onSide_normSquared h.imaginary.isFinite)
    (Single.isFinite_of_within length)
  have real : q.w.abs.isFinite = true := Single.isFinite_abs (Single.isFinite_of_within h.w)
  have half := Single.within_atan2 (Single.isFinite_of_within norm) real
  exact Single.isFinite_of_within
    (Single.within_mul half Single.within_two (by decide) (by decide))

theorem isFinite_axisAngle (h : q.Within 50) (moves : q.axisAngle = some (axis, angle)) :
    axis.isFinite = true ∧ angle.isFinite = true := by
  have direction : (if q.w.lt 0 || q.w.isNaN then -q.imaginary else q.imaginary).Within 50 := by
    split
    · exact h.imaginary.neg
    · exact h.imaginary
  simp only [axisAngle] at moves
  generalize (if q.w.lt 0 || q.w.isNaN then -q.imaginary else q.imaginary) = v at *
  split at moves
  · rename_i above
    cases moves
    have length := Vec3.within_normSquared direction (by decide) (by decide)
    have root := Single.atLeast_sqrt (Single.positive_of_lt above)
      (Single.isFinite_of_within length)
    exact ⟨(Vec3.within_div direction root (by decide) (by decide)).isFinite, isFinite_angle h⟩
  · cases moves

/-- A turn by no angle changes nothing. -/
theorem level_ofAxisAngle_mul (finite : axis.isFinite = true) (none : IsZero angle.unpack)
    (h : q.Within m) : (ofAxisAngle axis angle * q).Level q := by
  have half : IsZero (angle / 2).unpack := by
    apply Single.isZero_div none (Single.isFinite_of_within Single.within_two)
    rintro ⟨_, ⟨⟩⟩
  have real : (ofAxisAngle axis angle).w = 1 := Single.cos_of_isZero half
  have still : (ofAxisAngle axis angle).imaginary.IsZero :=
    Vec3.isZero_mul finite (Single.isZero_sin half)
  generalize ofAxisAngle axis angle = turn at real still
  have kept {x : Single} (hx : Sensorium.Within m x.unpack) :
      Sensorium.Level (turn.w * x).unpack x.unpack := by
    rw [real]
    exact Single.level_one_mul (Single.isFinite_of_within hx)
  have gone {t x : Single} (zero : IsZero t.unpack) (hx : Sensorium.Within m x.unpack) :
      IsZero (t * x).unpack :=
    Single.isZero_mul zero (Single.isFinite_of_within hx)
  have plus {s z x : Single} (hx : Sensorium.Within m x.unpack) (zero : IsZero z.unpack)
      (level : Sensorium.Level s.unpack x.unpack) : Sensorium.Level (s + z).unpack x.unpack :=
    (Single.level_add_zero (Single.isFinite_of_level level hx) zero).trans level
  have minus {s z x : Single} (hx : Sensorium.Within m x.unpack) (zero : IsZero z.unpack)
      (level : Sensorium.Level s.unpack x.unpack) : Sensorium.Level (s - z).unpack x.unpack :=
    (Single.level_sub_zero (Single.isFinite_of_level level hx) zero).trans level
  obtain ⟨i, j, k⟩ := still
  refine ⟨?_, ?_, ?_, ?_⟩
  · have two := minus h.w (gone i h.i) (kept h.w)
    exact minus h.w (gone k h.k) (minus h.w (gone j h.j) two)
  · have two := plus h.i (gone i h.w) (kept h.i)
    exact minus h.i (gone k h.j) (plus h.i (gone j h.k) two)
  · have two := minus h.j (gone i h.k) (kept h.j)
    exact plus h.j (gone k h.i) (plus h.j (gone j h.w) two)
  · have two := plus h.k (gone i h.j) (kept h.k)
    exact plus h.k (gone k h.w) (minus h.k (gone j h.i) two)

/-- Without a vector part a rotation moves nothing. -/
theorem axisAngle_of_isZero (still : q.imaginary.IsZero) : q.axisAngle = none := by
  have direction : (if q.w.lt 0 || q.w.isNaN then -q.imaginary else q.imaginary).IsZero := by
    split
    · exact still.neg
    · exact still
  simp only [axisAngle]
  generalize (if q.w.lt 0 || q.w.isNaN then -q.imaginary else q.imaginary) = v at *
  obtain ⟨sign, zero⟩ := direction.normSquared
  apply if_neg
  rw [Single.lt_eq, zero]
  exact nofun

theorem isZero_angle (still : q.imaginary.IsZero) (number : q.w.unpack ≠ .notANumber) :
    IsZero q.angle.unpack := by
  have norm := Single.isZero_sqrt still.normSquared
  exact Single.isZero_mul (Single.isZero_atan2_abs norm number)
    (Single.isFinite_of_within Single.within_two)

/-- The real part of a rotation by its own inverse is a sum of squares. -/
theorem quotient_self_number (finite : (q * q.inverse).imaginary.isFinite = true) :
    (q * q.inverse).w.unpack ≠ .notANumber := by
  obtain ⟨first, -, -⟩ := Vec3.isFinite_iff.mp finite
  obtain ⟨rest, kj⟩ := Single.isFinite_of_sub first
  obtain ⟨two, jk⟩ := Single.isFinite_of_add rest
  obtain ⟨wi, iw⟩ := Single.isFinite_of_add two
  obtain ⟨i, w⟩ := Single.isFinite_of_mul iw
  obtain ⟨k, -⟩ := Single.isFinite_of_mul kj
  obtain ⟨j, -⟩ := Single.isFinite_of_mul jk
  have one := Single.onSide_sub (Single.onSide_mul_self w) (Single.onSide_mul_neg i)
  have two := Single.onSide_sub one (Single.onSide_mul_neg j)
  have three := Single.onSide_sub two (Single.onSide_mul_neg k)
  exact three.ne_notANumber

end Rotation

end Sensorium
