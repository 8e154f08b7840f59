import Sensorium.Proofs.Geometry.Turns

/-!
# Axes and angles

The axis of a rotation has components of moderate size, however long or short its vector part is:
the root of a sum of squares is not below half of any of the numbers that were squared, unless their
squares are too small to be told apart, and then they are below the least root. Sine and cosine are
of moderate size too, and neither is a number for an angle that is not finite. So a rotation that is
on its way between two moderate ones is moderate as soon as it is finite.
-/

namespace Sensorium

open Float.Model (Format UnpackedFloat totalExponent)
open Float.Model.UnpackedFloat

/-! ## Sine and cosine -/

namespace Elementary

variable {format : Format} {u : UnpackedFloat}

theorem foldr_sub_le (start : Nat) (f : Nat → Nat → Nat) (terms : List Nat) :
    terms.foldr (fun n tail => start - f n tail) start ≤ start := by
  cases terms with
  | nil => rw [List.foldr_nil]
  | cons n terms =>
    rw [List.foldr_cons]
    exact Nat.sub_le start _

theorem circularSeries_le (start square : Nat) : circularSeries start square ≤ one := by
  rw [circularSeries]
  exact foldr_sub_le one _ _

theorem firstQuarter_le (angle : Nat) :
    (firstQuarter angle).1 ≤ one ∧ (firstQuarter angle).2 ≤ one := by
  have quarter := halfPi_le
  unfold firstQuarter
  split
  · have small : angle ≤ one := by omega
    exact ⟨(mul_le small).trans (circularSeries_le _ _), circularSeries_le _ _⟩
  · have small : halfPi - angle ≤ one := by omega
    exact ⟨circularSeries_le _ _, (mul_le small).trans (circularSeries_le _ _)⟩

theorem sineOf_le (mantissa : Nat) (exponent : Int) : (sineOf mantissa exponent).2 ≤ one := by
  rw [sineOf]
  obtain ⟨turns, rest⟩ := quarterTurns mantissa exponent
  obtain ⟨sine, cosine⟩ := firstQuarter_le rest
  simp only
  split <;> assumption

theorem cosineOf_le (mantissa : Nat) (exponent : Int) : (cosineOf mantissa exponent).2 ≤ one := by
  rw [cosineOf]
  obtain ⟨turns, rest⟩ := quarterTurns mantissa exponent
  obtain ⟨sine, cosine⟩ := firstQuarter_le rest
  simp only
  split <;> assumption

/-- A fixed-point number that is not above one. -/
theorem bounded_ofFixed_le_one {value : Nat} (format : Format) (sign : Sign)
    (small : value ≤ one) : Bounded format 7 (ofFixed format sign value) :=
  bounded_ofFixed format sign (Nat.le_trans small (Nat.le_mul_of_pos_left one (by decide)))

theorem bounded_sin (form : Canonical format u) (finite : u.isFinite = true) :
    Bounded format 7 (sin format u) := by
  cases u with
  | infinity _ | notANumber => cases finite
  | zero sign => exact ⟨trivial, trivial⟩
  | finite sign mantissa exponent positive =>
    simp only [sin]
    split
    · rename_i tiny
      refine ⟨form, ?_⟩
      change (mantissa.log2 : Int) + exponent < -30 at tiny
      change (mantissa.log2 : Int) + 1 + exponent ≤ 7
      omega
    · exact bounded_ofFixed_le_one format _ (sineOf_le mantissa exponent)

theorem bounded_cos (finite : u.isFinite = true) : Bounded format 7 (cos format u) := by
  have one : Bounded format 2 (UnpackedFloat.round format .positive 1 0) :=
    bounded_exp_zero format .positive
  cases u with
  | infinity _ | notANumber => cases finite
  | zero sign => exact one.mono (by decide)
  | finite sign mantissa exponent positive =>
    simp only [cos]
    split
    · exact one.mono (by decide)
    · exact bounded_ofFixed_le_one format _ (cosineOf_le mantissa exponent)

end Elementary

namespace Single

variable {x y : Single}

theorem within_sin (finite : x.isFinite = true) : Within 7 x.sin.unpack := by
  rw [isFinite_eq] at finite
  have size : Bounded .binary32 7 _ := Elementary.bounded_sin x.canonical finite
  exact size.within_packed (by decide) (by decide)

theorem within_cos (finite : x.isFinite = true) : Within 7 x.cos.unpack := by
  rw [isFinite_eq] at finite
  have size : Bounded .binary32 7 _ := Elementary.bounded_cos finite
  exact size.within_packed (by decide) (by decide)

/-- Only finite angles have a cosine. -/
theorem isFinite_of_cos (h : x.cos.isFinite = true) : x.isFinite = true := by
  rw [isFinite_eq] at h ⊢
  have value : (Elementary.cos .binary32 x.unpack).isFinite = true := isFinite_of_packed h
  cases form : x.unpack with
  | zero _ | finite _ _ _ _ => rfl
  | infinity _ | notANumber =>
    rw [form] at value
    cases value

end Single

/-! ## Numbers that are not small -/

section

variable {format : Format} {u v : UnpackedFloat} {k : Int}

theorem add_swap (format : Format) (u v : UnpackedFloat) :
    UnpackedFloat.add format u v = UnpackedFloat.add format v u := by
  cases u with
  | notANumber => cases v <;> rfl
  | infinity s =>
    cases v with
    | infinity t => cases s <;> cases t <;> rfl
    | _ => rfl
  | zero s =>
    cases v with
    | zero t => cases s <;> cases t <;> rfl
    | _ => rfl
  | finite s m e hm =>
    cases v with
    | finite t n f hn => simp only [UnpackedFloat.add, Int.min_comm, Int.add_comm]
    | _ => rfl

/-- A number that is not small is not made so by adding one that is not negative. -/
theorem atLeast_add (hu : AtLeast k u) (upper : OnSide .positive u) (side : OnSide .positive v)
    (finite : v.isFinite = true) (big : format.minExponent < k) :
    AtLeast k (UnpackedFloat.add format u v) := by
  cases u with
  | infinity _ | notANumber | zero _ => cases hu
  | finite s m e hm =>
    cases upper
    cases v with
    | infinity _ | notANumber => cases finite
    | zero _ => exact hu
    | finite t n f hn =>
      cases side
      have size := totalExponent_shiftLeft hm e (e - min e f).toNat
      have place : e - ((e - min e f).toNat : Int) = min e f := by omega
      have shifted : 0 < m <<< (e - min e f).toNat := by
        rw [Nat.shiftLeft_eq]
        exact Nat.mul_pos hm (Nat.two_pow_pos _)
      have sum : UnpackedFloat.add format (.finite .positive m e hm) (.finite .positive n f hn) =
          UnpackedFloat.normalize format
            ((m <<< (e - min e f).toNat + n <<< (f - min e f).toNat : Nat) : Int) (min e f)
            .positive := rfl
      rw [place] at size
      generalize m <<< (e - min e f).toNat = first at *
      generalize n <<< (f - min e f).toNat = second at *
      have positive : 0 < first + second := by omega
      have rounded : Rounded format .positive (totalExponent (first + second) (min e f)) _ :=
        rounded_round .positive positive
      have large : k ≤ totalExponent (first + second) (min e f) := by
        have digits : first.log2 ≤ (first + second).log2 := log2_le_log2 (Nat.le_add_right _ _)
        change k ≤ totalExponent m e at hu
        rw [← size] at hu
        simp only [totalExponent] at hu ⊢
        omega
      rw [sum, UnpackedFloat.normalize, Int.compare_eq_gt.mpr (by omega)]
      simp only [Int.toNat_natCast]
      exact (rounded.above (lt_of_lt_of_le big large)).mono large

theorem atLeast_mul_self (form : Canonical format u) (hu : AtLeast k u)
    (big : format.minExponent < 2 * k - 1) : AtLeast (2 * k - 1) (UnpackedFloat.mul format u u) := by
  cases u with
  | infinity _ | notANumber | zero _ => cases hu
  | finite s m e hm =>
    have rounded := rounded_roundWithAccuracy (s * s) .exact (Nat.mul_pos hm hm)
      (enough_mul form form)
    have large : 2 * k - 1 ≤ totalExponent (m * m) (e + e) := by
      have digits := (log2_mul_bounds hm hm).1
      change k ≤ totalExponent m e at hu
      simp only [totalExponent] at hu ⊢
      omega
    exact (rounded.above (lt_of_lt_of_le big large)).mono large

end

namespace Single

variable {x y : Single} {j k : Int}

theorem atLeast_add (hx : AtLeast k x.unpack) (upper : OnSide .positive x.unpack)
    (side : OnSide .positive y.unpack) (bx : Within j x.unpack) (bound : Within j y.unpack)
    (fits : j + 2 ≤ 128) (low : -149 ≤ j + 1) (big : -149 < k) : AtLeast k (x + y).unpack := by
  have sum : Bounded .binary32 _ _ := bounded_add x.canonical y.canonical bx bound low
  rw [unpack_add, sum.unpack_pack (by decide) fits]
  exact Sensorium.atLeast_add hx upper side bound.isFinite big

theorem atLeast_add_right (hy : AtLeast k y.unpack) (side : OnSide .positive x.unpack)
    (upper : OnSide .positive y.unpack) (bx : Within j x.unpack) (bound : Within j y.unpack)
    (fits : j + 2 ≤ 128) (low : -149 ≤ j + 1) (big : -149 < k) : AtLeast k (x + y).unpack := by
  have swapped := atLeast_add hy upper side bound bx fits low big
  rw [unpack_add] at swapped ⊢
  rw [add_swap]
  exact swapped

theorem atLeast_mul_self (hx : AtLeast k x.unpack) (bx : Within j x.unpack)
    (fits : j + j + 1 ≤ 128) (low : -149 ≤ j + j) (big : -149 < 2 * k - 1) :
    AtLeast (2 * k - 1) (x * x).unpack := by
  have square : Bounded .binary32 _ _ := bounded_mul x.canonical x.canonical bx bx low
  rw [unpack_mul, square.unpack_pack (by decide) fits]
  exact Sensorium.atLeast_mul_self x.canonical hx big

/-- The root of a number that is not small. -/
theorem atLeast_sqrt_of_atLeast (hx : AtLeast (2 * k - 1) x.unpack)
    (upper : OnSide .positive x.unpack) (big : -149 < k) : AtLeast k x.sqrt.unpack := by
  have stored := x.stored_unpack
  rw [unpack_sqrt]
  cases form : x.unpack with
  | infinity _ | notANumber | zero _ =>
    rw [form] at hx
    cases hx
  | finite sign mantissa exponent nonzero =>
    rw [form] at hx upper stored
    cases upper
    obtain ⟨narrow, -, -, below⟩ := stored
    change mantissa < 2 ^ 24 at narrow
    change exponent ≤ 104 at below
    have digits : mantissa.log2 < 24 := (Nat.log2_lt (Nat.ne_of_gt nonzero)).mpr narrow
    have rounded : Rounded .binary32 .positive ((totalExponent mantissa exponent + 1) / 2) _ :=
      rounded_sqrt nonzero
    change 2 * k - 1 ≤ totalExponent mantissa exponent at hx
    have large : k ≤ (totalExponent mantissa exponent + 1) / 2 := by omega
    have small : (totalExponent mantissa exponent + 1) / 2 ≤ 65 := by
      rw [totalExponent]
      omega
    have root : Bounded .binary32 (65 + 1) _ := rounded.bounded small (by decide)
    rw [root.unpack_pack (by decide) (by decide)]
    exact (rounded.above (lt_of_lt_of_le big large)).mono large

/-- A number is not far above the root of what is not far below its square. Squares below the
    least number may be lost, but no root is so small. -/
theorem within_div_sqrt (finite : x.isFinite = true) (positive : Positive y.unpack)
    (whole : y.isFinite = true)
    (square : ∀ k, -73 ≤ k → AtLeast k x.unpack → AtLeast (2 * k - 1) y.unpack) :
    Within 2 (x / y.sqrt).unpack := by
  have least := atLeast_sqrt positive whole
  by_cases small : Within (-74) x.unpack
  · exact within_div small least (by decide) (by decide)
  · rw [isFinite_eq] at finite
    rcases finite_cases finite with zero | ⟨sign, mantissa, exponent, nonzero, form⟩
    · exact absurd zero.within small
    · obtain ⟨k, size⟩ : ∃ k, k = totalExponent mantissa exponent := ⟨_, rfl⟩
      have within : Within k x.unpack := by
        rw [form]
        exact size.symm.le
      have above : AtLeast k x.unpack := by
        rw [form]
        exact size.le
      have large : -73 ≤ k := by
        by_contra below
        exact small (within.mono (by omega))
      have root := atLeast_sqrt_of_atLeast (square k large above) positive.onSide (by omega)
      have bound := within_div within root (by omega) (by omega)
      exact bound.mono (by omega)

end Single

/-! ## Axes -/

namespace Vec3

variable {v : Vec3 Single}

/-- A vector over its length has components of moderate size. -/
theorem within_direction (h : v.Within 50) (positive : Single.lt 0 v.normSquared = true) :
    (v / v.normSquared.sqrt).Within 2 := by
  obtain ⟨x, y, z⟩ := isFinite_iff.mp h.isFinite
  have whole := Single.isFinite_of_within (within_normSquared h (by decide) (by decide))
  have above := Single.positive_of_lt positive
  have square {s : Single} (hs : Sensorium.Within 50 s.unpack) :
      Sensorium.Within 101 (s * s).unpack :=
    Single.within_mul hs hs (by decide) (by decide)
  have two := Single.within_add (square h.x) (square h.y) (by decide) (by decide)
  have sideTwo := Single.onSide_add (Single.onSide_mul_self x) (Single.onSide_mul_self y)
  have large {s : Single} {k : Int} (hs : Sensorium.Within 50 s.unpack) (big : -73 ≤ k)
      (atLeast : AtLeast k s.unpack) : AtLeast (2 * k - 1) (s * s).unpack :=
    Single.atLeast_mul_self atLeast hs (by decide) (by decide) (by omega)
  refine ⟨Single.within_div_sqrt x above whole ?_, Single.within_div_sqrt y above whole ?_,
    Single.within_div_sqrt z above whole ?_⟩
  · intro k big atLeast
    have first := Single.atLeast_add (large h.x big atLeast) (Single.onSide_mul_self x)
      (Single.onSide_mul_self y) (square h.x) (square h.y) (by decide) (by decide) (by omega)
    exact Single.atLeast_add first sideTwo (Single.onSide_mul_self z) two
      ((square h.z).mono (by decide)) (by decide) (by decide) (by omega)
  · intro k big atLeast
    have second := Single.atLeast_add_right (large h.y big atLeast) (Single.onSide_mul_self x)
      (Single.onSide_mul_self y) (square h.x) (square h.y) (by decide) (by decide) (by omega)
    exact Single.atLeast_add second sideTwo (Single.onSide_mul_self z) two
      ((square h.z).mono (by decide)) (by decide) (by decide) (by omega)
  · intro k big atLeast
    exact Single.atLeast_add_right (large h.z big atLeast) sideTwo (Single.onSide_mul_self z) two
      ((square h.z).mono (by decide)) (by decide) (by decide) (by omega)

end Vec3

namespace Rotation

def isFinite (q : Rotation) : Bool := q.w.isFinite && q.i.isFinite && q.j.isFinite && q.k.isFinite

variable {q r : Rotation} {axis : Vec3 Single} {angle : Single} {m : Int}

theorem within_axis (h : q.Within 50) (moves : q.axisAngle = some (axis, angle)) :
    axis.Within 2 := by
  have direction : (if q.w.lt 0 || q.w.isNaN then -q.imaginary else q.imaginary).Within 50 := by
    split
    · exact h.imaginary.neg
    · exact h.imaginary
  simp only [axisAngle] at moves
  generalize (if q.w.lt 0 || q.w.isNaN then -q.imaginary else q.imaginary) = v at *
  split at moves
  · rename_i above
    cases moves
    exact Vec3.within_direction direction above
  · cases moves

theorem within_ofAxisAngle (straight : axis.Within 2) (finite : (angle / 2).isFinite = true) :
    (ofAxisAngle axis angle).Within 10 := by
  have sine := Single.within_sin finite
  have product {s : Single} (hs : Sensorium.Within 2 s.unpack) :
      Sensorium.Within 10 (s * (angle / 2).sin).unpack :=
    Single.within_mul hs sine (by decide) (by decide)
  exact ⟨(Single.within_cos finite).mono (by decide), product straight.x, product straight.y,
    product straight.z⟩

/-- A turn of a rotation has a finite result only for a finite angle. -/
theorem isFinite_half_of_mul (h : (ofAxisAngle axis angle * r).isFinite = true) :
    (angle / 2).isFinite = true := by
  simp only [Rotation.isFinite, Bool.and_eq_true] at h
  obtain ⟨⟨⟨w, -⟩, -⟩, -⟩ := h
  have three := (Single.isFinite_of_sub w).1
  have two := (Single.isFinite_of_sub three).1
  have product := (Single.isFinite_of_sub two).1
  exact Single.isFinite_of_cos (Single.isFinite_of_mul product).1

/-- So a turn of a moderate rotation is moderate if it is finite. -/
theorem within_turned (straight : axis.Within 2) (h : r.Within 2)
    (finite : (ofAxisAngle axis angle * r).isFinite = true) :
    (ofAxisAngle axis angle * r).Within 19 :=
  within_mul (within_ofAxisAngle straight (isFinite_half_of_mul finite)) h (by decide) (by decide)

end Rotation

end Sensorium
