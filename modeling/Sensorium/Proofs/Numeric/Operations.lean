import Sensorium.Proofs.Numeric.Order

/-!
# Bounded operations

What `Magnitude` and `Order` say of numbers that are rounded to a format, said of the operations
of single and double precision, which also pack their results. As long as the bounds of the
operands leave room for the result, packing loses nothing.
-/

namespace Sensorium

open Float.Model (Format UnpackedFloat totalExponent)
open Float.Model.UnpackedFloat

theorem Bounded.unpack_pack {format : Format} {k : Int} {u : UnpackedFloat}
    (h : Bounded format k u) (wide : 0 < format.exponentBias)
    (fits : k ≤ format.exponentBias + 1) :
    UnpackedFloat.unpack format (UnpackedFloat.pack format u) = u :=
  Sensorium.unpack_pack (h.form.stored wide h.within fits)

theorem Bounded.within_packed {format : Format} {k : Int} {u : UnpackedFloat}
    (h : Bounded format k u) (wide : 0 < format.exponentBias)
    (fits : k ≤ format.exponentBias + 1) :
    Within k (UnpackedFloat.unpack format (UnpackedFloat.pack format u)) := by
  rw [h.unpack_pack wide fits]
  exact h.within

/-! ## The sign bit -/

/-- The number of the same size with another sign. -/
def mapSign (f : Sign → Sign) : UnpackedFloat → UnpackedFloat
  | .zero sign => .zero (f sign)
  | .finite sign mantissa exponent positive => .finite (f sign) mantissa exponent positive
  | .infinity sign => .infinity (f sign)
  | .notANumber => .notANumber

section

variable {format : Format} (b c : BitVec format.numBits)

theorem unpackMantissa_xor : unpackMantissa (b ^^^ c) = unpackMantissa b ^^^ unpackMantissa c := by
  ext i hi
  simp [unpackMantissa]

theorem unpackExponent_xor : unpackExponent (b ^^^ c) = unpackExponent b ^^^ unpackExponent c := by
  ext i hi
  simp [unpackExponent]

theorem unpackSign_xor : unpackSign (b ^^^ c) = unpackSign b ^^^ unpackSign c := by
  ext i hi
  simp [unpackSign]

theorem unpackMantissa_and : unpackMantissa (b &&& c) = unpackMantissa b &&& unpackMantissa c := by
  ext i hi
  simp [unpackMantissa]

theorem unpackExponent_and : unpackExponent (b &&& c) = unpackExponent b &&& unpackExponent c := by
  ext i hi
  simp [unpackExponent]

theorem unpackSign_and : unpackSign (b &&& c) = unpackSign b &&& unpackSign c := by
  ext i hi
  simp [unpackSign]

variable {b c}

/-- Bits that differ in the sign bit only are numbers that differ in their signs only. -/
theorem unpack_eq_mapSign {f : Sign → Sign} (mantissa : unpackMantissa b = unpackMantissa c)
    (exponent : unpackExponent b = unpackExponent c)
    (sign : Sign.ofBitVec (unpackSign b) = f (Sign.ofBitVec (unpackSign c))) :
    UnpackedFloat.unpack format b = mapSign f (UnpackedFloat.unpack format c) := by
  simp only [UnpackedFloat.unpack, mantissa, exponent, sign]
  split
  · split <;> rfl
  · split
    · split <;> rfl
    · rfl

end

/-! ## Single precision -/

namespace Single

variable {j k : Int} {x y : Single}

theorem canonical (x : Single) : Canonical .binary32 x.unpack := x.stored_unpack.canonical

theorem unpack_mul (x y : Single) :
    (x * y).unpack = UnpackedFloat.unpack .binary32
      (UnpackedFloat.pack .binary32 (UnpackedFloat.mul .binary32 x.unpack y.unpack)) := by
  rw [← x.unpack_toFloat32, ← y.unpack_toFloat32]
  rfl

theorem unpack_div (x y : Single) :
    (x / y).unpack = UnpackedFloat.unpack .binary32
      (UnpackedFloat.pack .binary32 (UnpackedFloat.div .binary32 x.unpack y.unpack)) := by
  rw [← x.unpack_toFloat32, ← y.unpack_toFloat32]
  rfl

theorem unpack_sqrt (x : Single) :
    x.sqrt.unpack = UnpackedFloat.unpack .binary32
      (UnpackedFloat.pack .binary32 (UnpackedFloat.sqrt .binary32 x.unpack)) := by
  rw [← x.unpack_toFloat32]
  rfl

theorem unpack_neg (x : Single) : (-x).unpack = x.unpack.neg := by
  have flipped : UnpackedFloat.unpack .binary32 (x.bits.toBitVec ^^^ 0x80000000#32) =
      mapSign (- ·) x.unpack := by
    apply unpack_eq_mapSign
    · rw [unpackMantissa_xor]
      exact BitVec.xor_zero
    · rw [unpackExponent_xor]
      exact BitVec.xor_zero
    · rw [unpackSign_xor]
      rcases (@unpackSign .binary32 x.bits.toBitVec).eq_zero_or_eq_one with zero | one
      · rw [zero]
        rfl
      · rw [one]
        rfl
  exact flipped.trans (by cases x.unpack <;> rfl)

theorem unpack_abs (x : Single) : x.abs.unpack = x.unpack.abs := by
  have cleared : UnpackedFloat.unpack .binary32 (x.bits.toBitVec &&& 0x7fffffff#32) =
      mapSign (fun _ => .positive) x.unpack := by
    apply unpack_eq_mapSign
    · rw [unpackMantissa_and]
      exact BitVec.and_allOnes
    · rw [unpackExponent_and]
      exact BitVec.and_allOnes
    · rw [unpackSign_and]
      exact congrArg Sign.ofBitVec BitVec.and_zero
  exact cleared.trans (by cases x.unpack <;> rfl)

theorem lt_eq (x y : Single) : x.lt y = x.unpack.lt y.unpack := by
  rw [← x.unpack_toFloat32, ← y.unpack_toFloat32, Bool.eq_iff_iff]
  constructor
  · intro less
    exact of_decide_eq_true (of_decide_eq_true less)
  · intro less
    exact decide_eq_true (decide_eq_true less)

/-- What is above zero is positive. -/
theorem positive_of_lt (above : Single.lt 0 x = true) : Positive x.unpack := by
  rw [lt_eq] at above
  exact IsZero.positive_of_lt ⟨.positive, rfl⟩ above

theorem lt_of_isZero (zero : IsZero x.unpack) (positive : Positive y.unpack) :
    x.lt y = true := by
  rw [lt_eq]
  exact zero.lt positive

/-! ### Operands of finite results -/

theorem isFinite_of_add (h : (x + y).isFinite = true) :
    x.isFinite = true ∧ y.isFinite = true := by
  rw [isFinite_eq, unpack_add] at h
  rw [isFinite_eq, isFinite_eq]
  exact Sensorium.isFinite_of_add (isFinite_of_packed h)

theorem isFinite_of_sub (h : (x - y).isFinite = true) :
    x.isFinite = true ∧ y.isFinite = true := by
  rw [isFinite_eq, unpack_sub] at h
  rw [isFinite_eq, isFinite_eq]
  exact Sensorium.isFinite_of_sub (isFinite_of_packed h)

theorem isFinite_of_mul (h : (x * y).isFinite = true) :
    x.isFinite = true ∧ y.isFinite = true := by
  rw [isFinite_eq, unpack_mul] at h
  rw [isFinite_eq, isFinite_eq]
  exact Sensorium.isFinite_of_mul (isFinite_of_packed h)

/-- What is smaller in size than something is finite. -/
theorem isFinite_of_abs_lt (h : x.abs.lt y = true) : x.isFinite = true := by
  rw [lt_eq, unpack_abs] at h
  rw [isFinite_eq]
  cases form : x.unpack with
  | zero _ | finite _ _ _ _ => rfl
  | infinity _ =>
    rw [form] at h
    have finite : (UnpackedFloat.infinity .positive).isFinite = true := isFinite_of_lt h rfl
    cases finite
  | notANumber =>
    rw [form] at h
    cases h

theorem isFinite_abs (finite : x.isFinite = true) : x.abs.isFinite = true := by
  rw [isFinite_eq] at finite ⊢
  rw [unpack_abs]
  rcases finite_cases finite with ⟨_, form⟩ | ⟨_, _, _, _, form⟩ <;> rw [form] <;> rfl

theorem isFinite_neg : (-x).isFinite = x.isFinite := by
  rw [isFinite_eq, isFinite_eq, unpack_neg, Sensorium.isFinite_neg]

/-- What has a root below something is finite. -/
theorem isFinite_of_sqrt_lt (h : x.sqrt.lt y = true) : x.isFinite = true := by
  rw [lt_eq, unpack_sqrt] at h
  rw [isFinite_eq]
  cases form : x.unpack with
  | zero _ | finite _ _ _ _ => rfl
  | infinity sign =>
    rw [form] at h
    cases sign with
    | positive => exact isFinite_of_lt h rfl
    | negative => cases h
  | notANumber =>
    rw [form] at h
    cases h

/-! ### Zeros -/

theorem eqv_zero (zero : IsZero x.unpack) : x.eqv 0 = true :=
  eqv_of_level (.inr ⟨zero, ⟨.positive, rfl⟩⟩) (by decide)

theorem isZero_neg (zero : IsZero x.unpack) : IsZero (-x).unpack := by
  obtain ⟨sign, zero⟩ := zero
  rw [unpack_neg, zero]
  exact ⟨-sign, rfl⟩

theorem isZero_abs (zero : IsZero x.unpack) : IsZero x.abs.unpack := by
  obtain ⟨sign, zero⟩ := zero
  rw [unpack_abs, zero]
  exact ⟨.positive, rfl⟩

theorem isZero_add (hx : IsZero x.unpack) (hy : IsZero y.unpack) : IsZero (x + y).unpack := by
  rw [unpack_add]
  exact (Sensorium.isZero_add hx hy).unpack_pack

/-- What is level has no difference. -/
theorem isZero_sub_of_level (h : Level x.unpack y.unpack) (finite : y.isFinite = true) :
    IsZero (x - y).unpack := by
  rw [isFinite_eq] at finite
  rw [unpack_sub]
  rcases h with same | ⟨hx, hy⟩
  · rw [same]
    exact (Sensorium.isZero_sub_self finite).unpack_pack
  · exact (Sensorium.isZero_sub hx hy).unpack_pack

theorem isZero_mul (zero : IsZero x.unpack) (finite : y.isFinite = true) :
    IsZero (x * y).unpack := by
  rw [isFinite_eq] at finite
  rw [unpack_mul]
  exact (Sensorium.isZero_mul zero finite).unpack_pack

theorem isZero_mul_right (finite : x.isFinite = true) (zero : IsZero y.unpack) :
    IsZero (x * y).unpack := by
  rw [isFinite_eq] at finite
  rw [unpack_mul]
  exact (Sensorium.isZero_mul_right finite zero).unpack_pack

theorem isZero_div (zero : IsZero x.unpack) (finite : y.isFinite = true)
    (nonzero : ¬ IsZero y.unpack) : IsZero (x / y).unpack := by
  rw [isFinite_eq] at finite
  rw [unpack_div]
  exact (Sensorium.isZero_div zero finite nonzero).unpack_pack

theorem isZero_sqrt (zero : IsZero x.unpack) : IsZero x.sqrt.unpack := by
  obtain ⟨sign, zero⟩ := zero
  rw [unpack_sqrt, zero]
  exact IsZero.unpack_pack ⟨sign, rfl⟩

theorem level_sub_zero (finite : x.isFinite = true) (zero : IsZero y.unpack) :
    Level (x - y).unpack x.unpack := by
  rw [unpack_sub]
  rw [isFinite_eq] at finite
  exact (Sensorium.level_sub_zero zero finite).unpack_pack x.stored_unpack

/-- One times a number is the number. -/
theorem level_one_mul (finite : x.isFinite = true) : Level (1 * x).unpack x.unpack := by
  rw [unpack_mul]
  apply Level.unpack_pack _ x.stored_unpack
  have stored := x.stored_unpack
  rw [isFinite_eq] at finite
  have one : (1 : Single).unpack = .finite .positive (2 ^ 23) (-23) (by decide) := rfl
  rw [one]
  rcases finite_cases finite with zero | ⟨sign, mantissa, exponent, positive, form⟩
  · exact .inr ⟨Sensorium.isZero_mul_right rfl zero, zero⟩
  · rw [form] at stored ⊢
    left
    have product : 2 ^ 23 * mantissa = mantissa <<< 23 := by
      rw [Nat.shiftLeft_eq, Nat.mul_comm]
    have place : -23 + exponent = exponent - (23 : Nat) := by omega
    have same : Sign.positive * sign = sign := by cases sign <;> rfl
    simp only [UnpackedFloat.mul, product, place, same]
    exact roundWithAccuracy_shiftLeft stored 23

/-! ### Bounds -/

/-- Every finite number is below `2 ^ 128`. -/
theorem within_of_isFinite (finite : x.isFinite = true) : Within 128 x.unpack := by
  have stored := x.stored_unpack
  rw [isFinite_eq] at finite
  rcases finite_cases finite with zero | ⟨sign, mantissa, exponent, positive, form⟩
  · exact zero.within
  · rw [form] at stored ⊢
    obtain ⟨narrow, -, -, below⟩ := stored
    change mantissa < 2 ^ 24 at narrow
    change exponent ≤ 104 at below
    have digits : mantissa.log2 < 24 := (Nat.log2_lt (Nat.ne_of_gt positive)).mpr narrow
    change (mantissa.log2 : Int) + 1 + exponent ≤ 128
    omega

theorem unpack_two : (2 : Single).unpack = .finite .positive (2 ^ 23) (-22) (by decide) := rfl

theorem within_two : Within 2 (2 : Single).unpack := by
  rw [unpack_two]
  change totalExponent (2 ^ 23) (-22) ≤ 2
  decide

theorem isFinite_of_within (h : Within k x.unpack) : x.isFinite = true := by
  rw [isFinite_eq]
  exact h.isFinite

theorem isFinite_of_level (h : Level x.unpack y.unpack) (bound : Within k y.unpack) :
    x.isFinite = true := by
  rw [isFinite_eq, h.isFinite]
  exact bound.isFinite

theorem within_neg (h : Within k x.unpack) : Within k (-x).unpack := by
  rw [unpack_neg]
  exact h.neg

theorem within_mul (hx : Within j x.unpack) (hy : Within k y.unpack) (low : -149 ≤ j + k)
    (fits : j + k + 1 ≤ 128) : Within (j + k + 1) (x * y).unpack := by
  have product : Bounded .binary32 _ _ := bounded_mul x.canonical y.canonical hx hy low
  rw [unpack_mul]
  exact product.within_packed (by decide) fits

theorem within_add (hx : Within k x.unpack) (hy : Within k y.unpack) (low : -149 ≤ k + 1)
    (fits : k + 2 ≤ 128) : Within (k + 2) (x + y).unpack := by
  have sum : Bounded .binary32 _ _ := bounded_add x.canonical y.canonical hx hy low
  rw [unpack_add]
  exact sum.within_packed (by decide) fits

theorem within_sub (hx : Within k x.unpack) (hy : Within k y.unpack) (low : -149 ≤ k + 1)
    (fits : k + 2 ≤ 128) : Within (k + 2) (x - y).unpack := by
  have difference : Bounded .binary32 _ _ := bounded_sub x.canonical y.canonical hx hy low
  rw [unpack_sub]
  exact difference.within_packed (by decide) fits

theorem within_div (hx : Within j x.unpack) (hy : AtLeast k y.unpack) (low : -149 ≤ j - k + 1)
    (fits : j - k + 2 ≤ 128) : Within (j - k + 2) (x / y).unpack := by
  have quotient : Bounded .binary32 _ _ := bounded_div hx hy low
  rw [unpack_div]
  exact quotient.within_packed (by decide) fits

/-- The root of a positive number is not small, since the number is not smaller than the least
    one. -/
theorem sqrt_bounds {mantissa : Nat} {exponent : Int} {nonzero : 0 < mantissa}
    (form : x.unpack = .finite .positive mantissa exponent nonzero) :
    Within 66 x.sqrt.unpack ∧ AtLeast (-74) x.sqrt.unpack ∧ OnSide .positive x.sqrt.unpack := by
  have stored := x.stored_unpack
  rw [form] at stored
  obtain ⟨narrow, -, above, below⟩ := stored
  change mantissa < 2 ^ 24 at narrow
  change -149 ≤ exponent at above
  change exponent ≤ 104 at below
  have digits : mantissa.log2 < 24 := (Nat.log2_lt (Nat.ne_of_gt nonzero)).mpr narrow
  have size : totalExponent mantissa exponent = mantissa.log2 + 1 + exponent := rfl
  have rounded : Rounded .binary32 .positive ((totalExponent mantissa exponent + 1) / 2) _ :=
    rounded_sqrt nonzero
  have large : Format.binary32.minExponent < (totalExponent mantissa exponent + 1) / 2 := by
    change -149 < _
    omega
  have root : Bounded .binary32 (65 + 1) _ := rounded.bounded (by omega) (by decide)
  rw [unpack_sqrt, form, root.unpack_pack (by decide) (by decide)]
  exact ⟨root.within, (rounded.above large).mono (by omega), rounded.sign.onSide⟩

theorem atLeast_sqrt (positive : Positive x.unpack) (finite : x.isFinite = true) :
    AtLeast (-74) x.sqrt.unpack := by
  rw [isFinite_eq] at finite
  obtain ⟨mantissa, exponent, nonzero, form⟩ := positive.exists_finite finite
  exact (sqrt_bounds form).2.1

theorem within_sqrt (side : OnSide .positive x.unpack) (finite : x.isFinite = true) :
    Within 66 x.sqrt.unpack := by
  rw [isFinite_eq] at finite
  rcases finite_cases finite with zero | ⟨sign, mantissa, exponent, nonzero, form⟩
  · exact (isZero_sqrt zero).within
  · rw [form] at side
    cases side
    exact (sqrt_bounds form).1

/-! ### Sides -/

theorem exists_onSide (finite : x.isFinite = true) : ∃ sign, OnSide sign x.unpack := by
  rw [isFinite_eq] at finite
  rcases finite_cases finite with zero | ⟨sign, mantissa, exponent, positive, form⟩
  · exact ⟨.positive, zero.onSide⟩
  · rw [form]
    exact ⟨sign, rfl⟩

theorem onSide_add {sign : Sign} (hx : OnSide sign x.unpack) (hy : OnSide sign y.unpack) :
    OnSide sign (x + y).unpack := by
  obtain ⟨form, side⟩ := Sensorium.onSide_add hx hy x.canonical y.canonical
  rw [unpack_add]
  exact side.packed form

theorem onSide_sub {sign : Sign} (hx : OnSide sign x.unpack) (hy : OnSide (-sign) y.unpack) :
    OnSide sign (x - y).unpack := by
  obtain ⟨form, side⟩ := Sensorium.onSide_sub hx hy x.canonical y.canonical
  rw [unpack_sub]
  exact side.packed form

theorem onSide_mul {sign other : Sign} (hx : OnSide sign x.unpack) (hy : OnSide other y.unpack)
    (finiteX : x.isFinite = true) (finiteY : y.isFinite = true) :
    OnSide (sign * other) (x * y).unpack := by
  rw [isFinite_eq] at finiteX finiteY
  obtain ⟨form, side⟩ :=
    Sensorium.onSide_mul hx hy x.canonical y.canonical finiteX finiteY
  rw [unpack_mul]
  exact side.packed form

/-- No root is negative. -/
theorem onSide_sqrt (side : OnSide .positive x.unpack) : OnSide .positive x.sqrt.unpack := by
  cases form : x.unpack with
  | notANumber =>
    rw [form] at side
    cases side
  | zero sign => exact (isZero_sqrt ⟨sign, form⟩).onSide
  | infinity sign =>
    rw [form] at side
    cases side
    rw [unpack_sqrt, form]
    exact OnSide.packed (u := .infinity .positive) rfl trivial
  | finite sign mantissa exponent nonzero =>
    rw [form] at side
    cases side
    exact (sqrt_bounds form).2.2

/-- Nor is any size. -/
theorem onSide_abs (finite : x.isFinite = true) : OnSide .positive x.abs.unpack := by
  rw [isFinite_eq] at finite
  rw [unpack_abs]
  rcases finite_cases finite with ⟨_, form⟩ | ⟨_, _, _, _, form⟩ <;> rw [form] <;> trivial

/-- No square is negative. -/
theorem onSide_mul_self (finite : x.isFinite = true) : OnSide .positive (x * x).unpack := by
  obtain ⟨sign, side⟩ := exists_onSide finite
  have square := onSide_mul side side finite finite
  cases sign <;> exact square

theorem onSide_mul_neg (finite : x.isFinite = true) : OnSide .negative (x * -x).unpack := by
  obtain ⟨sign, side⟩ := exists_onSide finite
  have turned : (-x).isFinite = true := isFinite_neg.trans finite
  have other : OnSide (-sign) (-x).unpack := by
    rw [unpack_neg]
    exact side.neg
  have product := onSide_mul side other finite turned
  cases sign <;> exact product

/-- The larger of one and a number that is not negative is not below one. -/
theorem max_one_cases (side : OnSide .positive x.unpack) :
    (x.max 1).unpack = .infinity .positive ∨
      OnSide .positive (x.max 1).unpack ∧ AtLeast 1 (x.max 1).unpack := by
  have unit : (1 : Single).unpack = .finite .positive (2 ^ 23) (-23) (by decide) := rfl
  have one : OnSide .positive (1 : Single).unpack ∧ AtLeast 1 (1 : Single).unpack := by
    rw [unit]
    refine ⟨rfl, ?_⟩
    change 1 ≤ totalExponent (2 ^ 23) (-23)
    decide
  have stored := x.stored_unpack
  unfold max
  split
  · exact .inr one
  · split
    · exact .inr one
    · rename_i large
      rw [lt_eq, unit] at large
      cases form : x.unpack with
      | notANumber =>
        rw [form] at side
        cases side
      | infinity sign =>
        rw [form] at side
        cases side
        exact .inl rfl
      | zero sign =>
        rw [form] at large
        exact (large rfl).elim
      | finite sign mantissa exponent positive =>
        rw [form] at side stored large
        cases side
        obtain ⟨-, full, -, -⟩ := stored
        change 2 ^ 23 ≤ mantissa ∨ exponent = -149 at full
        have place : -23 ≤ exponent := by
          by_contra less
          apply large
          rw [UnpackedFloat.lt, UnpackedFloat.compare, Int.compare_eq_lt.mpr (by omega)]
          rfl
        have digits := (Nat.le_log2 (Nat.ne_of_gt positive)).mpr (full.resolve_right (by omega))
        refine .inr ⟨rfl, ?_⟩
        change 1 ≤ (mantissa.log2 : Int) + 1 + exponent
        omega

/-- A positive number is not lost when it is multiplied by what is not below one. -/
theorem positive_mul_max_one {y : Single} (above : Positive y.unpack) (finite : y.isFinite = true)
    (side : OnSide .positive x.unpack) : Positive (y * x.max 1).unpack := by
  have stored := y.stored_unpack
  rw [isFinite_eq] at finite
  rw [unpack_mul]
  obtain ⟨m, e, hm, form⟩ := above.exists_finite finite
  rw [form] at stored ⊢
  rcases max_one_cases side with infinite | ⟨upper, large⟩
  · rw [infinite]
    exact Positive.packed (u := .infinity .positive) rfl trivial
  · have other := (x.max 1).canonical
    generalize (x.max 1).unpack = v at *
    cases v with
    | zero _ | infinity _ | notANumber => cases large
    | finite t n f hn =>
      cases upper
      have digits := (log2_mul_bounds hm hn).1
      have least : -149 ≤ e := stored.2.2.1
      have large : 1 ≤ (n.log2 : Int) + 1 + f := large
      have rounded : Rounded .binary32 .positive (totalExponent (m * n) (e + f)) _ :=
        rounded_roundWithAccuracy _ .exact (Nat.mul_pos hm hn) (enough_mul stored.canonical other)
      have big : -149 < totalExponent (m * n) (e + f) := by
        rw [totalExponent]
        omega
      exact (rounded.positive big).packed rounded.form

end Single

/-! ## Double precision -/

namespace Double

variable {j k : Int} {x y : Float}

theorem canonical (x : Float) : Canonical .binary64 (unpackDouble x) :=
  (stored_unpackDouble x).canonical

theorem unpack_mul (x y : Float) :
    unpackDouble (x * y) = UnpackedFloat.unpack .binary64
      (UnpackedFloat.pack .binary64
        (UnpackedFloat.mul .binary64 (unpackDouble x) (unpackDouble y))) :=
  rfl

theorem within_neg (h : Within k (unpackDouble x)) : Within k (unpackDouble (-x)) := by
  rw [unpackDouble_neg]
  exact h.neg

theorem within_mul (hx : Within j (unpackDouble x)) (hy : Within k (unpackDouble y))
    (low : -1074 ≤ j + k) (fits : j + k + 1 ≤ 1024) :
    Within (j + k + 1) (unpackDouble (x * y)) := by
  have product : Bounded .binary64 _ _ := bounded_mul (canonical x) (canonical y) hx hy low
  exact product.within_packed (by decide) fits

theorem within_div (hx : Within j (unpackDouble x)) (hy : AtLeast k (unpackDouble y))
    (low : -1074 ≤ j - k + 1) (fits : j - k + 2 ≤ 1024) :
    Within (j - k + 2) (unpackDouble (x / y)) := by
  have quotient : Bounded .binary64 _ _ := bounded_div hx hy low
  exact quotient.within_packed (by decide) fits

theorem isZero_sub (hx : IsZero (unpackDouble x)) (hy : IsZero (unpackDouble y)) :
    IsZero (unpackDouble (x - y)) :=
  (Sensorium.isZero_sub hx hy).unpack_pack

theorem onSide_mul {sign other : Sign} (hx : OnSide sign (unpackDouble x))
    (hy : OnSide other (unpackDouble y)) (finiteX : (unpackDouble x).isFinite = true)
    (finiteY : (unpackDouble y).isFinite = true) :
    OnSide (sign * other) (unpackDouble (x * y)) := by
  obtain ⟨form, side⟩ :=
    Sensorium.onSide_mul hx hy (canonical x) (canonical y) finiteX finiteY
  exact side.packed form

theorem within_add (hx : Within k (unpackDouble x)) (hy : Within k (unpackDouble y))
    (low : -1074 ≤ k + 1) (fits : k + 2 ≤ 1024) : Within (k + 2) (unpackDouble (x + y)) := by
  have sum : Bounded .binary64 _ _ := bounded_add (canonical x) (canonical y) hx hy low
  exact sum.within_packed (by decide) fits

theorem level_sub_zero (finite : (unpackDouble x).isFinite = true)
    (hy : IsZero (unpackDouble y)) : Level (unpackDouble (x - y)) (unpackDouble x) :=
  (Sensorium.level_sub_zero hy finite).unpack_pack (stored_unpackDouble x)

/-- A number times one is the number. -/
theorem level_mul_one (finite : (unpackDouble x).isFinite = true) :
    Level (unpackDouble (x * 1)) (unpackDouble x) := by
  have stored := stored_unpackDouble x
  have one : unpackDouble 1 = .finite .positive (2 ^ 52) (-52) (by decide) := rfl
  rw [unpack_mul, one]
  apply Level.unpack_pack _ stored
  rcases finite_cases finite with zero | ⟨sign, mantissa, exponent, positive, form⟩
  · exact .inr ⟨Sensorium.isZero_mul zero rfl, zero⟩
  · rw [form] at stored ⊢
    left
    have shifted : mantissa * 2 ^ 52 = mantissa <<< 52 := (Nat.shiftLeft_eq _ _).symm
    have place : exponent + -52 = exponent - (52 : Nat) := by omega
    have same : sign * Sign.positive = sign := by cases sign <;> rfl
    simp only [UnpackedFloat.mul, shifted, place, same]
    exact roundWithAccuracy_shiftLeft stored 52

/-- What is done of something of which all is left. -/
theorem isZero_one_sub (none : IsZero (unpackDouble x)) :
    IsZero (unpackDouble (1 - (1 + x) * 1)) := by
  have one : unpackDouble 1 = .finite .positive (2 ^ 52) (-52) (by decide) := rfl
  have sum : unpackDouble (1 + x) = unpackDouble 1 := by
    rcases level_add_zero isFinite_one none with same | ⟨-, sign, zero⟩
    · exact same
    · rw [one] at zero
      cases zero
  have product : unpackDouble ((1 + x) * 1) = unpackDouble 1 := by
    rw [unpack_mul, sum]
    rfl
  have difference : unpackDouble (1 - (1 + x) * 1) = UnpackedFloat.unpack _
      (UnpackedFloat.pack _ (UnpackedFloat.sub _ (unpackDouble 1) (unpackDouble ((1 + x) * 1)))) :=
    rfl
  rw [difference, product]
  exact (Sensorium.isZero_sub_self isFinite_one).unpack_pack

theorem lt_iff : x < y ↔ (unpackDouble x).lt (unpackDouble y) = true := by
  constructor
  · intro less
    exact of_decide_eq_true less
  · intro less
    exact decide_eq_true less

end Double

namespace Single

variable {x : Single}

/-- A single precision number is as large in double precision. -/
theorem within_widen (finite : x.isFinite = true) : Within 128 (unpackDouble x.widen) := by
  have within := within_of_isFinite finite
  rcases x.unpackDouble_widen with ⟨same, -⟩ | ⟨_, _, _, positive, _, _, narrow, wide⟩
  · rw [same]
    exact within
  · rw [narrow] at within
    rw [wide]
    exact (totalExponent_shiftLeft positive _ _).trans_le within

theorem onSide_widen {sign : Sign} (side : OnSide sign x.unpack) :
    OnSide sign (unpackDouble x.widen) := by
  rcases x.unpackDouble_widen with ⟨same, -⟩ | ⟨_, _, _, positive, _, _, narrow, wide⟩
  · rw [same]
    exact side
  · rw [narrow] at side
    rw [wide]
    exact side

end Single

end Sensorium
