import Sensorium.Proofs.Numeric.Level

/-!
# The size of numbers

How large a number is shows in `totalExponent`: a number with total exponent `k` is below
`2 ^ k` and at least `2 ^ (k - 1)`. Rounding moves it by one at most, which `Rounded` says once
for all operations. So from bounds for the operands, `Within`, follow bounds for the result, and a
result that is within what the format can hold is not infinite.
-/

namespace Sensorium

open Float.Model (Format UnpackedFloat totalExponent)
open Float.Model.UnpackedFloat

/-- The number is a zero, or a finite number below `2 ^ k` in size. -/
def Within (k : Int) : UnpackedFloat → Prop
  | .zero _ => True
  | .finite _ mantissa exponent _ => totalExponent mantissa exponent ≤ k
  | _ => False

/-- The number is finite and at least `2 ^ (k - 1)` in size. -/
def AtLeast (k : Int) : UnpackedFloat → Prop
  | .finite _ mantissa exponent _ => k ≤ totalExponent mantissa exponent
  | _ => False

/-- The number is finite and has this sign. -/
def Signed (sign : Sign) : UnpackedFloat → Prop
  | .zero other | .finite other _ _ _ => other = sign
  | _ => False

/-- The number is in the form that belongs to a format, if perhaps too large for it. -/
def Canonical (format : Format) : UnpackedFloat → Prop
  | .finite _ mantissa exponent _ =>
    mantissa < 2 ^ format.mantissaBits ∧
      (2 ^ format.mantissaBitsWithoutImplicit ≤ mantissa ∨ exponent = format.minExponent) ∧
      format.minExponent ≤ exponent
  | _ => True

section

variable {j k : Int} {format : Format} {u v : UnpackedFloat}

theorem Within.isFinite (h : Within k u) : u.isFinite = true := by
  cases u <;> first | rfl | cases h

theorem Within.mono (h : Within j u) (le : j ≤ k) : Within k u := by
  cases u with
  | finite sign mantissa exponent positive => exact Int.le_trans h le
  | zero sign => trivial
  | _ => cases h

theorem AtLeast.mono (h : AtLeast k u) (le : j ≤ k) : AtLeast j u := by
  cases u with
  | finite sign mantissa exponent positive => exact Int.le_trans le h
  | _ => cases h

theorem IsZero.within (h : IsZero u) : Within k u := by
  obtain ⟨sign, rfl⟩ := h
  trivial

theorem Within.of_level (h : Within k v) (level : Level u v) : Within k u := by
  rcases level with rfl | ⟨zero, -⟩
  · exact h
  · exact zero.within

theorem Within.neg (h : Within k u) : Within k u.neg := by
  cases u <;> exact h

theorem Canonical.neg (form : Canonical format u) : Canonical format u.neg := by
  cases u <;> exact form

theorem Stored.canonical (h : Stored format u) : Canonical format u := by
  cases u with
  | finite sign mantissa exponent positive => exact ⟨h.1, h.2.1, h.2.2.1⟩
  | _ => trivial

/-- The greatest exponent of the numbers that a format can hold. -/
theorem Canonical.stored (form : Canonical format u) (wide : 0 < format.exponentBias)
    (h : Within k u) (fits : k ≤ format.exponentBias + 1) : Stored format u := by
  cases u with
  | finite sign mantissa exponent positive =>
    obtain ⟨narrow, full, above⟩ := form
    have least := minExponent_eq format
    refine ⟨narrow, full, above, ?_⟩
    rcases full with full | same
    · have digits := (Nat.le_log2 (Nat.ne_of_gt positive)).mpr full
      have total : (mantissa.log2 : Int) + 1 + exponent ≤ k := h
      omega
    · omega
  | _ => trivial

/-! ## Rounding -/

theorem mantissa_shiftRight (em : ExtendedMantissa) (places : Nat) :
    (em >>> places).mantissa = em.mantissa / 2 ^ places := by
  change (places.repeat ExtendedMantissa.shiftRightOne em).mantissa = _
  induction places with
  | zero => rw [Nat.repeat, Nat.pow_zero, Nat.div_one]
  | succ places ih =>
    rw [Nat.repeat, ExtendedMantissa.shiftRightOne, ih, Nat.div_div_eq_div_mul, Nat.pow_succ]

theorem mantissa_ofMantissaAndAccuracy (mantissa : Nat) (accuracy : Accuracy) :
    (ExtendedMantissa.ofMantissaAndAccuracy mantissa accuracy).mantissa = mantissa := by
  unfold ExtendedMantissa.ofMantissaAndAccuracy
  split <;> rfl

/-- Rounding goes to the next mantissa at most. -/
theorem roundedMantissa_bounds (em : ExtendedMantissa) :
    em.mantissa ≤ em.roundedMantissa ∧ em.roundedMantissa ≤ em.mantissa + 1 := by
  have odd : em.mantissa % 2 ≤ 1 := Nat.le_of_lt_succ (Nat.mod_lt _ (by decide))
  obtain ⟨mantissa, roundBit, stickyBit⟩ := em
  cases roundBit <;> cases stickyBit
  · exact ⟨Nat.le_refl _, Nat.le_succ _⟩
  · exact ⟨Nat.le_refl _, Nat.le_succ _⟩
  · exact ⟨Nat.le_add_right _ _, Nat.add_le_add_left odd _⟩
  · exact ⟨Nat.le_succ _, Nat.le_refl _⟩

/-- Digits are dropped until the exponent is the one that the format asks for. -/
theorem shiftToTargetExponent_eq {mantissa : Nat} {exponent target : Int} (accuracy : Accuracy)
    (asked : format.targetExponent (totalExponent mantissa exponent) = target) :
    (shiftToTargetExponent format mantissa exponent accuracy).1.mantissa =
        mantissa / 2 ^ (target - exponent).toNat ∧
      (shiftToTargetExponent format mantissa exponent accuracy).2 =
        exponent + (target - exponent).toNat := by
  rw [shiftToTargetExponent, asked, shiftToExponent, mantissa_shiftRight,
    mantissa_ofMantissaAndAccuracy]
  exact ⟨rfl, rfl⟩

/-- What a number of this sign and total exponent may be rounded to: something of the same sign,
    and of the same total exponent or the next, unless that is too small for the format. -/
structure Rounded (format : Format) (sign : Sign) (total : Int) (u : UnpackedFloat) : Prop where
  form : Canonical format u
  sign : Signed sign u
  below : Within (max total format.minExponent + 1) u
  above : format.minExponent < total → AtLeast total u

variable {mantissa : Nat} {exponent : Int} {places : Nat}

/-- The digits that are left when a mantissa is shifted to the exponent that is asked for. -/
theorem shifted_bounds
    (target : format.targetExponent (totalExponent mantissa exponent) = exponent + places) :
    mantissa / 2 ^ places < 2 ^ format.mantissaBits ∧
      (exponent + places = format.minExponent ∨
        2 ^ format.mantissaBitsWithoutImplicit ≤ mantissa / 2 ^ places) := by
  rw [Format.targetExponent, totalExponent] at target
  have split : format.mantissaBits = 1 + format.mantissaBitsWithoutImplicit := rfl
  constructor
  · rw [Nat.div_lt_iff_lt_mul (Nat.two_pow_pos _), ← Nat.pow_add]
    apply Nat.lt_of_lt_of_le Nat.lt_log2_self
    exact Nat.pow_le_pow_right (by decide) (by omega)
  · by_cases least : exponent + places = format.minExponent
    · exact .inl least
    · right
      have digits : mantissa.log2 = format.mantissaBitsWithoutImplicit + places := by omega
      have nonzero : mantissa ≠ 0 := by
        rintro rfl
        have := format.hm
        rw [Nat.log2_zero] at digits
        omega
      rw [Nat.le_div_iff_mul_le (Nat.two_pow_pos _), ← Nat.pow_add, ← digits]
      exact Nat.log2_self_le nonzero

/-- The size of the digits that are left. -/
theorem totalExponent_shifted (left : 0 < mantissa / 2 ^ places) :
    totalExponent (mantissa / 2 ^ places) (exponent + places) =
      totalExponent mantissa exponent := by
  have digits : mantissa.log2 = (mantissa / 2 ^ places).log2 + places := by
    have positive : 0 < mantissa := Nat.lt_of_lt_of_le left (Nat.div_le_self _ _)
    rw [Nat.log2_eq_iff (Nat.ne_of_gt positive), Nat.add_right_comm, Nat.pow_add, Nat.pow_add]
    constructor
    · rw [← Nat.le_div_iff_mul_le (Nat.two_pow_pos _)]
      exact Nat.log2_self_le (Nat.ne_of_gt left)
    · rw [← Nat.div_lt_iff_lt_mul (Nat.two_pow_pos _)]
      exact Nat.lt_log2_self
  simp only [totalExponent]
  omega

/-- A mantissa that is in the form of the format is what it is rounded to, and one that is a digit
    too long loses it. -/
theorem second_shift (narrow : mantissa ≤ 2 ^ format.mantissaBits)
    (full : 2 ^ format.mantissaBitsWithoutImplicit ≤ mantissa ∨ exponent = format.minExponent)
    (above : format.minExponent ≤ exponent) :
    (shiftToTargetExponent format mantissa exponent .exact).1.mantissa = mantissa ∧
        (shiftToTargetExponent format mantissa exponent .exact).2 = exponent ∧
        mantissa < 2 ^ format.mantissaBits ∨
      mantissa = 2 ^ format.mantissaBits ∧
        (shiftToTargetExponent format mantissa exponent .exact).1.mantissa =
          2 ^ format.mantissaBitsWithoutImplicit ∧
        (shiftToTargetExponent format mantissa exponent .exact).2 = exponent + 1 := by
  have split : format.mantissaBits = 1 + format.mantissaBitsWithoutImplicit := rfl
  rcases Nat.lt_or_eq_of_le narrow with narrow | rfl
  · have target : format.targetExponent (totalExponent mantissa exponent) = exponent := by
      have wide := format.hm
      rw [Format.targetExponent, totalExponent]
      by_cases zero : mantissa = 0
      · subst zero
        have none : ¬ 2 ^ format.mantissaBitsWithoutImplicit ≤ 0 :=
          Nat.not_le.mpr (Nat.two_pow_pos _)
        have least := full.resolve_left none
        rw [Nat.log2_zero]
        omega
      · have digits : mantissa.log2 < format.mantissaBits := (Nat.log2_lt zero).mpr narrow
        rcases full with full | least
        · have := (Nat.le_log2 zero).mpr full
          omega
        · omega
    obtain ⟨digits, place⟩ := shiftToTargetExponent_eq .exact target
    rw [Int.sub_self] at digits place
    refine .inl ⟨?_, ?_, narrow⟩
    · rw [digits, Int.toNat_zero, Nat.pow_zero, Nat.div_one]
    · rw [place]
      exact Int.add_zero _
  · have target : format.targetExponent (totalExponent (2 ^ format.mantissaBits) exponent) =
        exponent + 1 := by
      rw [Format.targetExponent, totalExponent, Nat.log2_two_pow]
      omega
    obtain ⟨digits, place⟩ := shiftToTargetExponent_eq .exact target
    have one : (exponent + 1 - exponent).toNat = 1 := by omega
    rw [one] at digits place
    refine .inr ⟨rfl, ?_, place⟩
    rw [digits, two_pow_mantissaBits]
    omega

/-- What a mantissa with digits enough is rounded to: what is left of it when it is shifted, or the
    next one, which may be a digit too long. -/
theorem roundWithAccuracy_cases (sign : Sign) (accuracy : Accuracy)
    (enough : exponent ≤ format.targetExponent (totalExponent mantissa exponent)) :
    ∃ places rounded : Nat,
      format.targetExponent (totalExponent mantissa exponent) = exponent + places ∧
      mantissa / 2 ^ places ≤ rounded ∧ rounded ≤ mantissa / 2 ^ places + 1 ∧
      (rounded = 0 ∧ roundWithAccuracy format sign mantissa exponent accuracy = .zero sign ∨
        (∃ positive : 0 < rounded, rounded < 2 ^ format.mantissaBits ∧
          roundWithAccuracy format sign mantissa exponent accuracy =
            .finite sign rounded (exponent + places) positive) ∨
        rounded = 2 ^ format.mantissaBits ∧
          ∃ positive, roundWithAccuracy format sign mantissa exponent accuracy =
            .finite sign (2 ^ format.mantissaBitsWithoutImplicit) (exponent + places + 1)
              positive) := by
  obtain ⟨places, target⟩ := Int.le.dest enough
  obtain ⟨digits, place⟩ := shiftToTargetExponent_eq accuracy target.symm
  rw [add_sub_cancel_left, Int.toNat_natCast] at digits place
  obtain ⟨narrow, full⟩ := shifted_bounds target.symm
  let first := shiftToTargetExponent format mantissa exponent accuracy
  obtain ⟨low, high⟩ := roundedMantissa_bounds first.1
  rw [digits] at low high
  have above : format.minExponent ≤ exponent + places := by
    rw [target]
    exact Int.le_max_right _ _
  refine ⟨places, first.1.roundedMantissa, target.symm, low, high, ?_⟩
  let second := shiftToTargetExponent format first.1.roundedMantissa first.2 .exact
  have result : roundWithAccuracy format sign mantissa exponent accuracy =
      if h : second.1.mantissa = 0 then .zero sign
      else .finite sign second.1.mantissa second.2 (Nat.pos_of_ne_zero h) := rfl
  have fits : first.1.roundedMantissa ≤ 2 ^ format.mantissaBits :=
    Nat.le_trans high narrow
  have again := second_shift fits (full.symm.imp_left fun full => Nat.le_trans full low) above
  rw [← place] at again
  rcases again with ⟨same, there, narrow⟩ | ⟨long, same, there⟩
  · by_cases zero : first.1.roundedMantissa = 0
    · refine .inl ⟨zero, ?_⟩
      rw [result, dif_pos (same.trans zero)]
    · refine .inr (.inl ⟨Nat.pos_of_ne_zero zero, narrow, ?_⟩)
      rw [result, dif_neg (by rw [same]; exact zero), UnpackedFloat.finite.injEq]
      exact ⟨rfl, same, there.trans place⟩
  · refine .inr (.inr ⟨long, Nat.two_pow_pos _, ?_⟩)
    rw [result, dif_neg (by rw [same]; exact Nat.ne_of_gt (Nat.two_pow_pos _)),
      UnpackedFloat.finite.injEq]
    exact ⟨rfl, same, there.trans (congrArg (· + 1) place)⟩

theorem log2_le_log2 {m n : Nat} (le : m ≤ n) : m.log2 ≤ n.log2 := by
  rw [Nat.log2_eq_log_two, Nat.log2_eq_log_two]
  exact Nat.log_mono_right le

theorem log2_succ_le (n : Nat) : (n + 1).log2 ≤ n.log2 + 1 := by
  rw [Nat.le_iff_lt_add_one, Nat.log2_lt (Nat.succ_ne_zero n)]
  have := @Nat.lt_log2_self n
  have positive := Nat.two_pow_pos (n.log2 + 1)
  rw [Nat.pow_succ]
  omega

section

variable {left rounded : Nat} {place total : Int}
  (size : 0 < left → totalExponent left place = total)
  (above : format.minExponent ≤ place)
include size above

/-- What is left of a mantissa, or the next one, if that is not too long. -/
theorem rounded_kept (sign : Sign)
    (full : place = format.minExponent ∨ 2 ^ format.mantissaBitsWithoutImplicit ≤ left)
    (remains : format.minExponent < total → 0 < left)
    (low : left ≤ rounded) (high : rounded ≤ left + 1) (nonzero : 0 < rounded)
    (short : rounded < 2 ^ format.mantissaBits) :
    Rounded format sign total (.finite sign rounded place nonzero) := by
  simp only [totalExponent] at size
  refine ⟨⟨short, full.symm.imp_left fun full => Nat.le_trans full low, above⟩, rfl, ?_, ?_⟩
  · change (rounded.log2 : Int) + 1 + place ≤ _
    rcases Nat.eq_zero_or_pos left with rfl | positive
    · have least := full.resolve_right (Nat.not_le.mpr (Nat.two_pow_pos _))
      have digit : rounded.log2 = 0 := by
        rw [show rounded = 1 by omega]
        rfl
      omega
    · have size := size positive
      have digits := Nat.le_trans (log2_le_log2 high) (log2_succ_le left)
      omega
  · intro big
    have size := size (remains big)
    have digits := log2_le_log2 low
    change total ≤ (rounded.log2 : Int) + 1 + place
    omega

/-- What is left of a mantissa has only ones, and the next one is a digit too long. -/
theorem rounded_carry (sign : Sign) (narrow : left < 2 ^ format.mantissaBits)
    (long : 2 ^ format.mantissaBits ≤ left + 1)
    (nonzero : 0 < 2 ^ format.mantissaBitsWithoutImplicit) :
    Rounded format sign total
      (.finite sign (2 ^ format.mantissaBitsWithoutImplicit) (place + 1) nonzero) := by
  have width := two_pow_mantissaBits format
  have split : format.mantissaBits = 1 + format.mantissaBitsWithoutImplicit := rfl
  have there : (2 ^ format.mantissaBitsWithoutImplicit).log2 =
      format.mantissaBitsWithoutImplicit := Nat.log2_two_pow
  have left_ne : left ≠ 0 := by omega
  have size := size (Nat.pos_of_ne_zero left_ne)
  have most : left.log2 < format.mantissaBits := (Nat.log2_lt left_ne).mpr narrow
  have least : format.mantissaBitsWithoutImplicit ≤ left.log2 :=
    (Nat.le_log2 left_ne).mpr (by omega)
  rw [totalExponent] at size
  refine ⟨⟨by omega, .inl (Nat.le_refl _), by omega⟩, rfl, ?_, ?_⟩
  · change ((2 ^ format.mantissaBitsWithoutImplicit).log2 : Int) + 1 + (place + 1) ≤ _
    omega
  · intro big
    change total ≤ ((2 ^ format.mantissaBitsWithoutImplicit).log2 : Int) + 1 + (place + 1)
    omega

end

/-- The number that a mantissa with digits enough is rounded to is of the form of the format, and
    has one more digit at most than what is left of the mantissa. -/
theorem rounded_roundWithAccuracy (sign : Sign) (accuracy : Accuracy) (positive : 0 < mantissa)
    (enough : exponent ≤ format.targetExponent (totalExponent mantissa exponent)) :
    Rounded format sign (totalExponent mantissa exponent)
      (roundWithAccuracy format sign mantissa exponent accuracy) := by
  obtain ⟨places, rounded, target, low, high, outcome⟩ :=
    roundWithAccuracy_cases sign accuracy enough
  obtain ⟨narrow, full⟩ := shifted_bounds target
  have above : format.minExponent ≤ exponent + places := by
    rw [← target]
    exact Int.le_max_right _ _
  have size (left : 0 < mantissa / 2 ^ places) :
      totalExponent (mantissa / 2 ^ places) (exponent + places) = totalExponent mantissa exponent :=
    totalExponent_shifted left
  have remains (big : format.minExponent < totalExponent mantissa exponent) :
      0 < mantissa / 2 ^ places := by
    rcases full with least | full
    · rw [totalExponent] at big
      apply Nat.div_pos _ (Nat.two_pow_pos _)
      rw [← Nat.le_log2 (Nat.ne_of_gt positive)]
      omega
    · exact Nat.lt_of_lt_of_le (Nat.two_pow_pos _) full
  rcases outcome with ⟨rfl, result⟩ | ⟨nonzero, short, result⟩ | ⟨rfl, nonzero, result⟩
  · rw [result]
    refine ⟨trivial, rfl, trivial, ?_⟩
    intro big
    exact absurd (remains big) (Nat.not_lt.mpr low)
  · rw [result]
    exact rounded_kept size above sign full remains low high nonzero short
  · rw [result]
    exact rounded_carry size above sign narrow high nonzero

/-- A mantissa of which nothing is left before it is rounded. -/
theorem rounded_roundWithAccuracy_zero (sign : Sign) (accuracy : Accuracy)
    (least : exponent ≤ format.minExponent) :
    Rounded format sign format.minExponent (roundWithAccuracy format sign 0 exponent accuracy) := by
  have wide := format.hm
  have split : format.mantissaBits = 1 + format.mantissaBitsWithoutImplicit := rfl
  have target : format.targetExponent (totalExponent 0 exponent) = format.minExponent := by
    rw [Format.targetExponent, totalExponent, Nat.log2_zero]
    omega
  obtain ⟨places, rounded, target', low, high, outcome⟩ :=
    roundWithAccuracy_cases sign accuracy (by rw [target]; exact least)
  have place : exponent + places = format.minExponent := target'.symm.trans target
  have two : 2 < 2 ^ format.mantissaBits := by
    apply Nat.lt_of_lt_of_le (show 2 < 2 ^ 2 by decide)
    exact Nat.pow_le_pow_right (by decide) (by omega)
  rw [Nat.zero_div] at high
  rcases outcome with ⟨-, result⟩ | ⟨nonzero, short, result⟩ | ⟨long, -⟩
  · rw [result]
    exact ⟨trivial, rfl, trivial, fun big => absurd big (Int.lt_irrefl _)⟩
  · have one : rounded = 1 := by omega
    subst one
    rw [result]
    refine ⟨⟨short, .inr place, ?_⟩, rfl, ?_, fun big => absurd big (Int.lt_irrefl _)⟩
    · rw [place]
    · change ((Nat.log2 1 : Nat) : Int) + 1 + (exponent + places) ≤ _
      have digit : Nat.log2 1 = 0 := rfl
      omega
  · omega

theorem rounded_round (sign : Sign) (positive : 0 < mantissa) :
    Rounded format sign (totalExponent mantissa exponent)
      (UnpackedFloat.round format sign mantissa exponent) := by
  let target := format.targetExponent (totalExponent mantissa exponent)
  let places := (exponent - target).toNat
  have shifted : 0 < mantissa <<< places := by
    rw [Nat.shiftLeft_eq]
    exact Nat.mul_pos positive (Nat.two_pow_pos _)
  have same := totalExponent_shiftLeft positive exponent places
  have enough : exponent - places ≤
      format.targetExponent (totalExponent (mantissa <<< places) (exponent - places)) := by
    rw [same]
    change exponent - ((exponent - target).toNat : Int) ≤ target
    omega
  rw [← same]
  exact rounded_roundWithAccuracy sign .exact shifted enough

/-- A sum of shifted mantissas is a zero, or rounded. -/
theorem normalize_cases (format : Format) (sum exponent : Int) (zeroSign : Sign) :
    IsZero (UnpackedFloat.normalize format sum exponent zeroSign) ∨
      0 < sum.natAbs ∧ ∃ sign, Rounded format sign (totalExponent sum.natAbs exponent)
        (UnpackedFloat.normalize format sum exponent zeroSign) := by
  rcases lt_trichotomy sum 0 with negative | rfl | positive
  · right
    have size : (-sum).toNat = sum.natAbs := by omega
    have nonzero : 0 < sum.natAbs := by omega
    refine ⟨nonzero, .negative, ?_⟩
    rw [UnpackedFloat.normalize, Int.compare_eq_lt.mpr negative]
    simp only [size]
    exact rounded_round .negative nonzero
  · exact .inl ⟨zeroSign, rfl⟩
  · right
    have size : sum.toNat = sum.natAbs := by omega
    have nonzero : 0 < sum.natAbs := by omega
    refine ⟨nonzero, .positive, ?_⟩
    rw [UnpackedFloat.normalize, Int.compare_eq_gt.mpr positive]
    simp only [size]
    exact rounded_round .positive nonzero

/-! ## Operations -/

/-- The result of an operation is in the form of the format, and bounded. -/
structure Bounded (format : Format) (k : Int) (u : UnpackedFloat) : Prop where
  form : Canonical format u
  within : Within k u

theorem IsZero.bounded (h : IsZero u) : Bounded format k u := by
  obtain ⟨sign, rfl⟩ := h
  exact ⟨trivial, trivial⟩

theorem Rounded.bounded {sign : Sign} {total : Int} (h : Rounded format sign total u)
    (le : total ≤ k) (low : format.minExponent ≤ k) : Bounded format (k + 1) u :=
  ⟨h.form, h.below.mono (by omega)⟩

/-! ### Products -/

theorem log2_mul_bounds {m n : Nat} (hm : 0 < m) (hn : 0 < n) :
    m.log2 + n.log2 ≤ (m * n).log2 ∧ (m * n).log2 ≤ m.log2 + n.log2 + 1 := by
  have nonzero : m * n ≠ 0 := Nat.ne_of_gt (Nat.mul_pos hm hn)
  constructor
  · rw [Nat.le_log2 nonzero, Nat.pow_add]
    exact Nat.mul_le_mul (Nat.log2_self_le (Nat.ne_of_gt hm)) (Nat.log2_self_le (Nat.ne_of_gt hn))
  · rw [Nat.le_iff_lt_add_one, Nat.log2_lt nonzero]
    have split : m.log2 + n.log2 + 1 + 1 = (m.log2 + 1) + (n.log2 + 1) := by omega
    rw [split, Nat.pow_add]
    exact Nat.mul_lt_mul'' Nat.lt_log2_self Nat.lt_log2_self

/-- The product of two numbers in the form of a format has digits enough for it. -/
theorem enough_mul {m n : Nat} {e f : Int} {s t : Sign} {hm : 0 < m} {hn : 0 < n}
    (hx : Canonical format (.finite s m e hm)) (hy : Canonical format (.finite t n f hn)) :
    e + f ≤ format.targetExponent (totalExponent (m * n) (e + f)) := by
  obtain ⟨-, fullX, -⟩ := hx
  obtain ⟨-, fullY, -⟩ := hy
  have digits := (log2_mul_bounds hm hn).1
  have split : format.mantissaBits = 1 + format.mantissaBitsWithoutImplicit := rfl
  have least := minExponent_eq format
  rw [Format.targetExponent, totalExponent]
  rcases fullX with full | leastX
  · have := (Nat.le_log2 (Nat.ne_of_gt hm)).mpr full
    omega
  · rcases fullY with full | leastY
    · have := (Nat.le_log2 (Nat.ne_of_gt hn)).mpr full
      omega
    · omega

theorem bounded_mul (hu : Canonical format u) (hv : Canonical format v) (bu : Within j u)
    (bv : Within k v) (low : format.minExponent ≤ j + k) :
    Bounded format (j + k + 1) (UnpackedFloat.mul format u v) := by
  cases u with
  | infinity _ | notANumber => cases bu
  | zero sign => exact (isZero_mul ⟨sign, rfl⟩ bv.isFinite).bounded
  | finite s m e hm =>
    cases v with
    | infinity _ | notANumber => cases bv
    | zero sign => exact (isZero_mul_right rfl ⟨sign, rfl⟩).bounded
    | finite t n f hn =>
      have digits := (log2_mul_bounds hm hn).2
      apply (rounded_roundWithAccuracy (s * t) .exact (Nat.mul_pos hm hn)
        (enough_mul hu hv)).bounded _ low
      simp only [Within, totalExponent] at bu bv ⊢
      omega

/-! ### Sums and differences -/

/-- The sum of two mantissas that were brought to one exponent, whatever their signs. -/
theorem bounded_normalize {m n : Nat} {e f sum : Int} (zeroSign : Sign)
    (size : sum.natAbs ≤ m <<< (e - min e f).toNat + n <<< (f - min e f).toNat)
    (bu : totalExponent m e ≤ k) (bv : totalExponent n f ≤ k) (low : format.minExponent ≤ k + 1) :
    Bounded format (k + 2) (UnpackedFloat.normalize format sum (min e f) zeroSign) := by
  have below {l : Nat} {g : Int} (g_ge : min e f ≤ g) (bound : totalExponent l g ≤ k) :
      l <<< (g - min e f).toNat < 2 ^ (k - min e f).toNat := by
    rw [totalExponent] at bound
    rw [Nat.shiftLeft_eq]
    have room : l.log2 + 1 + (g - min e f).toNat ≤ (k - min e f).toNat := by omega
    calc l * 2 ^ (g - min e f).toNat
      _ < 2 ^ (l.log2 + 1) * 2 ^ (g - min e f).toNat :=
        Nat.mul_lt_mul_of_pos_right Nat.lt_log2_self (Nat.two_pow_pos _)
      _ = 2 ^ (l.log2 + 1 + (g - min e f).toNat) := (Nat.pow_add ..).symm
      _ ≤ _ := Nat.pow_le_pow_right (by decide) room
  have first := below (Int.min_le_left e f) bu
  have second := below (Int.min_le_right e f) bv
  rcases normalize_cases format sum (min e f) zeroSign with zero | ⟨nonzero, sign, rounded⟩
  · exact zero.bounded
  · have digits : sum.natAbs.log2 < (k - min e f).toNat + 1 := by
      rw [Nat.log2_lt (Nat.ne_of_gt nonzero), Nat.pow_succ]
      omega
    have two : k + 2 = k + 1 + 1 := by omega
    rw [two]
    apply rounded.bounded _ low
    rw [totalExponent] at bu bv ⊢
    omega

theorem natAbs_apply (sign : Sign) (n : Nat) : (sign.apply n).natAbs = n := by
  cases sign with
  | positive => exact Int.natAbs_natCast n
  | negative => exact (Int.natAbs_neg _).trans (Int.natAbs_natCast n)

theorem bounded_add (hu : Canonical format u) (hv : Canonical format v) (bu : Within k u)
    (bv : Within k v) (low : format.minExponent ≤ k + 1) :
    Bounded format (k + 2) (UnpackedFloat.add format u v) := by
  cases u with
  | infinity _ | notANumber => cases bu
  | zero sign =>
    cases v with
    | infinity _ | notANumber => cases bv
    | zero other => exact (isZero_add ⟨sign, rfl⟩ ⟨other, rfl⟩).bounded
    | finite t n f hn => exact ⟨hv, bv.mono (by omega)⟩
  | finite s m e hm =>
    cases v with
    | infinity _ | notANumber => cases bv
    | zero other => exact ⟨hu, bu.mono (by omega)⟩
    | finite t n f hn =>
      apply bounded_normalize .positive _ bu bv low
      refine (Int.natAbs_add_le _ _).trans_eq ?_
      rw [natAbs_apply, natAbs_apply]

theorem bounded_sub (hu : Canonical format u) (hv : Canonical format v) (bu : Within k u)
    (bv : Within k v) (low : format.minExponent ≤ k + 1) :
    Bounded format (k + 2) (UnpackedFloat.sub format u v) := by
  rw [sub_eq_add_neg]
  exact bounded_add hu hv.neg bu bv.neg low

/-! ### Quotients -/

theorem log2_div_bounds {m n : Nat} (hn : 0 < n) (left : 0 < m / n) :
    (m / n).log2 + n.log2 ≤ m.log2 ∧ m.log2 ≤ (m / n).log2 + n.log2 + 1 := by
  have le : m / n * n ≤ m := Nat.div_mul_le_self m n
  have lt : m < (m / n + 1) * n := by
    rw [Nat.mul_comm]
    exact Nat.lt_mul_div_succ m hn
  have hm : 0 < m := Nat.lt_of_lt_of_le left (Nat.div_le_self m n)
  constructor
  · exact Nat.le_trans (log2_mul_bounds left hn).1 (log2_le_log2 le)
  · rw [Nat.le_iff_lt_add_one, Nat.log2_lt (Nat.ne_of_gt hm)]
    have split : (m / n).log2 + n.log2 + 1 + 1 = ((m / n).log2 + 1) + (n.log2 + 1) := by omega
    rw [split, Nat.pow_add]
    apply Nat.lt_of_lt_of_le lt
    exact Nat.mul_le_mul Nat.lt_log2_self (Nat.le_of_lt Nat.lt_log2_self)

theorem targetExponent_mono (le : j ≤ k) : format.targetExponent j ≤ format.targetExponent k := by
  simp only [Format.targetExponent]
  omega

/-- A quotient has digits enough for the format, unless it vanishes in it. -/
theorem quotient_bounds (format : Format) {m n : Nat} {e f place : Int} (hm : 0 < m)
    (hn : 0 < n)
    (placed : place = min (e - f)
      (format.targetExponent (totalExponent m e - totalExponent n f))) :
    (m <<< (e - f - place).toNat / n = 0 → place ≤ format.minExponent) ∧
      (0 < m <<< (e - f - place).toNat / n →
        place ≤ format.targetExponent
          (totalExponent (m <<< (e - f - place).toNat / n) place) ∧
        totalExponent (m <<< (e - f - place).toNat / n) place ≤
          totalExponent m e - totalExponent n f + 1) := by
  have digits := log2_shiftLeft hm (e - f - place).toNat
  generalize m <<< (e - f - place).toNat = shifted at *
  constructor
  · intro none
    have small : shifted < n := (Nat.div_eq_zero_iff_lt hn).mp none
    have fewer : shifted.log2 ≤ n.log2 := log2_le_log2 (Nat.le_of_lt small)
    have wide := format.hm
    have split : format.mantissaBits = 1 + format.mantissaBitsWithoutImplicit := rfl
    simp only [Format.targetExponent, totalExponent] at placed
    omega
  · intro left
    obtain ⟨low, high⟩ := log2_div_bounds hn left
    have size : totalExponent m e - totalExponent n f ≤ totalExponent (shifted / n) place := by
      simp only [totalExponent] at placed ⊢
      omega
    refine ⟨?_, ?_⟩
    · have : format.targetExponent _ ≤ format.targetExponent _ := targetExponent_mono size
      omega
    · simp only [totalExponent] at placed ⊢
      omega

theorem bounded_div {i : Int} (bu : Within j u) (bv : AtLeast i v)
    (low : format.minExponent ≤ j - i + 1) :
    Bounded format (j - i + 2) (UnpackedFloat.div format u v) := by
  have two : j - i + 2 = j - i + 1 + 1 := by omega
  cases v with
  | infinity _ | notANumber | zero _ => cases bv
  | finite t n f hn =>
    cases u with
    | infinity _ | notANumber => cases bu
    | zero sign => exact (isZero_div ⟨sign, rfl⟩ rfl (by rintro ⟨_, ⟨⟩⟩)).bounded
    | finite s m e hm =>
      obtain ⟨none, some⟩ := quotient_bounds format (e := e) (f := f) hm hn rfl
      change totalExponent m e ≤ j at bu
      change i ≤ totalExponent n f at bv
      rw [two]
      simp only [UnpackedFloat.div, divCore]
      generalize min (e - f) (format.targetExponent (totalExponent m e - totalExponent n f)) =
        place at *
      generalize accuracyOfFraction (m <<< (e - f - place).toNat % n) n = accuracy
      generalize m <<< (e - f - place).toNat / n = quotient at *
      rcases Nat.eq_zero_or_pos quotient with rfl | left
      · exact (rounded_roundWithAccuracy_zero _ accuracy (none rfl)).bounded low low
      · obtain ⟨enough, size⟩ := some left
        exact (rounded_roundWithAccuracy _ accuracy left enough).bounded (by omega) low

/-! ### Roots -/

theorem log2_sqrt (n : Nat) : n.sqrt.log2 = n.log2 / 2 := by
  rcases Nat.eq_zero_or_pos n with rfl | positive
  · rfl
  · rw [Nat.log2_eq_iff (Nat.ne_of_gt (Nat.sqrt_pos.mpr positive)), Nat.le_sqrt, Nat.sqrt_lt,
      ← Nat.pow_add, ← Nat.pow_add]
    constructor
    · apply Nat.le_trans _ (Nat.log2_self_le (Nat.ne_of_gt positive))
      exact Nat.pow_le_pow_right (by decide) (by omega)
    · apply Nat.lt_of_lt_of_le Nat.lt_log2_self
      exact Nat.pow_le_pow_right (by decide) (by omega)

/-- The root of a number has half of its exponent. -/
theorem rounded_sqrt {m : Nat} {e : Int} (hm : 0 < m) :
    Rounded format .positive ((totalExponent m e + 1).ediv 2)
      (UnpackedFloat.sqrt format (.finite .positive m e hm)) := by
  obtain ⟨place, placed⟩ : ∃ place,
      place = min (e.ediv 2) (format.targetExponent ((totalExponent m e + 1).ediv 2)) := ⟨_, rfl⟩
  have digits := log2_shiftLeft hm (e - 2 * place).toNat
  have positive : 0 < m <<< (e - 2 * place).toNat := by
    rw [Nat.shiftLeft_eq]
    exact Nat.mul_pos hm (Nat.two_pow_pos _)
  simp only [UnpackedFloat.sqrt, sqrtCore, ← placed]
  generalize m <<< (e - 2 * place).toNat = shifted at *
  have half : e.ediv 2 * 2 ≤ e := Int.ediv_mul_le e (by decide)
  have size : totalExponent shifted.sqrt place = (totalExponent m e + 1).ediv 2 := by
    change _ = (totalExponent m e + 1) / 2
    rw [totalExponent, totalExponent, log2_sqrt]
    omega
  rw [← size]
  apply rounded_roundWithAccuracy _ _ (Nat.sqrt_pos.mpr positive)
  rw [size]
  omega

end

end Sensorium
