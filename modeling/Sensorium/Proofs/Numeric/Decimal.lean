import Sensorium.Numeric.Decimal
import Sensorium.Proofs.Numeric.Finite

/-!
# What decimal text says

The text of a number with a fixed count of places can be read back. With the point left out, its
digits amount to a whole number of units of the last place, and of all whole numbers that one is
nearest to the number itself, or the even one if two are equally near: `Single.says_fixed`.
-/

namespace Sensorium

open Float.Model (UnpackedFloat)
open Float.Model.UnpackedFloat

namespace Decimal

/-! ## Rounding -/

/-- A whole number that is nearest to a number, and even if another one is as near. -/
structure Nearest (x : ℚ) (n : Nat) : Prop where
  near : |x - n| ≤ 1 / 2
  tie : |x - n| = 1 / 2 → Even n

section

variable {x : ℚ} {n down : Nat} {part : ℚ}

theorem nearest_of_lt (close : |x - n| < 1 / 2) : Nearest x n :=
  ⟨close.le, fun tie => (close.ne tie).elim⟩

theorem nearest_of_part_lt (positive : 0 ≤ part) (less : part < 1 / 2) :
    Nearest (down + part) down := by
  apply nearest_of_lt
  rw [add_sub_cancel_left, abs_of_nonneg positive]
  exact less

theorem nearest_of_lt_part (more : 1 / 2 < part) (below : part < 1) :
    Nearest (down + part) (down + 1) := by
  apply nearest_of_lt
  rw [Nat.cast_add_one, add_sub_add_left_eq_sub, abs_sub_comm, abs_of_pos (by linarith)]
  linarith

theorem nearest_half (down : Nat) : Nearest (down + 1 / 2) (down + down % 2) := by
  refine ⟨?_, fun _ => by grind⟩
  rcases Nat.mod_two_eq_zero_or_one down with even | odd
  · rw [even, add_zero, add_sub_cancel_left, abs_of_pos one_half_pos]
  · rw [odd, Nat.cast_add_one, add_sub_add_left_eq_sub]
    norm_num

end

theorem nearest_divToEven (numerator : Nat) {denominator : Nat} (positive : 0 < denominator) :
    Nearest (numerator / denominator) (divToEven numerator denominator) := by
  have whole := Nat.div_add_mod numerator denominator
  have remainder := Nat.mod_lt numerator positive
  unfold divToEven
  generalize numerator / denominator = down at whole ⊢
  generalize numerator % denominator = rest at whole remainder ⊢
  have size : (0 : ℚ) < denominator := by exact_mod_cast positive
  have split : (numerator : ℚ) / denominator = down + rest / denominator := by
    rw [← whole]
    push_cast
    field_simp
  have part : (0 : ℚ) ≤ rest / denominator := by positivity
  rw [split]
  rcases lt_trichotomy (2 * rest) denominator with less | half | more
  · rw [if_pos less]
    apply nearest_of_part_lt part
    rw [div_lt_div_iff₀ size two_pos]
    exact_mod_cast (by omega : rest * 2 < 1 * denominator)
  · rw [if_neg (by omega), if_neg (by omega)]
    have middle : (rest : ℚ) / denominator = 1 / 2 := by
      rw [div_eq_div_iff size.ne' two_ne_zero]
      exact_mod_cast (by omega : rest * 2 = 1 * denominator)
    rw [middle]
    exact nearest_half down
  · rw [if_neg (by omega), if_pos more]
    apply nearest_of_lt_part
    · rw [div_lt_div_iff₀ two_pos size]
      exact_mod_cast (by omega : 1 * denominator < rest * 2)
    · rw [div_lt_one size]
      exact_mod_cast remainder

/-! ## Digits -/

/-- Digits around a point, so many after it and some before it, that amount to so many units of the
    last place. -/
inductive Figures (places units : Nat) : String → Prop
  | intro (whole fraction : List Char) (leading : whole ≠ []) (length : fraction.length = places)
      (digits : ∀ c ∈ whole ++ fraction, c.isDigit = true)
      (amount : Nat.ofDigitChars 10 (whole ++ fraction) 0 = units) :
      Figures places units (String.ofList (whole ++ '.' :: fraction))

theorem figures_positional (units : Nat) {places : Nat} (some : 0 < places) :
    Figures places units (positional units places) := by
  have digits : ∀ c ∈ digits units, c.isDigit = true := fun c mem =>
    Nat.isDigit_of_mem_toDigits (by decide) (by decide) mem
  have amount : Nat.ofDigitChars 10 (Decimal.digits units) 0 = units :=
    Nat.ofDigitChars_toDigits (by decide) (by decide)
  simp only [positional, if_neg some.ne']
  generalize Decimal.digits units = written at digits amount
  generalize filled : List.replicate (places + 1 - written.length) '0' ++ written = padded
  have long : places < padded.length := by
    rw [← filled, List.length_append, List.length_replicate]
    omega
  have joined := List.take_append_drop (padded.length - places) padded
  refine .intro _ _ ?_ ?_ ?_ ?_
  · rw [← List.length_pos_iff, List.length_take]
    omega
  · rw [List.length_drop]
    omega
  · rw [joined, ← filled]
    intro c mem
    rcases List.mem_append.mp mem with zero | mem
    · rw [List.eq_of_mem_replicate zero]
      rfl
    · exact digits c mem
  · rw [joined, ← filled, Nat.ofDigitChars_append, Nat.ofDigitChars_replicate_zero, mul_zero,
      amount]

/-! ## Numbers -/

/-- A text with a minus before it if it is to be negative. -/
def signed : Sign → String → String
  | .positive, text => text
  | .negative, text => "-" ++ text

/-- What a text with so many places says of a number. A NaN and an infinity go by their names. For
    all others there are figures that amount to the nearest number of units of the last place; the
    sign is kept, also of a zero. -/
inductive Says (places : Nat) : UnpackedFloat → String → Prop
  | notANumber : Says places .notANumber "NaN"
  | infinity (sign : Sign) : Says places (.infinity sign) (signed sign "inf")
  | zero (sign : Sign) {text : String} (figures : Figures places 0 text) :
      Says places (.zero sign) (signed sign text)
  | finite (sign : Sign) (mantissa : Nat) (exponent : Int) (positive : 0 < mantissa) {units : Nat}
      {text : String} (nearest : Nearest (mantissa * 2 ^ exponent * 10 ^ places) units)
      (figures : Figures places units text) :
      Says places (.finite sign mantissa exponent positive) (signed sign text)

theorem signText_append (sign : Sign) (text : String) :
    signText sign ++ text = signed sign text := by
  cases sign with
  | positive => exact String.empty_append
  | negative => rfl

end Decimal

namespace Single

open Decimal

/-- The text of a number says what the number is, to the nearest unit of the last place. -/
theorem says_fixed {places : Nat} (some : 0 < places) (x : Single) :
    Says places x.unpack (x.fixed places) := by
  have stored := x.stored_unpack
  unfold fixed
  cases form : x.unpack with
  | notANumber => exact .notANumber
  | infinity sign =>
    simp only [signText_append]
    exact .infinity sign
  | zero sign =>
    simp only [signText_append]
    exact .zero sign (figures_positional 0 some)
  | finite sign mantissa exponent positive =>
    rw [form] at stored
    obtain ⟨-, -, least, -⟩ := stored
    change -149 ≤ exponent at least
    simp only [signText_append]
    refine .finite sign mantissa exponent positive ?_ (figures_positional _ some)
    have nearest := nearest_divToEven
      (mantissa * Nat.pow 10 places * Nat.pow 2 (exponent + binaryPlaces).toNat)
      (Nat.two_pow_pos binaryPlaces)
    -- The numerator is a whole number because no exponent is below the binary places.
    have shift : (2 : ℚ) ^ (exponent + binaryPlaces).toNat = 2 ^ exponent * 2 ^ binaryPlaces := by
      have whole : 0 ≤ exponent + binaryPlaces := by
        change 0 ≤ exponent + 160
        omega
      rw [← zpow_natCast, Int.toNat_of_nonneg whole, zpow_add₀ two_ne_zero, zpow_natCast]
    have scaled :
        ((mantissa * Nat.pow 10 places * Nat.pow 2 (exponent + binaryPlaces).toNat : Nat) : ℚ) /
          (2 ^ binaryPlaces : Nat) = mantissa * 2 ^ exponent * 10 ^ places := by
      simp only [Nat.pow_eq, Nat.cast_mul, Nat.cast_pow, Nat.cast_ofNat, shift]
      field_simp
    rw [scaled] at nearest
    exact nearest

end Single

end Sensorium
