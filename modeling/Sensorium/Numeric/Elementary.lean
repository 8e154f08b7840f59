import Sensorium.Numeric.Single

/-!
# Elementary functions

`exp`, `sin`, `cos`, `asin` and `atan2` for numbers of any binary format. Each takes
its argument exactly, computes in fixed point with `fractionBits` binary places and
rounds once, so the result is within one unit in the last place of the true value.

A fixed-point number is a natural number of units of `2 ^ -fractionBits`; signs are
handled apart, so no intermediate value is ever negative.
-/

namespace Sensorium.Elementary

open Float.Model (UnpackedFloat Format)
open Float.Model.UnpackedFloat (Sign)

/-- Binary places of a fixed-point number. -/
def fractionBits : Nat := 128

def one : Nat := Nat.pow 2 fractionBits

/-- The natural logarithm of two, in fixed point. -/
def ln2 : Nat := 0xb17217f7d1cf79abc9e3b39803f2f6af

/-- Binary places of `halfPiDigits`: more than the largest double precision number has
    before the point, with `fractionBits` to spare. -/
def halfPiBits : Nat := 1216

/-- The number π/2 to `halfPiBits` binary places: the whole part, then 64 places at a
    time. -/
def halfPiDigits : Nat :=
  let places : List Nat := [
    0x921fb54442d18469, 0x898cc51701b839a2, 0x52049c1114cf98e8, 0x04177d4c76273644,
    0xa29410f31c6809bb, 0xdf2a33679a748636, 0x605614dbe4be286e, 0x9fc26adadaa3848b,
    0xc90b6aecc4bcfd8d, 0xe89885d34c6fdad6, 0x17feb96de80d6fdb, 0xdc70d7f6b5133f4b,
    0x5d3e4822f8963fcc, 0x9250cca3d9c8b67b, 0x8400f97142c77e0b, 0x31b4906c38aba734,
    0xd22c7f51fa499ebf, 0x06caba47b9475b2c, 0x38c5e6ac410aa577]
  places.foldl (fun digits word => digits <<< 64 ||| word) 1

/-- The number π/2, in fixed point. -/
def halfPi : Nat := halfPiDigits >>> (halfPiBits - fractionBits)

def mul (a b : Nat) : Nat := (a * b) >>> fractionBits

/-- The number `mantissa * 2 ^ exponent` to `places` binary places. -/
def toFixed (mantissa : Nat) (exponent : Int) (places : Nat) : Nat :=
  if 0 ≤ exponent + places then mantissa <<< (exponent + places).toNat
  else mantissa >>> (-(exponent + places)).toNat

/-- The binary logarithm of `mantissa * 2 ^ exponent`, rounded down. -/
def magnitude (mantissa : Nat) (exponent : Int) : Int := mantissa.log2 + exponent

/-- Below `2 ^ tinyMagnitude` an odd function with slope one equals its argument to
    within half a unit in the last place, and an even one that starts at one equals one. -/
def tinyMagnitude : Int := -30

/-- Rounds a fixed-point number to a format. -/
def ofFixed (format : Format) (sign : Sign) (value : Nat) : UnpackedFloat :=
  UnpackedFloat.round format sign value (-fractionBits)

/-! ## Exponential -/

/-- The power series of the exponential function on `[0, 1)`, in Horner's form. -/
def expSeries (r : Nat) : Nat :=
  (List.range 36).foldr (fun n tail => one + mul r tail / (n + 1)) one

/-- From this magnitude of a negative argument on, the exponential is below half the
    smallest double precision number. -/
def expUnderflow : Nat := 746

/-- From this argument on, the exponential is too large for double precision. -/
def expOverflow : Nat := 1024

/-- The exponential function. A magnitude `k ln 2 + r` gives `2 ^ k * exp r`, and the
    reciprocal of that when the argument is negative. -/
def exp (format : Format) : UnpackedFloat → UnpackedFloat
  | .notANumber => .notANumber
  | .infinity .positive => .infinity .positive
  | .infinity .negative => .zero .positive
  | .zero _ => UnpackedFloat.round format .positive 1 0
  | .finite sign mantissa exponent _ =>
    if 10 < magnitude mantissa exponent then
      match sign with
      | .positive => .infinity .positive
      | .negative => .zero .positive
    else
      let size := toFixed mantissa exponent fractionBits
      let k : Int := (size / ln2 : Nat)
      let growth := expSeries (size % ln2)
      match sign with
      | .positive =>
        if expOverflow * one ≤ size then .infinity .positive
        else UnpackedFloat.round format .positive growth (k - fractionBits)
      | .negative =>
        if expUnderflow * one ≤ size then .zero .positive
        else UnpackedFloat.round format .positive (one * one / growth) (-k - fractionBits)

/-! ## Sine and cosine -/

/-- The quarter turns in `mantissa * 2 ^ exponent`, and the rest of the angle in fixed
    point. The angle is taken to as many places more as it has digits before the point. -/
def quarterTurns (mantissa : Nat) (exponent : Int) : Nat × Nat :=
  let extra := (magnitude mantissa exponent + 1).toNat
  let places := fractionBits + extra
  let angle := toFixed mantissa exponent places
  let quarter := halfPiDigits >>> (halfPiBits - places)
  (angle / quarter, (angle % quarter) >>> extra)

/-- The alternating series `1 - x/(s (s+1)) (1 - x/((s+2) (s+3)) (1 - …))` for the square
    `x` of an angle below one: the sine over its angle for `s = 2`, the cosine for
    `s = 1`. -/
def circularSeries (start : Nat) (square : Nat) : Nat :=
  (List.range 18).foldr
    (fun n tail => one - mul square tail / ((start + 2 * n) * (start + 2 * n + 1))) one

/-- Sine and cosine of an angle in the first quarter turn. The half nearer to the end is
    computed from the complement of the angle. -/
def firstQuarter (angle : Nat) : Nat × Nat :=
  if 2 * angle ≤ halfPi then
    let square := mul angle angle
    (mul angle (circularSeries 2 square), circularSeries 1 square)
  else
    let rest := halfPi - angle
    let square := mul rest rest
    (circularSeries 1 square, mul rest (circularSeries 2 square))

/-- Sine of the angle `mantissa * 2 ^ exponent`: its sign and its size in fixed point. -/
def sineOf (mantissa : Nat) (exponent : Int) : Sign × Nat :=
  let (turns, rest) := quarterTurns mantissa exponent
  let (sine, cosine) := firstQuarter rest
  match turns % 4 with
  | 0 => (.positive, sine)
  | 1 => (.positive, cosine)
  | 2 => (.negative, sine)
  | _ => (.negative, cosine)

/-- Cosine of the angle `mantissa * 2 ^ exponent`: its sign and its size in fixed point. -/
def cosineOf (mantissa : Nat) (exponent : Int) : Sign × Nat :=
  let (turns, rest) := quarterTurns mantissa exponent
  let (sine, cosine) := firstQuarter rest
  match turns % 4 with
  | 0 => (.positive, cosine)
  | 1 => (.negative, sine)
  | 2 => (.negative, cosine)
  | _ => (.positive, sine)

def sin (format : Format) : UnpackedFloat → UnpackedFloat
  | .finite sign mantissa exponent positive =>
    if magnitude mantissa exponent < tinyMagnitude then
      .finite sign mantissa exponent positive
    else
      let (side, size) := sineOf mantissa exponent
      ofFixed format (sign * side) size
  | .zero sign => .zero sign
  | _ => .notANumber

def cos (format : Format) : UnpackedFloat → UnpackedFloat
  | .finite _ mantissa exponent _ =>
    if magnitude mantissa exponent < tinyMagnitude then
      UnpackedFloat.round format .positive 1 0
    else
      let (side, size) := cosineOf mantissa exponent
      ofFixed format side size
  | .zero _ => UnpackedFloat.round format .positive 1 0
  | _ => .notANumber

/-! ## Inverse functions -/

/-- The arc whose tangent is `t`, for `t` up to one half, by Euler's series
    `t/(1+t²) (1 + 2/3 z (1 + 4/5 z (1 + …)))` with `z = t²/(1+t²)`. -/
def arctanSeries (t : Nat) : Nat :=
  let square := mul t t
  let z := square * one / (one + square)
  let sum := (List.range 56).foldr
    (fun n tail => one + mul z tail * (2 * n + 2) / (2 * n + 3)) one
  mul (t * one / (one + square)) sum

/-- The arc whose tangent is `t`, for `t` up to one. The arcs of `t` and of
    `(1 - t)/(1 + t)` add up to an eighth of a turn. -/
def arctanUnit (t : Nat) : Nat :=
  if 5 * t ≤ 2 * one then arctanSeries t
  else halfPi / 2 - arctanSeries ((one - t) * one / (one + t))

/-- The angle at the origin from the positive first axis to the point `(across, up)`;
    both are lengths in one unit, not both zero. -/
def angleTo (up across : Nat) : Nat :=
  if up ≤ across then arctanUnit (up * one / across)
  else halfPi - arctanUnit (across * one / up)

/-- The arcsine; NaN for arguments outside `[-1, 1]`. -/
def asin (format : Format) : UnpackedFloat → UnpackedFloat
  | .finite sign mantissa exponent positive =>
    if magnitude mantissa exponent < tinyMagnitude then
      .finite sign mantissa exponent positive
    else
      let size := toFixed mantissa exponent fractionBits
      if one < size then .notANumber
      else ofFixed format sign (angleTo size (one * one - size * size).sqrt)
  | .zero sign => .zero sign
  | _ => .notANumber

def halfTurn (format : Format) (sign : Sign) : UnpackedFloat := ofFixed format sign (2 * halfPi)

def quarterTurn (format : Format) (sign : Sign) : UnpackedFloat := ofFixed format sign halfPi

/-- The angle of the point `(x, y)`, with the sign of `y`. A zero `x` counts as being on
    the side of its sign, and two infinite coordinates as equal in size. -/
def atan2 (format : Format) : UnpackedFloat → UnpackedFloat → UnpackedFloat
  | .notANumber, _ | _, .notANumber => .notANumber
  | .zero sign, .zero .positive | .zero sign, .infinity .positive
  | .zero sign, .finite .positive _ _ _ | .finite sign _ _ _, .infinity .positive => .zero sign
  | .zero sign, .zero .negative | .zero sign, .infinity .negative
  | .zero sign, .finite .negative _ _ _ | .finite sign _ _ _, .infinity .negative =>
    halfTurn format sign
  | .infinity sign, .infinity .positive => ofFixed format sign (halfPi / 2)
  | .infinity sign, .infinity .negative => ofFixed format sign (halfPi + halfPi / 2)
  | .infinity sign, .zero _ | .infinity sign, .finite _ _ _ _
  | .finite sign _ _ _, .zero _ => quarterTurn format sign
  | .finite sign my ey hy, .finite side mx ex hx =>
    let up := my <<< (ey - ex).toNat
    let across := mx <<< (ex - ey).toNat
    match side with
    | .negative => ofFixed format sign (2 * halfPi - angleTo up across)
    | .positive =>
      if magnitude my ey - magnitude mx ex < tinyMagnitude then
        UnpackedFloat.div format (.finite sign my ey hy) (.finite .positive mx ex hx)
      else ofFixed format sign (angleTo up across)

end Sensorium.Elementary

namespace Sensorium

def doubleExp (x : Float) : Float := packDouble (Elementary.exp .binary64 (unpackDouble x))

def doubleSin (x : Float) : Float := packDouble (Elementary.sin .binary64 (unpackDouble x))

def doubleCos (x : Float) : Float := packDouble (Elementary.cos .binary64 (unpackDouble x))

namespace Single

def sin (x : Single) : Single := pack (Elementary.sin .binary32 x.unpack)

def cos (x : Single) : Single := pack (Elementary.cos .binary32 x.unpack)

def asin (x : Single) : Single := pack (Elementary.asin .binary32 x.unpack)

/-- The angle in radians of the point with ordinate `y` and abscissa `x`. -/
def atan2 (y x : Single) : Single := pack (Elementary.atan2 .binary32 y.unpack x.unpack)

end Single

end Sensorium
