import Sensorium.Numeric.Single

/-!
# Decimal text of single-precision numbers

Three ways to write a number in decimal, all exact: with the fewest digits that read
back, with a fixed number of places, and as a whole number of small units. The value
`mantissa * 2 ^ exponent` is handled as a natural number over a fixed denominator, so
no step rounds before the last one.
-/

namespace Sensorium

open Float.Model (UnpackedFloat)
open Float.Model.UnpackedFloat (Sign)

namespace Decimal

/-- Every binary32 number, and half of the gap to its neighbours, is a whole multiple of
    `2 ^ -binaryPlaces`. -/
def binaryPlaces : Nat := 160

/-- No number needs more decimal places than these to be told from its neighbours. -/
def decimalPlaces : Nat := 60

/-- No finite number reaches ten to this power. -/
def topPlace : Nat := 39

/-- A grid point `digits * 10 ^ (place - decimalPlaces)`. -/
structure GridPoint where
  digits : Nat
  place : Nat
  deriving DecidableEq, Repr

/-- The numbers that round to one binary32 number, in units of
    `2 ^ -binaryPlaces * 10 ^ -decimalPlaces`. The ends belong to it when the mantissa is
    even. -/
structure Interval where
  low : Nat
  value : Nat
  high : Nat
  closed : Bool

def Interval.contains (interval : Interval) (units : Nat) : Bool :=
  if interval.closed then interval.low ≤ units && units ≤ interval.high
  else interval.low < units && units < interval.high

/-- The interval around `mantissa * 2 ^ exponent`. The gap below a power of two is half of
    the gap above it, unless the exponent is the least one. -/
def Interval.around (mantissa : Nat) (exponent : Int) : Interval :=
  let unit := Nat.pow 2 (exponent + binaryPlaces).toNat * Nat.pow 10 decimalPlaces
  let below := if mantissa = Nat.pow 2 23 ∧ -149 < exponent then unit / 4 else unit / 2
  { low := mantissa * unit - below
    value := mantissa * unit
    high := mantissa * unit + unit / 2
    closed := mantissa % 2 = 0 }

/-- The point of the grid of one place that lies in the interval and is nearest to its
    value, the upper one of two equally near. Only the value's two neighbours on the grid
    have to be tried. -/
def Interval.nearest? (interval : Interval) (place : Nat) : Option GridPoint :=
  let step := Nat.pow 10 place * Nat.pow 2 binaryPlaces
  let down := interval.value / step
  let rest := interval.value % step
  let downFits := down ≠ 0 && interval.contains (down * step)
  let upFits := interval.contains ((down + 1) * step)
  if upFits && (!downFits || step ≤ 2 * rest) then some ⟨down + 1, place⟩
  else if downFits then some ⟨down, place⟩
  else none

/-- The coarsest grid that has a point in the interval gives the fewest digits. -/
def Interval.shortest (interval : Interval) : GridPoint :=
  ((List.range (decimalPlaces + topPlace + 1)).reverse.findSome? interval.nearest?).getD ⟨0, 0⟩

def digits (n : Nat) : List Char := Nat.toDigits 10 n

/-- Writes `units / 10 ^ places` with all its places. -/
def positional (units places : Nat) : String :=
  let written := digits units
  let padded := List.replicate (places + 1 - written.length) '0' ++ written
  let whole := padded.take (padded.length - places)
  let fraction := padded.drop (padded.length - places)
  String.ofList (if places = 0 then whole else whole ++ '.' :: fraction)

def GridPoint.text (point : GridPoint) : String :=
  if decimalPlaces ≤ point.place then
    positional (point.digits * Nat.pow 10 (point.place - decimalPlaces)) 0
  else positional point.digits (decimalPlaces - point.place)

def signText : Sign → String
  | .positive => ""
  | .negative => "-"

/-- The quotient rounded to a whole number, a half going to the even neighbour. -/
def divToEven (numerator denominator : Nat) : Nat :=
  let down := numerator / denominator
  let rest := 2 * (numerator % denominator)
  if rest < denominator then down
  else if denominator < rest then down + 1
  else down + down % 2

/-- The quotient rounded to a whole number, a half going up. -/
def divHalfUp (numerator denominator : Nat) : Nat :=
  (2 * numerator + denominator) / (2 * denominator)

end Decimal

namespace Single

open Decimal

/-- The number with the fewest digits that read back as the same number, without an
    exponent and without a point when it is whole. -/
def shortest (x : Single) : String :=
  match x.unpack with
  | .notANumber => "NaN"
  | .infinity sign => signText sign ++ "inf"
  | .zero sign => signText sign ++ "0"
  | .finite sign mantissa exponent _ =>
    signText sign ++ (Interval.around mantissa exponent).shortest.text

/-- The number with a fixed count of places, a tie going to the even last digit. The sign
    is kept when only zeros remain. -/
def fixed (places : Nat) (x : Single) : String :=
  match x.unpack with
  | .notANumber => "NaN"
  | .infinity sign => signText sign ++ "inf"
  | .zero sign => signText sign ++ positional 0 places
  | .finite sign mantissa exponent _ =>
    let scaled := mantissa * Nat.pow 10 places * Nat.pow 2 (exponent + binaryPlaces).toNat
    signText sign ++ positional (divToEven scaled (Nat.pow 2 binaryPlaces)) places

/-- The number of units, `perUnit` of which make one, nearest to `x`, a half going away
    from zero; none for a NaN and from `2 ^ 53` units on. -/
def units? (perUnit : Nat) (x : Single) : Option Int :=
  match x.unpack with
  | .notANumber | .infinity _ => none
  | .zero _ => some 0
  | .finite sign mantissa exponent _ =>
    let scaled := mantissa * perUnit * Nat.pow 2 (exponent + binaryPlaces).toNat
    if Nat.pow 2 53 * Nat.pow 2 binaryPlaces ≤ scaled then none
    else some (sign.apply (divHalfUp scaled (Nat.pow 2 binaryPlaces)))

/-- The number nearest to a decimal fraction that is first rounded to double precision. -/
def ofDecimal (negative : Bool) (digits places : Nat) : Single :=
  let size : Float := OfScientific.ofScientific digits true places
  narrow (if negative then -size else size)

def ofFixed? (text : String) : Option Single :=
  let (negative, body) : Bool × List Char := match text.toList with
    | '-' :: rest => (true, rest)
    | rest => (false, rest)
  let whole := body.takeWhile (· ≠ '.')
  let fraction := (body.dropWhile (· ≠ '.')).drop 1
  let size : Option Single :=
    if body = "NaN".toList then some ⟨0x7fc00000⟩
    else if body = "inf".toList then some ⟨0x7f800000⟩
    else if whole.isEmpty || !(whole ++ fraction).all Char.isDigit then none
    else
      let value := (whole ++ fraction).foldl (fun n c => 10 * n + (c.toNat - '0'.toNat)) 0
      some (OfScientific.ofScientific value true fraction.length)
  size.map fun x => if negative then -x else x

end Single

end Sensorium
