/-!
# Single-precision numbers

Every quantity a device reports is a binary32 number. A `Single` keeps the 32
bits of the number themselves, so a stored value keeps its bits whatever they
are: the payload of a NaN survives storage, saving and loading, and only
arithmetic normalises it.

Arithmetic is that of IEEE 754 with rounding to nearest, ties to even. A double
precision number is core's `Float`; `Single.widen` and `Single.narrow` convert.
-/

namespace Sensorium

open Float.Model (UnpackedFloat Format)

/-- A binary32 number, given by its bits. -/
structure Single where
  bits : UInt32
  deriving DecidableEq, Repr, Inhabited

namespace Single

/-- The arithmetic value of the bits. All NaNs have the same one. -/
def toFloat32 (x : Single) : Float32 := Float32.ofBits x.bits

def ofFloat32 (x : Float32) : Single := ⟨x.toBits⟩

instance : OfNat Single 0 := ⟨⟨0⟩⟩
instance : OfNat Single 1 := ⟨⟨0x3f800000⟩⟩
instance : OfNat Single 2 := ⟨⟨0x40000000⟩⟩
instance : OfScientific Single := ⟨fun m s e => ofFloat32 (OfScientific.ofScientific m s e)⟩

instance : Add Single := ⟨fun x y => ofFloat32 (x.toFloat32 + y.toFloat32)⟩
instance : Sub Single := ⟨fun x y => ofFloat32 (x.toFloat32 - y.toFloat32)⟩
instance : Mul Single := ⟨fun x y => ofFloat32 (x.toFloat32 * y.toFloat32)⟩
instance : Div Single := ⟨fun x y => ofFloat32 (x.toFloat32 / y.toFloat32)⟩

/-- Negation flips the sign bit, also of a zero and of a NaN. -/
instance : Neg Single := ⟨fun x => ⟨x.bits ^^^ 0x80000000⟩⟩

/-- The magnitude clears the sign bit. -/
def abs (x : Single) : Single := ⟨x.bits &&& 0x7fffffff⟩

def sqrt (x : Single) : Single := ofFloat32 x.toFloat32.sqrt

/-- Numerical order; false when a side is NaN, and zeros of either sign are level. -/
def lt (x y : Single) : Bool := x.toFloat32 < y.toFloat32

/-- Numerical equality; false when a side is NaN, and zeros of either sign are equal. -/
def eqv (x y : Single) : Bool := x.toFloat32 == y.toFloat32

def isNaN (x : Single) : Bool := x.toFloat32.isNaN

def isFinite (x : Single) : Bool := x.toFloat32.isFinite

/-- The larger of two numbers; of a number and a NaN, the number. -/
def max (x y : Single) : Single :=
  if x.isNaN then y else if x.lt y then y else x

/-- The number nearest to `x` between `lo` and `hi`; a NaN is kept. -/
def clamp (x lo hi : Single) : Single :=
  if x.lt lo then lo else if hi.lt x then hi else x

/-- Sign, mantissa and exponent of the number. -/
def unpack (x : Single) : UnpackedFloat :=
  UnpackedFloat.unpack Format.binary32 x.bits.toBitVec

/-- The number with this sign, mantissa and exponent, which must be in binary32 form. -/
def pack (u : UnpackedFloat) : Single := ⟨(Float32.Model.pack u).toBits⟩

end Single

/-- Rounds a number to a format. Zeros, infinities and NaN belong to every format. -/
def roundTo (format : Format) : UnpackedFloat → UnpackedFloat
  | .finite sign mantissa exponent _ => UnpackedFloat.round format sign mantissa exponent
  | other => other

/-- The double precision number with this sign, mantissa and exponent, which must be in
    binary64 form. -/
def packDouble (u : UnpackedFloat) : Float := Float.ofModel (Float.Model.pack u)

def unpackDouble (x : Float) : UnpackedFloat := x.toModel.unpack

namespace Single

def widen (x : Single) : Float := packDouble (roundTo .binary64 x.unpack)

/-- The nearest single precision number; too large a number becomes infinite. -/
def narrow (x : Float) : Single := pack (roundTo .binary32 (unpackDouble x))

end Single

def doubleOfInt (n : Int) : Float :=
  packDouble (UnpackedFloat.round .binary64 (if n < 0 then .negative else .positive) n.natAbs 0)

end Sensorium
