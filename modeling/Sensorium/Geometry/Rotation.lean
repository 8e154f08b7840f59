import Sensorium.Geometry.Vec3
import Sensorium.Numeric.Elementary

/-!
# Rotations

A rotation is a quaternion of unit length. Products and inverses keep the length only
up to rounding, and nothing restores it. Rotations are written and read as angles
about the axes x, y and z in degrees, applied as `x * y * z`.
-/

namespace Sensorium

/-- A rotation as the quaternion `w + i·I + j·J + k·K`. -/
structure Rotation where
  w : Single
  i : Single
  j : Single
  k : Single
  deriving DecidableEq, Repr, Inhabited

namespace Rotation

def identity : Rotation := ⟨1, 0, 0, 0⟩

def imaginary (q : Rotation) : Vec3 Single := ⟨q.i, q.j, q.k⟩

/-- The rotation by `angle` radians about an axis of length one. -/
def ofAxisAngle (axis : Vec3 Single) (angle : Single) : Rotation :=
  let half := angle / 2
  let v := axis * half.sin
  ⟨half.cos, v.x, v.y, v.z⟩

def inverse (q : Rotation) : Rotation := ⟨q.w, -q.i, -q.j, -q.k⟩

/-- The rotation `b` followed by `a`. -/
def mul (a b : Rotation) : Rotation where
  w := a.w * b.w - a.i * b.i - a.j * b.j - a.k * b.k
  i := a.w * b.i + a.i * b.w + a.j * b.k - a.k * b.j
  j := a.w * b.j - a.i * b.k + a.j * b.w + a.k * b.i
  k := a.w * b.k + a.i * b.j - a.j * b.i + a.k * b.w

instance : Mul Rotation := ⟨mul⟩

/-- The angle of a rotation in radians, from zero to half a turn. -/
def angle (q : Rotation) : Single := Single.atan2 q.imaginary.norm q.w.abs * 2

/-- Axis and angle of a rotation, if it moves anything. -/
def axisAngle (q : Rotation) : Option (Vec3 Single × Single) :=
  let v := if q.w.lt 0 || q.w.isNaN then -q.imaginary else q.imaginary
  let square := v.normSquared
  if Single.lt 0 square then some (v / square.sqrt, q.angle) else none

def angleTo (a b : Rotation) : Single := (b * a.inverse).angle

def rotate (q : Rotation) (r : Vec3 Single) : Vec3 Single :=
  let t := q.imaginary.cross r * (2 : Single)
  t * q.w + q.imaginary.cross t + r

def radiansPerDegree : Single := ⟨0x3c8efa35⟩

def degreesPerRadian : Single := ⟨0x42652ee1⟩

/-- The rotation with these angles in degrees about x, y and z. -/
def ofEuler (degrees : Vec3 Single) : Rotation :=
  let radians := degrees * radiansPerDegree
  ofAxisAngle ⟨1, 0, 0⟩ radians.x * ofAxisAngle ⟨0, 1, 0⟩ radians.y
    * ofAxisAngle ⟨0, 0, 1⟩ radians.z

/-- Above this sine of the y angle, the x and z axes coincide and only the sum of their
    angles is known. -/
def lockedSine : Single := 1 - 1e-6

/-- The angles about x, y and z in degrees. Where the x and z axes coincide, the whole
    turn is given to x. -/
def toEuler (q : Rotation) : Vec3 Single :=
  let ww := q.w * q.w
  let ii := q.i * q.i
  let jj := q.j * q.j
  let kk := q.k * q.k
  let m00 := ww + ii - jj - kk
  let m01 := q.i * q.j * 2 - q.w * q.k * 2
  let m02 := q.w * q.j * 2 + q.i * q.k * 2
  let m11 := ww - ii + jj - kk
  let m12 := q.j * q.k * 2 - q.w * q.i * 2
  let m21 := q.w * q.i * 2 + q.j * q.k * 2
  let m22 := ww - ii - jj + kk
  let sine := m02.clamp (-1) 1
  let (x, z) :=
    if lockedSine.lt sine.abs then (Single.atan2 m21 m11, 0)
    else (Single.atan2 (-m12) m22, Single.atan2 (-m01) m00)
  (⟨x, sine.asin, z⟩ : Vec3 Single) * degreesPerRadian

end Rotation

end Sensorium
