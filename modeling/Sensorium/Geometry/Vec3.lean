import Sensorium.Numeric.Single

/-!
# Vectors of three components

A `Vec3` holds three numbers of one precision. All operations act component by
component, in the order in which they are written, so nothing is reassociated.
-/

namespace Sensorium

/-- Three components along the axes x, y and z. -/
structure Vec3 (α : Type) where
  x : α
  y : α
  z : α
  deriving DecidableEq, Repr, Inhabited

namespace Vec3

variable {α β : Type}

/-- The vector with one number in every component. -/
def all (a : α) : Vec3 α := ⟨a, a, a⟩

def map (f : α → β) (v : Vec3 α) : Vec3 β := ⟨f v.x, f v.y, f v.z⟩

def zipWith (f : α → α → α) (v w : Vec3 α) : Vec3 α :=
  ⟨f v.x w.x, f v.y w.y, f v.z w.z⟩

/-- The components in the order of the axes. -/
def toList (v : Vec3 α) : List α := [v.x, v.y, v.z]

instance [Add α] : Add (Vec3 α) := ⟨zipWith (· + ·)⟩
instance [Sub α] : Sub (Vec3 α) := ⟨zipWith (· - ·)⟩
instance [Neg α] : Neg (Vec3 α) := ⟨map (- ·)⟩

def scaleBy [Mul α] (v w : Vec3 α) : Vec3 α := zipWith (· * ·) v w

instance [Mul α] : HMul (Vec3 α) α (Vec3 α) := ⟨fun v s => v.map (· * s)⟩

instance [Div α] : HDiv (Vec3 α) α (Vec3 α) := ⟨fun v s => v.map (· / s)⟩

def cross [Mul α] [Sub α] (a b : Vec3 α) : Vec3 α :=
  ⟨a.y * b.z - a.z * b.y, a.z * b.x - a.x * b.z, a.x * b.y - a.y * b.x⟩

def normSquared (v : Vec3 Single) : Single := v.x * v.x + v.y * v.y + v.z * v.z

def norm (v : Vec3 Single) : Single := v.normSquared.sqrt

def zero : Vec3 Single := all 0

/-- Numerical equality in every component. -/
def eqv (v w : Vec3 Single) : Bool := v.x.eqv w.x && v.y.eqv w.y && v.z.eqv w.z

def isFinite (v : Vec3 Single) : Bool := v.x.isFinite && v.y.isFinite && v.z.isFinite

def widen (v : Vec3 Single) : Vec3 Float := v.map Single.widen

def narrow (v : Vec3 Float) : Vec3 Single := v.map Single.narrow

end Vec3

end Sensorium
