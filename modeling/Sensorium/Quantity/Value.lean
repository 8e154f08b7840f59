import Sensorium.Geometry.Vec3

/-!
# Values and how they are asked for

A parameter or a sensor has a value of one of two kinds, a single number or a vector.
A value that arrives in the wrong kind counts as the zero of the right one.
-/

namespace Sensorium

inductive Kind where
  | scalar
  | vector
  deriving DecidableEq, Repr

/-- A number or a vector. -/
inductive Value where
  | scalar (number : Single)
  | vector (components : Vec3 Single)
  deriving DecidableEq, Repr, Inhabited

namespace Kind

def size : Kind → Nat
  | scalar => 1
  | vector => 3

def zero : Kind → Value
  | scalar => .scalar 0
  | vector => .vector .zero

end Kind

namespace Value

def kind : Value → Kind
  | scalar _ => .scalar
  | vector _ => .vector

def scalar? : Value → Option Single
  | scalar number => some number
  | vector _ => none

def vector? : Value → Option (Vec3 Single)
  | scalar _ => none
  | vector components => some components

/-- The number; a vector counts as zero. -/
def toScalar (v : Value) : Single := v.scalar?.getD 0

/-- The vector; a number counts as the zero vector. -/
def toVector (v : Value) : Vec3 Single := v.vector?.getD .zero

def toList : Value → List Single
  | scalar number => [number]
  | vector components => components.toList

/-- The value that these components are, or the zero of the kind if they are not as many
    as the kind has. -/
def ofList (kind : Kind) (components : List Single) : Value :=
  match kind, components with
  | .scalar, [number] => .scalar number
  | .vector, [x, y, z] => .vector ⟨x, y, z⟩
  | _, _ => kind.zero

/-- The value itself if it is of this kind, else the zero of the kind. -/
def conform (v : Value) (kind : Kind) : Value :=
  if v.kind = kind then v else kind.zero

end Value

/-- Which value of a parameter is meant. -/
inductive Aspect where
  | current
  | target
  /-- The value at this moment without the tremor of the hand. -/
  | still
  deriving DecidableEq, Repr

/-- How a new target is reached. -/
inductive Approach where
  | step
  | smooth
  deriving DecidableEq, Repr

/-- Whether anything is still on its way to a target. -/
inductive Activity where
  | stable
  | changing
  deriving DecidableEq, Repr

end Sensorium
