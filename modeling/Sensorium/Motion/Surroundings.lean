import Sensorium.Motion.Track
import Sensorium.Settings

/-!
# The surroundings of a device

The magnetic field and the five scalar conditions. Each approaches its target
exponentially; gravity never changes.
-/

namespace Sensorium

structure Surroundings where
  settings : Settings
  now : Nanos
  field : Track (Vec3 Single)
  conditions : Conditions (Track Single)
  deriving DecidableEq, Repr

namespace Surroundings

/-- Surroundings at rest where the settings start them, at moment zero. -/
def start (settings : Settings) : Surroundings where
  settings := settings
  now := 0
  field := .resting 0 settings.magneticField
  conditions := settings.conditions.map (.resting 0)

def gravity (s : Surroundings) : Vec3 Single := s.settings.gravity

/-- The share of the distance to its target that a track still has before it. -/
def remaining (s : Surroundings) (since : Nanos) : Float :=
  decay s.settings.ambientRate.widen (Nanos.secondsSince since s.now)

def scalarAt (s : Surroundings) (track : Track Single) : Single :=
  track.target + Single.narrow ((track.start - track.target).widen * s.remaining track.since)

def vectorAt (s : Surroundings) (track : Track (Vec3 Single)) : Vec3 Single :=
  track.target + ((track.start - track.target).widen * s.remaining track.since).narrow

def fieldAs (s : Surroundings) : Aspect → Vec3 Single
  | .current | .still => s.vectorAt s.field
  | .target => s.field.target

def conditionAs (s : Surroundings) (condition : Condition) : Aspect → Single
  | .current | .still => s.scalarAt (s.conditions.get condition)
  | .target => (s.conditions.get condition).target

def setField (s : Surroundings) (target : Vec3 Single) (approach : Approach) : Surroundings :=
  { s with field := .retarget s.now (s.vectorAt s.field) target approach }

def setCondition (s : Surroundings) (condition : Condition) (target : Single)
    (approach : Approach) : Surroundings :=
  let current := s.scalarAt (s.conditions.get condition)
  { s with conditions := s.conditions.set condition (.retarget s.now current target approach) }

/-- The distance from a target of this size that counts as none. -/
def tolerance (s : Surroundings) (size : Single) : Single := s.settings.ambientEpsilon * size.max 1

/-- True when a scalar track is as good as at its target. -/
def scalarAtRest (s : Surroundings) (track : Track Single) : Bool :=
  (s.scalarAt track - track.target).abs.lt (s.tolerance track.target.abs)

def fieldAtRest (s : Surroundings) : Bool :=
  (s.vectorAt s.field - s.field.target).norm.lt (s.tolerance s.field.target.norm)

def atRest (s : Surroundings) : Bool := s.conditions.all s.scalarAtRest && s.fieldAtRest

/-- The surroundings put exactly onto their targets. -/
def settled (s : Surroundings) : Surroundings :=
  { s with
    field := s.field.arrived s.now
    conditions := s.conditions.map (·.arrived s.now) }

/-- The surroundings at another moment, and whether they still change. Once at rest they
    are put exactly onto their targets. -/
def advance (s : Surroundings) (now : Nanos) : Surroundings × Activity :=
  let moved := { s with now := now }
  if moved.atRest then (moved.settled, .stable) else (moved, .changing)

end Surroundings

end Sensorium
