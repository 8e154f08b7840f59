import Sensorium.Geometry.Rotation
import Sensorium.Motion.Track
import Sensorium.Settings

/-!
# The body of a device

A rigid body that is pulled to a target position by a critically damped spring, or
brought to a target velocity exponentially, that turns to a target rotation along the
shortest arc, and that trembles in the hand within a bound. All of it is a closed form
of the time since the respective target was set.
-/

namespace Sensorium

/-- What a body is moved towards. -/
inductive Aim where
  | position (target : Vec3 Single)
  | velocity (target : Vec3 Single)
  deriving DecidableEq, Repr

/-- How a body moves through space: where it was and how fast when its aim was set. -/
structure Motion where
  since : Nanos
  position : Vec3 Single
  velocity : Vec3 Single
  aim : Aim
  deriving DecidableEq, Repr

/-- Position and its first two derivatives at one moment. -/
structure Kinematics where
  position : Vec3 Single
  velocity : Vec3 Single
  acceleration : Vec3 Single
  deriving DecidableEq, Repr

structure Body where
  settings : Settings
  now : Nanos
  motion : Motion
  turn : Track Rotation
  tremor : Track Single
  deriving DecidableEq, Repr

namespace Motion

def resting (since : Nanos) (position : Vec3 Single) : Motion :=
  ⟨since, position, .zero, .position position⟩

end Motion

namespace Kinematics

def zero : Kinematics := ⟨.zero, .zero, .zero⟩

/-- The state of a spring with natural frequency `w` a time `t` after it was let go at
    `position` with `velocity`, its end fixed at `target`. -/
def spring (w t : Float) (position velocity target : Vec3 Single) : Kinematics :=
  let decay := decay w t
  let d := (position - target).widen
  let v := velocity.widen
  let c := v + d * w
  { position := target + ((d + c * t) * decay).narrow
    velocity := ((v - c * (w * t)) * decay).narrow
    acceleration := ((c * (w * t) - c - v) * (w * decay)).narrow }

/-- The state of a body a time `t` after it was at `position` with `velocity`, when it
    approaches the velocity `target` at the rate `w`. -/
def drive (w t : Float) (position velocity target : Vec3 Single) : Kinematics :=
  let decay := decay w t
  let v := target.widen
  let d := (velocity - target).widen
  { position := position + (v * t + d * ((1 - decay) / w)).narrow
    velocity := (v + d * decay).narrow
    acceleration := (d * (-w * decay)).narrow }

/-- The ratio of the circumference of a circle to its radius. -/
def fullTurn : Float := packDouble (Elementary.ofFixed .binary64 .positive (4 * Elementary.halfPi))

/-- The trembling with the given frequencies at a moment, when its bound approaches
    `target` from `start` at the rate `w` and has done so for a time `t`. -/
def tremble (frequencies : Vec3 Single) (w t : Float) (now : Nanos) (start target : Single) :
    Kinematics :=
  let goal := target.widen
  let offset := (start.widen - goal) * decay w t
  let bound := goal + offset
  if bound == 0 && offset == 0 then zero
  else
    let boundRate := -w * offset
    let boundAcceleration := w * w * offset
    let omega := frequencies.widen * fullTurn
    let phase := omega * Nanos.seconds now
    let sine := phase.map doubleSin
    let cosine := phase.map doubleCos
    { position := (sine * bound).narrow
      velocity := (sine * boundRate + cosine.scaleBy omega * bound).narrow
      acceleration :=
        (sine * boundAcceleration + cosine.scaleBy omega * (2 * boundRate) -
          sine.scaleBy (omega.scaleBy omega) * bound).narrow }

end Kinematics

namespace Body

/-- A body at rest at the origin at moment zero. -/
def start (settings : Settings) : Body where
  settings := settings
  now := 0
  motion := .resting 0 .zero
  turn := .resting 0 .identity
  tremor := .resting 0 0

def frequency (b : Body) : Float := b.settings.inertialFrequency.widen

/-- The movement of the body without the tremor. -/
def translation (b : Body) : Kinematics :=
  let t := Nanos.secondsSince b.motion.since b.now
  match b.motion.aim with
  | .position target => .spring b.frequency t b.motion.position b.motion.velocity target
  | .velocity target => .drive b.frequency t b.motion.position b.motion.velocity target

def tremble (b : Body) : Kinematics :=
  .tremble b.settings.tremorFrequencies b.frequency (Nanos.secondsSince b.tremor.since b.now)
    b.now b.tremor.start b.tremor.target

def tremorBound (b : Body) : Single :=
  let goal := b.tremor.target.widen
  let shrunk := decay b.frequency (Nanos.secondsSince b.tremor.since b.now)
  Single.narrow (goal + (b.tremor.start.widen - goal) * shrunk)

/-- The share of the turn that is done: `1 - (1 + w t) exp (-w t)`. -/
def turnProgress (b : Body) : Float :=
  let w := b.frequency
  let t := Nanos.secondsSince b.turn.since b.now
  1 - (1 + w * t) * decay w t

def turnAhead (b : Body) : Rotation := b.turn.target * b.turn.start.inverse

def rotation (b : Body) : Rotation :=
  match b.turnAhead.axisAngle with
  | some (axis, angle) =>
    .ofAxisAngle axis (Single.narrow (angle.widen * b.turnProgress)) * b.turn.start
  | none => b.turn.start

/-- The angular velocity in the frame of the world, in radians per second. -/
def angularVelocity (b : Body) : Vec3 Single :=
  match b.turnAhead.axisAngle with
  | some (axis, angle) =>
    let w := b.frequency
    let t := Nanos.secondsSince b.turn.since b.now
    let rate := w * w * t * decay w t
    axis * Single.narrow (angle.widen * rate)
  | none => .zero

/-- The acceleration in the frame of the world, tremor included. -/
def acceleration (b : Body) : Vec3 Single := b.translation.acceleration + b.tremble.acceleration

/-- The position of the body. A body that approaches a velocity has no other target
    position than where it is. -/
def positionAs (b : Body) : Aspect → Vec3 Single
  | .current => b.translation.position + b.tremble.position
  | .still => b.translation.position
  | .target => match b.motion.aim with
    | .position target => target
    | .velocity _ => b.translation.position

/-- The velocity of the body. A body that is pulled to a position is to rest there. -/
def velocityAs (b : Body) : Aspect → Vec3 Single
  | .current => b.translation.velocity + b.tremble.velocity
  | .still => b.translation.velocity
  | .target => match b.motion.aim with
    | .position _ => .zero
    | .velocity target => target

def rotationAs (b : Body) : Aspect → Rotation
  | .current | .still => b.rotation
  | .target => b.turn.target

def tremorAs (b : Body) : Aspect → Single
  | .current | .still => b.tremorBound
  | .target => b.tremor.target

/-- Sets a target position. A step puts the body there at rest. -/
def setPosition (b : Body) (target : Vec3 Single) (approach : Approach) : Body :=
  match approach with
  | .step => { b with motion := .resting b.now target }
  | .smooth =>
    let here := b.translation
    { b with motion := ⟨b.now, here.position, here.velocity, .position target⟩ }

/-- Sets a target velocity. A step changes the velocity at once but not the position. -/
def setVelocity (b : Body) (target : Vec3 Single) (approach : Approach) : Body :=
  let here := b.translation
  let velocity := match approach with
    | .step => target
    | .smooth => here.velocity
  { b with motion := ⟨b.now, here.position, velocity, .velocity target⟩ }

def setRotation (b : Body) (target : Rotation) (approach : Approach) : Body :=
  { b with turn := .retarget b.now b.rotation target approach }

def setTremor (b : Body) (target : Single) (approach : Approach) : Body :=
  { b with tremor := .retarget b.now b.tremorBound target approach }

/-- True when the body moves so little on its way to a target position, or towards
    standing still, that it counts as arrived. -/
def translationAtRest (b : Body) : Bool :=
  let here := b.translation
  match b.motion.aim with
  | .position target =>
    (here.position - target).norm.lt b.settings.positionEpsilon &&
      here.velocity.norm.lt b.settings.velocityEpsilon
  | .velocity target => target.eqv .zero && here.velocity.norm.lt b.settings.velocityEpsilon

/-- True when the body turns so little so near to its target that it counts as arrived. -/
def turnAtRest (b : Body) : Bool :=
  (b.rotation.angleTo b.turn.target).lt b.settings.rotationEpsilon &&
    b.angularVelocity.norm.lt b.settings.rotationEpsilon

/-- True when the tremor is to end and is almost over. -/
def tremorAtRest (b : Body) : Bool :=
  b.tremor.target.eqv 0 && b.tremorBound.abs.lt b.settings.positionEpsilon

def atRest (b : Body) : Bool := b.translationAtRest && b.turnAtRest && b.tremorAtRest

/-- The body put exactly onto its targets, without tremor. -/
def settled (b : Body) : Body :=
  { b with
    motion := .resting b.now (b.positionAs .target)
    turn := b.turn.arrived b.now
    tremor := .resting b.now 0 }

/-- The body at another moment, and whether it still moves. Once at rest it is put exactly
    onto its targets. -/
def advance (b : Body) (now : Nanos) : Body × Activity :=
  let moved := { b with now := now }
  if moved.atRest then (moved.settled, .stable) else (moved, .changing)

/-- Advances to a moment and then on in equal steps, until the body is at rest or the
    limit of steps is reached. Gives the number of steps. -/
def settle (b : Body) (now step : Nanos) : Nat → Body × Nat
  | 0 => ((b.advance now).1, 0)
  | limit + 1 =>
    match b.advance now with
    | (rested, .stable) => (rested, 0)
    | (moved, .changing) =>
      let (settled, steps) := moved.settle (now + step) step limit
      (settled, steps + 1)

end Body

end Sensorium
