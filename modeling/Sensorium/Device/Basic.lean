import Sensorium.Device.Board
import Sensorium.Motion.Body
import Sensorium.Motion.Surroundings
import Sensorium.Record.Event
import Sensorium.Record.Snapshot
import Sensorium.Record.Trace

/-!
# Devices

A device is a body in its surroundings, the sensors that are derived from both, and the
mark that says whether anything is changing. Each operation here is one indivisible
change of a device; a call that is made up of several of them lets observers act in
between, and is put together in `Sensorium.Session`.
-/

namespace Sensorium

/-- The number under which a session knows an observer. -/
abbrev ObserverId := Nat

/-- The number under which a session knows a sink. -/
abbrev SinkId := Nat

structure Device where
  body : Body
  surroundings : Surroundings
  board : Board
  /-- True from the first change of a target until everything is at rest again. -/
  changing : Bool
  time : Nanos
  observer : Option ObserverId
  sink : Option SinkId
  trace : Option Recorder
  deriving DecidableEq, Repr

inductive Notice where
  | changing
  | stabilized
  | targetChanged
  deriving DecidableEq, Repr

namespace Device

def start (settings : Settings) : Device where
  body := .start settings
  surroundings := .start settings
  board := .blank
  changing := false
  time := 0
  observer := none
  sink := none
  trace := none

/-- A device with settings that are checked first. -/
def start? (settings : Settings) : Except Failure Device :=
  match settings.fault? with
  | some fault => .error (.invalidSettings fault)
  | none => .ok (start settings)

/-- A device with settings that the program itself vouches for. Faulty ones are a mistake
    in the program, for which there is no device. -/
def startTrusted? (settings : Settings) : Option Device :=
  if settings.fault?.isNone then some (start settings) else none

/-! ## Parameters -/

def value (d : Device) (parameter : Parameter) (aspect : Aspect) : Value :=
  match parameter with
  | .position => .vector (d.body.positionAs aspect)
  | .rotation => .vector (d.body.rotationAs aspect).toEuler
  | .magneticField => .vector (d.surroundings.fieldAs aspect)
  | .condition c => .scalar (d.surroundings.conditionAs c aspect)
  | .velocity => .vector (d.body.velocityAs aspect)
  | .ambientMotion => .scalar (d.body.tremorAs aspect)

/-- Sets the target of a parameter. A value of the wrong kind counts as zero. -/
def retarget (d : Device) (parameter : Parameter) (value : Value) (approach : Approach) : Device :=
  match parameter with
  | .position => { d with body := d.body.setPosition value.toVector approach }
  | .rotation => { d with body := d.body.setRotation (.ofEuler value.toVector) approach }
  | .magneticField => { d with surroundings := d.surroundings.setField value.toVector approach }
  | .condition c =>
    { d with surroundings := d.surroundings.setCondition c value.toScalar approach }
  | .velocity => { d with body := d.body.setVelocity value.toVector approach }
  | .ambientMotion => { d with body := d.body.setTremor value.toScalar approach }

/-! ## Rest and change -/

/-- Marks the device as changing. The notice is due if it was not. -/
def markChanging (d : Device) : Device × Option Notice :=
  if d.changing then (d, none) else ({ d with changing := true }, some .changing)

/-- Clears all overrides, as is due after a target has changed. -/
def clearOverrides (d : Device) : Device := { d with board := d.board.clear }

def override (d : Device) (sensor : Sensor) (value : Value) : Device :=
  { d with board := d.board.override sensor value }

/-- Moves the device to a moment, unless that is past. When all comes to rest, every
    sensor has a new measurement and the mark goes; when something moves, the mark is set.
    The notice of either is due. -/
def advance (d : Device) (now : Nanos) : Device × Option Notice :=
  if now < d.time then (d, none)
  else
    let (body, bodyActivity) := d.body.advance now
    let (surroundings, ambientActivity) := d.surroundings.advance now
    let moved := { d with body, surroundings, time := now }
    if bodyActivity = .stable ∧ ambientActivity = .stable then
      if d.changing then
        ({ moved with board := d.board.countAll, changing := false }, some .stabilized)
      else (moved, none)
    else moved.markChanging

/-! ## Sensors and pose -/

/-- What a sensor measures, without regard to overrides. Vectors are in the frame of the
    device. -/
def measured (d : Device) (sensor : Sensor) : Value :=
  let toDevice := (d.body.rotationAs .current).inverse
  match sensor with
  | .accelerometer => .vector (toDevice.rotate (d.body.acceleration - d.surroundings.gravity))
  | .gyroscope | .gyroscopeUncalibrated => .vector (toDevice.rotate d.body.angularVelocity)
  | .magnetometer | .magnetometerUncalibrated =>
    .vector (toDevice.rotate (d.surroundings.fieldAs .current))
  | .orientation => .vector (d.body.rotationAs .current).toEuler
  | .condition c => .scalar (d.surroundings.conditionAs c .current)

/-- Reads a sensor. While the device is changing, each reading that is not overridden is a
    measurement of its own. -/
def read (d : Device) (sensor : Sensor) : Device × Reading :=
  match d.board.override? sensor with
  | some value => (d, ⟨value, d.board.measurement sensor⟩)
  | none =>
    let board := if d.changing then d.board.count sensor else d.board
    ({ d with board }, ⟨d.measured sensor, board.measurement sensor⟩)

/-- The pose of the body, tremor included. -/
def pose (d : Device) : Pose where
  position := d.body.positionAs .current
  angles := (d.body.rotationAs .current).toEuler
  time := d.time

/-! ## Saved forms -/

/-- The snapshot of a device: all targets and overrides. -/
def snapshot (d : Device) : Snapshot where
  targets := Parameter.all.map (d.value · .target)
  overrides := Sensor.all.map d.board.override?

/-- The saved state of a device: where every parameter is, without tremor, and where it is
    to go. -/
def savedState (d : Device) : SavedState where
  time := d.time
  events := Parameter.all.map fun p => .ofValues p (d.value p .still) (d.value p .target)

/-- What a device looks like at a glance. -/
def summary (d : Device) : String :=
  let flag (b : Bool) : String := if b then "true" else "false"
  "PhysicalModel \x7b model_time_ns: " ++ toString d.time ++ ", changing: " ++ flag d.changing ++
    ", has_agent: " ++ flag d.observer.isSome ++ ", recording: " ++ flag d.trace.isSome ++
    ", .. \x7d"

end Device

end Sensorium
