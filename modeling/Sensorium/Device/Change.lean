import Sensorium.Device.Basic

/-!
# Plans of changes

Playing back an event, loading a snapshot and loading a saved state all come down to
setting targets and overriding sensors in a certain order. The order does not depend on
the device, so each of them is a list of changes.
-/

namespace Sensorium

/-- A change that is made to a device from outside. -/
inductive Change where
  | target (parameter : Parameter) (value : Value) (approach : Approach)
  | override (sensor : Sensor) (value : Value)
  deriving DecidableEq, Repr

/-- The changes that play back an event; none if it is about no parameter. -/
def Event.plan (event : Event) : List Change :=
  match event.parameter? with
  | none => []
  | some p => (event.changes p).map fun (value, approach) => .target p value approach

/-- The changes that load a snapshot: all targets put in place, then the overrides, since
    every change of a target clears them. -/
def Snapshot.plan (s : Snapshot) : List Change :=
  (Parameter.all.zip s.targets).map (fun (p, value) => .target p value .step) ++
    (Sensor.all.zip s.overrides).filterMap fun (sensor, entry) => entry.map (.override sensor)

namespace SavedState

/-- The changes of an event in a saved state that are made in its turn. Position and
    velocity share one motion and have to wait until all events are known. -/
def immediate (event : Event) : List Change :=
  match event.parameter? with
  | some .position | some .velocity => []
  | _ => event.plan

/-- The last vector that the events about a parameter give in one of their slots. -/
def lastVector (s : SavedState) (parameter : Parameter)
    (slot : Event → Parameter → Option Value) : Vec3 Single :=
  let events := s.events.filter fun event => event.parameter? = some parameter
  ((events.filterMap (slot · parameter)).getLast?.map Value.toVector).getD .zero

/-- The changes that load a saved state. The body is put in its place and given its
    velocity; then it approaches the target velocity, or, if that is zero, the target
    position. -/
def plan (s : SavedState) : List Change :=
  let position := s.lastVector .position Event.currentAs
  let goal := s.lastVector .position Event.targetAs
  let velocity := s.lastVector .velocity Event.currentAs
  let speed := s.lastVector .velocity Event.targetAs
  s.events.flatMap immediate ++
    [.target .position (.vector position) .step, .target .velocity (.vector velocity) .step] ++
    if speed.eqv .zero then [.target .position (.vector goal) .smooth]
    else [.target .velocity (.vector speed) .smooth]

end SavedState

end Sensorium
