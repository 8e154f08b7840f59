import Sensorium.Device.Change

/-!
# Calls

What can be asked of a device, what it answers, and what an observer does when it is
told something. An observer answers its first notices of a kind with scripts of calls,
made while the call that caused the notice is still going on. A sink does the same with
the first targets that it is handed.
-/

namespace Sensorium

/-- What an observer does on each kind of notice. It has no reaction at all to a kind
    without scripts; otherwise it notes every notice and works off one script for each
    until there are none left. -/
structure Observer (Script : Type) where
  changing : Option (List Script) := none
  stabilized : Option (List Script) := none
  targetChanged : Option (List Script) := none

namespace Observer

variable {Script : Type}

def scripts (observer : Observer Script) : Notice → Option (List Script)
  | .changing => observer.changing
  | .stabilized => observer.stabilized
  | .targetChanged => observer.targetChanged

/-- The observer when it has worked off a script for a kind of notice. -/
def next (observer : Observer Script) : Notice → Observer Script
  | .changing => { observer with changing := observer.changing.map List.tail }
  | .stabilized => { observer with stabilized := observer.stabilized.map List.tail }
  | .targetChanged => { observer with targetChanged := observer.targetChanged.map List.tail }

/-- What an observer that is built from reactions looks like at a glance. -/
def summary (observer : Observer Script) : String :=
  let slot (scripts : Option (List Script)) : String :=
    if scripts.isSome then "Some(Callback(..))" else "None"
  "StateCallbacks \x7b changing: " ++ slot observer.changing ++ ", stabilized: " ++
    slot observer.stabilized ++ ", target_changed: " ++ slot observer.targetChanged ++ " \x7d"

end Observer

/-- Where the bytes of a snapshot come from. -/
inductive SnapshotSource where
  | slot (name : String)
  | bytes (bytes : List UInt8)
  deriving DecidableEq, Repr

inductive StateSource where
  | slot (name : String)
  | state (state : SavedState)
  deriving DecidableEq, Repr

/-- What can be asked of a device. -/
inductive Call where
  | advance (now : Nanos)
  /-- Moves the device on in equal steps until it is at rest. -/
  | settle (step : Nanos) (limit : Nat)
  | setTarget (parameter : Parameter) (value : Value) (approach : Approach)
  | get (parameter : Parameter) (aspect : Aspect)
  | getAll
  | override (sensor : Sensor) (value : Value)
  | read (sensor : Sensor)
  | readAll
  | pose
  /-- Reads a sensor, the pose and the mark. -/
  | survey (sensor : Sensor)
  | attach (observer : Observer (List Call))
  | detach
  /-- Hands every target that is set from now on to a sink, which works off one of its
      scripts for each until there are none left. -/
  | attachSink (scripts : List (List Call))
  | detachSink
  | saveSnapshot (slot : String)
  /-- Loads a snapshot of which only so many bytes are left. -/
  | loadSnapshot (source : SnapshotSource) (cut : Option Nat)
  | saveState (slot : String)
  | loadState (source : StateSource)
  | replay (event : Event)
  | startTrace (path : String)
  | stopTrace
  | listFiles (directory : Location)
  | summary

abbrev Script := List Call

/-- Starts or stops recording the targets that are set, with a sink that does nothing but
    record. -/
def Call.recordEvents (on : Bool) : Call := if on then .attachSink [] else .detachSink

inductive Answer where
  | done
  | count (n : Nat)
  | value (parameter : Parameter) (value : Value)
  | values (current still target : List Value)
  | reading (reading : Reading)
  | readings (readings : List Reading)
  | pose (pose : Pose)
  | survey (reading : Reading) (pose : Pose) (changing : Bool)
  | words (words : List UInt32)
  | state (state : SavedState)
  | files (files : List (Location × List String))
  | text (text : String)
  | failed (failure : Failure)
  deriving DecidableEq, Repr

/-- What is noted while calls are going on. -/
inductive Entry where
  /-- An observer begins to react to a notice. -/
  | began (notice : Notice)
  /-- An observer has worked off a script and had these answers. -/
  | ended (notice : Notice) (answers : List Answer)
  | recorded (event : Event) (time : Nanos)
  deriving DecidableEq, Repr

end Sensorium
