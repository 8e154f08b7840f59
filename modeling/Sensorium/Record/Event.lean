import Sensorium.Motion.Track
import Sensorium.Quantity.Parameter

/-!
# Events

An event tells of a change of one parameter: a value to put in place, a value to
approach, or both in this order. Events name parameters by number and carry bare lists
of components, so an event may be about no parameter and a payload may be malformed.
-/

namespace Sensorium

abbrev Payload := List Single

/-- A change of one parameter. -/
structure Event where
  number : Int
  current : Option Payload := none
  target : Option Payload := none
  deriving DecidableEq, Repr

namespace Event

def ofTarget (parameter : Parameter) (value : Value) (approach : Approach) : Event :=
  match approach with
  | .step => { number := parameter.index, current := some value.toList }
  | .smooth => { number := parameter.index, target := some value.toList }

/-- The event that brings a parameter to a value and on its way to a target. -/
def ofValues (parameter : Parameter) (current target : Value) : Event :=
  { number := parameter.index, current := some current.toList, target := some target.toList }

/-- The parameter that the event is about, if there is one with its number. -/
def parameter? (event : Event) : Option Parameter := Parameter.ofNumber? event.number

def currentAs (event : Event) (parameter : Parameter) : Option Value :=
  event.current.map (Value.ofList parameter.kind)

def targetAs (event : Event) (parameter : Parameter) : Option Value :=
  event.target.map (Value.ofList parameter.kind)

/-- The targets that the event sets for a parameter, in order. -/
def changes (event : Event) (parameter : Parameter) : List (Value × Approach) :=
  ((event.currentAs parameter).map (·, Approach.step)).toList ++
    ((event.targetAs parameter).map (·, Approach.smooth)).toList

end Event

/-- Everything that a device is set to, as events, and when it was. -/
structure SavedState where
  time : Nanos
  events : List Event
  deriving DecidableEq, Repr

end Sensorium
