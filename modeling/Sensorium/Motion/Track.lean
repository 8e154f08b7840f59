import Sensorium.Quantity.Value
import Sensorium.Numeric.Elementary

/-!
# Time and tracks

Every moving quantity follows a closed form in the time since its target was set, so its
value at a moment does not depend on how often it was looked at. A `Track` holds what
such a form starts from.
-/

namespace Sensorium

/-- A moment, in nanoseconds. Moments are signed 64-bit counts. -/
abbrev Nanos := Int

namespace Nanos

/-- The least moment, `-2 ^ 63`. -/
def least : Nanos := -0x8000000000000000

/-- The greatest moment, `2 ^ 63 - 1`. -/
def greatest : Nanos := 0x7fffffffffffffff

/-- The time from one moment to another; it stays within the range of moments. -/
def span (start now : Nanos) : Nanos := max least (min greatest (now - start))

def seconds (span : Nanos) : Float := doubleOfInt span / 1e9

/-- The seconds that have passed since a moment; none before it. -/
def secondsSince (start now : Nanos) : Float :=
  let passed := seconds (span start now)
  if 0 < passed then passed else 0

end Nanos

/-- The factor by which a distance has shrunk that is approached at a rate for a time. -/
def decay (rate elapsed : Float) : Float := doubleExp (-rate * elapsed)

/-- A quantity on its way from a value to a target. -/
structure Track (α : Type) where
  since : Nanos
  start : α
  target : α
  deriving DecidableEq, Repr

namespace Track

variable {α : Type}

/-- A track that has been at its target since a moment. -/
def resting (since : Nanos) (value : α) : Track α := ⟨since, value, value⟩

/-- A track to a new target from the value it has now. -/
def retarget (now : Nanos) (current target : α) : Approach → Track α
  | .step => ⟨now, target, target⟩
  | .smooth => ⟨now, current, target⟩

/-- The track that has arrived at its target now. -/
def arrived (track : Track α) (now : Nanos) : Track α := resting now track.target

end Track

end Sensorium
