import Sensorium.Quantity.Parameter

/-!
# The sensor board

For every sensor, the value it is made to report, if any, and the number of its last
measurement. As long as the number of a sensor stays the same, so does its value.
-/

namespace Sensorium

/-- A value of a sensor and the number of its measurement. -/
structure Reading where
  value : Value
  measurement : UInt64
  deriving DecidableEq, Repr

/-- What is kept of one sensor. -/
structure Gauge where
  /-- The value that the sensor is made to report. -/
  override : Option Value := none
  /-- The number of the last measurement; it wraps around. -/
  measurement : UInt64 := 0
  deriving DecidableEq, Repr

/-- What is kept of all sensors, in their order. -/
structure Board where
  gauges : Vector Gauge 11
  deriving DecidableEq, Repr

namespace Board

def blank : Board := ⟨Vector.replicate 11 {}⟩

def gauge (board : Board) (sensor : Sensor) : Gauge := board.gauges[sensor.index]

def override? (board : Board) (sensor : Sensor) : Option Value := (board.gauge sensor).override

def measurement (board : Board) (sensor : Sensor) : UInt64 := (board.gauge sensor).measurement

def modify (board : Board) (sensor : Sensor) (change : Gauge → Gauge) : Board :=
  ⟨board.gauges.set sensor.index (change (board.gauge sensor))⟩

def count (board : Board) (sensor : Sensor) : Board :=
  board.modify sensor fun gauge => { gauge with measurement := gauge.measurement + 1 }

def countAll (board : Board) : Board :=
  ⟨board.gauges.map fun gauge => { gauge with measurement := gauge.measurement + 1 }⟩

/-- Makes a sensor report a value, which is a new measurement. -/
def override (board : Board) (sensor : Sensor) (value : Value) : Board :=
  board.modify sensor fun gauge =>
    { override := some value, measurement := gauge.measurement + 1 }

/-- Makes no sensor report anything else than it measures. -/
def clear (board : Board) : Board :=
  ⟨board.gauges.map fun gauge => { gauge with override := none }⟩

end Board

end Sensorium
