import Sensorium.Quantity.Value

/-!
# Parameters and sensors

Parameters are what the world around a device is set to, sensors are what the device
reports of it. Both have a fixed order in which they are numbered and stored; the five
scalar conditions of the surroundings take part in both.
-/

namespace Sensorium

/-- A condition of the surroundings that is one number. -/
inductive Condition where
  | temperature
  | proximity
  | light
  | pressure
  | humidity
  deriving DecidableEq, Repr

/-- What the world around a device can be set to. -/
inductive Parameter where
  | position
  /-- Angles about x, y and z in degrees. -/
  | rotation
  | magneticField
  | condition (condition : Condition)
  | velocity
  /-- The bound of the tremor of the hand. -/
  | ambientMotion
  deriving DecidableEq, Repr

/-- What a device reports. -/
inductive Sensor where
  | accelerometer
  | gyroscope
  | magnetometer
  | orientation
  | condition (condition : Condition)
  | magnetometerUncalibrated
  | gyroscopeUncalibrated
  deriving DecidableEq, Repr

namespace Condition

def all : List Condition := [temperature, proximity, light, pressure, humidity]

def name : Condition → String
  | temperature => "temperature"
  | proximity => "proximity"
  | light => "light"
  | pressure => "pressure"
  | humidity => "humidity"

end Condition

namespace Parameter

def all : List Parameter :=
  [position, rotation, magneticField] ++ Condition.all.map condition ++ [velocity, ambientMotion]

/-- The place of a parameter in the order, which is also its number in events. -/
def index : Parameter → Nat
  | position => 0
  | rotation => 1
  | magneticField => 2
  | condition .temperature => 3
  | condition .proximity => 4
  | condition .light => 5
  | condition .pressure => 6
  | condition .humidity => 7
  | velocity => 8
  | ambientMotion => 9

def ofNumber? : Int → Option Parameter
  | .ofNat n => all[n]?
  | .negSucc _ => none

def kind : Parameter → Kind
  | position | rotation | magneticField | velocity => .vector
  | condition _ | ambientMotion => .scalar

def name : Parameter → String
  | position => "position"
  | rotation => "rotation"
  | magneticField => "magnetic_field"
  | condition c => c.name
  | velocity => "velocity"
  | ambientMotion => "ambient_motion"

end Parameter

namespace Sensor

def all : List Sensor :=
  [accelerometer, gyroscope, magnetometer, orientation] ++ Condition.all.map condition ++
    [magnetometerUncalibrated, gyroscopeUncalibrated]

def index : Sensor → Fin 11
  | accelerometer => 0
  | gyroscope => 1
  | magnetometer => 2
  | orientation => 3
  | condition .temperature => 4
  | condition .proximity => 5
  | condition .light => 6
  | condition .pressure => 7
  | condition .humidity => 8
  | magnetometerUncalibrated => 9
  | gyroscopeUncalibrated => 10

def kind : Sensor → Kind
  | accelerometer | gyroscope | magnetometer | orientation
  | magnetometerUncalibrated | gyroscopeUncalibrated => .vector
  | condition _ => .scalar

def name : Sensor → String
  | accelerometer => "accelerometer"
  | gyroscope => "gyroscope"
  | magnetometer => "magnetometer"
  | orientation => "orientation"
  | condition c => c.name
  | magnetometerUncalibrated => "magnetometer_uncalibrated"
  | gyroscopeUncalibrated => "gyroscope_uncalibrated"

end Sensor

end Sensorium
