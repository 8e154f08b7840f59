import Sensorium.Failure
import Sensorium.Quantity.Parameter

/-!
# Settings of a device

The fixed surroundings, how fast smooth targets are approached, when a value counts as
arrived, and where the surroundings start.
-/

namespace Sensorium

/-- One item for every condition of the surroundings. -/
structure Conditions (α : Type) where
  temperature : α
  proximity : α
  light : α
  pressure : α
  humidity : α
  deriving DecidableEq, Repr

namespace Conditions

variable {α β : Type}

def get (items : Conditions α) : Condition → α
  | .temperature => items.temperature
  | .proximity => items.proximity
  | .light => items.light
  | .pressure => items.pressure
  | .humidity => items.humidity

def set (items : Conditions α) (condition : Condition) (item : α) : Conditions α :=
  match condition with
  | .temperature => { items with temperature := item }
  | .proximity => { items with proximity := item }
  | .light => { items with light := item }
  | .pressure => { items with pressure := item }
  | .humidity => { items with humidity := item }

def map (f : α → β) (items : Conditions α) : Conditions β where
  temperature := f items.temperature
  proximity := f items.proximity
  light := f items.light
  pressure := f items.pressure
  humidity := f items.humidity

def all (p : α → Bool) (items : Conditions α) : Bool :=
  Condition.all.all fun condition => p (items.get condition)

theorem get_set (items : Conditions α) (c d : Condition) (item : α) :
    (items.set c item).get d = if d = c then item else items.get d := by
  cases c <;> cases d <;> rfl

theorem get_map (f : α → β) (items : Conditions α) (c : Condition) :
    (items.map f).get c = f (items.get c) := by
  cases c <;> rfl

end Conditions

/-- Settings of a device. Lengths are in metres, angles of tolerances in radians. -/
structure Settings where
  gravity : Vec3 Single := ⟨0, -9.81, 0⟩
  /-- Natural frequency of the spring that pulls the body, in radians per second. -/
  inertialFrequency : Single := 10.0
  /-- Rate at which the surroundings approach their targets, per second. -/
  ambientRate : Single := 10.0
  /-- Distance from the target at which a position counts as reached. -/
  positionEpsilon : Single := 1e-4
  /-- Speed that counts as rest. -/
  velocityEpsilon : Single := 1e-4
  /-- Angle, and angular speed, that counts as rest. -/
  rotationEpsilon : Single := 1e-4
  /-- Distance of a condition from its target that counts as none, relative to the target
      if that is above one. -/
  ambientEpsilon : Single := 1e-4
  /-- Frequencies of the tremor of the hand along the axes, per second. -/
  tremorFrequencies : Vec3 Single := ⟨1.3, 1.7, 2.3⟩
  magneticField : Vec3 Single := ⟨0, 5.9, -48.4⟩
  conditions : Conditions Single :=
    { temperature := 25.0, proximity := 1, light := 0, pressure := 1013.25, humidity := 0 }
  deriving DecidableEq, Repr

namespace Settings

/-- The settings that have to be positive, with their names, in the order of checking. -/
def positives (s : Settings) : List (String × Single) :=
  [("inertial_frequency", s.inertialFrequency), ("ambient_rate", s.ambientRate),
    ("position_epsilon", s.positionEpsilon), ("velocity_epsilon", s.velocityEpsilon),
    ("rotation_epsilon", s.rotationEpsilon), ("ambient_epsilon", s.ambientEpsilon)]

/-- The first reason why the settings cannot be used, if there is one. -/
def fault? (s : Settings) : Option SettingsFault :=
  match s.positives.find? fun (_, value) => !(value.isFinite && Single.lt 0 value) with
  | some (field, value) => some (.notPositive field value)
  | none => if s.gravity.isFinite then none else some .gravityNotFinite

end Settings

end Sensorium
