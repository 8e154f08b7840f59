import Sensorium.Proofs.Session.Measurements
import Sensorium.Proofs.Session.SaveLoad

/-!
# Every value has the kind of its place

Values come to a device with calls, with events, with saved states and with snapshots, and any of
them may be of the wrong kind there. None gets further: a target or an override that is given is
made to conform, the components of an event are read in the kind of the parameter that the event
is about, and the words of a snapshot in the kind of their place. What a device derives by itself
has the right kind anyway.

So zero never stands in for a value of the wrong kind when values are taken out again. Asked for
its number or its vector, as is due in its place, a value gives just its components
(`Value.Fits`), and a snapshot is written word for word (`Snapshot.bareWords`).
`Reachable.kindsAgree` says so of every session that can be reached.
-/

namespace Sensorium

/-- A value that is in a place of its kind. It is had there by asking for its number, or by asking
    for its vector, and that is all of it. -/
structure Value.Fits (value : Value) (place : Kind) : Prop where
  kind : value.kind = place
  number : place = .scalar →
    value.scalar? = some value.toScalar ∧ value.toList = [value.toScalar]
  vector : place = .vector →
    value.vector? = some value.toVector ∧ value.toList = value.toVector.toList

theorem Value.fits_of_kind {value : Value} {kind : Kind} (h : value.kind = kind) :
    value.Fits kind := by
  cases value with
  | scalar x =>
    refine ⟨h, fun _ => ⟨rfl, rfl⟩, ?_⟩
    rintro rfl
    cases h
  | vector v =>
    refine ⟨h, ?_, fun _ => ⟨rfl, rfl⟩⟩
    rintro rfl
    cases h

/-! ## Snapshots word for word -/

namespace Snapshot

/-- The words of a value as it is, in whatever place. -/
def bareValue (value : Value) : List UInt32 := value.toList.map Single.bits

def bareEntry : Option Value → List UInt32
  | none => [0]
  | some value => 1 :: bareValue value

/-- The words of a snapshot whose values are written as they are. -/
def bareWords (s : Snapshot) : List UInt32 :=
  [UInt32.ofNat s.targets.length] ++ s.targets.flatMap bareValue ++
    [UInt32.ofNat s.overrides.length] ++ s.overrides.flatMap bareEntry

theorem valueWords_of_kind {kind : Kind} {value : Value} (h : value.kind = kind) :
    valueWords kind value = bareValue value := by
  rw [valueWords, Value.conform_of_kind h, bareValue]

theorem overrideWords_of_kind {sensor : Sensor} {entry : Option Value}
    (h : ∀ value, entry = some value → value.kind = sensor.kind) :
    overrideWords sensor entry = bareEntry entry := by
  cases entry with
  | none => rfl
  | some value => rw [overrideWords, valueWords_of_kind (h value rfl), bareEntry]

end Snapshot

/-! ## Devices -/

namespace Device

variable {d : Device}

theorem kind_measured (d : Device) (sensor : Sensor) : (d.measured sensor).kind = sensor.kind := by
  cases sensor <;> rfl

/-- A sensor shows a value of its kind, be it one that it is made to report or one that it
    measures. -/
theorem Sound.kind_shown (h : d.Sound) (sensor : Sensor) : (d.shown sensor).kind = sensor.kind := by
  unfold shown
  cases made : d.board.override? sensor with
  | none => exact d.kind_measured sensor
  | some value => exact h.overrides sensor value made

/-- The snapshot of a sound device holds a value for every parameter and an entry for every
    sensor, and is written word for word. -/
theorem Sound.words_snapshot (h : d.Sound) : d.snapshot.words = d.snapshot.bareWords := by
  have targets : (Parameter.all.zip d.snapshot.targets).flatMap
      (fun place => Snapshot.valueWords place.1.kind place.2) =
        d.snapshot.targets.flatMap Snapshot.bareValue := by
    simp only [snapshot, zip_map_self, List.flatMap_map]
    simp only [Snapshot.valueWords_of_kind (d.kind_value _ _)]
  have overrides : (Sensor.all.zip d.snapshot.overrides).flatMap
      (fun place => Snapshot.overrideWords place.1 place.2) =
        d.snapshot.overrides.flatMap Snapshot.bareEntry := by
    simp only [snapshot, zip_map_self, List.flatMap_map]
    simp only [Snapshot.overrideWords_of_kind (h.overrides _)]
  rw [Snapshot.words, targets, overrides]
  rfl

end Device

/-! ## Sessions -/

namespace Session

variable {s : Session}

/-- Every value that is had from the session has the kind of its place: parameters of every
    aspect, overrides, what any sensor would read and what the next step reads. Its snapshot is
    written word for word, and is read again as it is, whatever comes after it. -/
structure KindsAgree (s : Session) : Prop where
  values : ∀ p aspect, (s.device.value p aspect).Fits p.kind
  overrides : ∀ sensor value, s.device.board.override? sensor = some value →
    value.Fits sensor.kind
  readings : ∀ sensor, (s.device.read sensor).2.value.Fits sensor.kind
  answered : ∀ sensor reading, (sensor, reading) ∈ s.readings → reading.value.Fits sensor.kind
  written : s.device.snapshot.words = s.device.snapshot.bareWords
  restored : ∀ rest, Snapshot.decode (s.device.snapshot.encode ++ rest) =
    .ok (s.device.snapshot, rest)

/-- Whatever is asked of a device, in whatever kinds, between any two steps every value has the
    kind of its place. -/
theorem Reachable.kindsAgree (h : s.Reachable) : s.KindsAgree := by
  have sound := h.sound.device
  have fits (sensor : Sensor) : (s.device.shown sensor).Fits sensor.kind :=
    Value.fits_of_kind (sound.kind_shown sensor)
  constructor
  case values => exact fun p aspect => Value.fits_of_kind (s.device.kind_value p aspect)
  case overrides => exact fun sensor value made =>
    Value.fits_of_kind (sound.overrides sensor value made)
  case readings =>
    intro sensor
    obtain ⟨board, -, read⟩ := s.device.read_eq sensor
    rw [read]
    exact fits sensor
  case answered =>
    intro sensor reading mem
    rw [(mem_readings mem).1]
    exact fits sensor
  case written => exact sound.words_snapshot
  case restored =>
    intro rest
    have read := s.device.snapshot.run_read rest
    rw [sound.normal_snapshot] at read
    exact read

/-- Calls that come with values of the wrong kind: a target, an event with too many components and
    with none, and an override; and a snapshot that overrides a sensor. -/
def misshapen : List Call :=
  [.setTarget (.condition .temperature) (.vector ⟨1, 2, 0⟩) .step,
    .replay ⟨0, some [1, 2, 1, 2], some []⟩,
    .loadSnapshot (.bytes ([1, 7, 7, 7, 1, 2, 9, 9, 9].flatMap wordBytes)) none,
    .override .gyroscope (.scalar 2)]

/-- After them the gyroscope is made to report the zero of its kind. -/
theorem kindsAgree_misshapen :
    (unused.respondAll misshapen).1.Reachable ∧ (unused.respondAll misshapen).1.KindsAgree ∧
      (unused.respondAll misshapen).1.device.board.override? .gyroscope =
        some (.vector .zero) := by
  have reachable : (unused.respondAll misshapen).1.Reachable := reachable_unused.respondAll rfl _
  refine ⟨reachable, reachable.kindsAgree, ?_⟩
  let before := (unused.respondAll (misshapen.take 3)).1
  have passive : before.Passive := passive_unused.respondAll (by simp [misshapen, Call.plain])
  have begun : before.cleared.begin (.override .gyroscope (.scalar 2)) =
      before.cleared.carryOut [.override .gyroscope (.vector .zero)] .done := rfl
  have device := (respond_of_carryOut passive.observer begun).1
  change (before.respond (.override .gyroscope (.scalar 2))).1.device.board.override? _ = _
  rw [device]
  change ((before.device.marked.board.override .gyroscope (.vector .zero)).gauge _).override = _
  rw [Board.gauge_override]
  rfl

end Session

end Sensorium
