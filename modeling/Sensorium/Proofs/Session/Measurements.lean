import Sensorium.Proofs.Session.Mark

/-!
# Readings with the same number

A reading carries the number of its measurement, and whoever reads a sensor again takes an
unchanged number to mean an unchanged value. `value_eq_of_measurement_eq` says that this is
right as long as the number has not wrapped around.

Two invariants carry the proof. A device without the mark is settled, so that nothing of
it depends on the time (`Tidy`); and what a sensor has shown under its present number it
still shows, or it is about to be measured anew (`Device.Shows`).
-/

namespace Sensorium

/-! ## What a sensor shows -/

namespace Device

/-- A reading of the sensor under its present number, if there is one to come, has this
    value. While the device is changing, a sensor that is not overridden gets a new number
    with the reading. -/
def Shows (d : Device) (sensor : Sensor) (value : Value) : Prop :=
  d.board.override? sensor = some value ∨
    d.board.override? sensor = none ∧ (d.changing = false → d.measured sensor = value)

/-- A change of a device counts a measurement of the sensor, or keeps its number and what it
    shows. -/
def Follows (d e : Device) (sensor : Sensor) : Prop :=
  e.board.measurement sensor = d.board.measurement sensor + 1 ∨
    e.board.measurement sensor = d.board.measurement sensor ∧
      ∀ value, d.Shows sensor value → e.Shows sensor value

section

variable {d e : Device} {sensor : Sensor}

/-- What does not touch the gauge of a sensor has to keep its measurement, if the device is
    not changing afterwards. -/
theorem follows_of_gauge (gauge : e.board.gauge sensor = d.board.gauge sensor)
    (measured : e.changing = false →
      d.changing = false ∧ e.measured sensor = d.measured sensor) : d.Follows e sensor := by
  refine .inr ⟨congrArg Gauge.measurement gauge, ?_⟩
  have override : e.board.override? sensor = d.board.override? sensor :=
    congrArg Gauge.override gauge
  rintro value (shown | ⟨none, shown⟩)
  · exact .inl (override.trans shown)
  · refine .inr ⟨override.trans none, ?_⟩
    intro still
    obtain ⟨still, same⟩ := measured still
    rw [same]
    exact shown still

/-- What changes neither the board nor what the device measures. -/
theorem follows_of_same (board : e.board = d.board) (body : e.body = d.body)
    (surroundings : e.surroundings = d.surroundings) (changing : e.changing = d.changing) :
    d.Follows e sensor := by
  apply follows_of_gauge
  · rw [board]
  · intro still
    exact ⟨changing ▸ still, measured_congr body surroundings sensor⟩

theorem follows_of_changing (gauge : e.board.gauge sensor = d.board.gauge sensor)
    (changing : e.changing = true) : d.Follows e sensor := by
  apply follows_of_gauge gauge
  intro still
  rw [changing] at still
  cases still

theorem follows_of_boardAfter {sensors : List Sensor} {board : Board}
    (after : d.BoardAfter sensors board) : d.Follows { d with board } sensor := by
  by_cases kept : board.gauge sensor = d.board.gauge sensor
  · exact follows_of_gauge kept fun still => ⟨still, rfl⟩
  · left
    have gauge := after sensor
    split at gauge
    · unfold gaugeAfter at gauge
      split at gauge
      · exact congrArg Gauge.measurement gauge
      · exact (kept gauge).elim
    · exact (kept gauge).elim

theorem follows_override (other : Sensor) (value : Value) :
    d.Follows (d.override other value) sensor := by
  by_cases same : sensor = other
  · left
    subst same
    simp only [Device.override, Board.measurement, Board.gauge_override, if_true]
  · apply follows_of_gauge
    · simp only [Device.override, Board.gauge_override, if_neg same]
    · intro still
      exact ⟨still, rfl⟩

theorem follows_clearOverrides (changing : d.changing = true) :
    d.Follows d.clearOverrides sensor := by
  have gauge : d.clearOverrides.board.gauge sensor =
      { d.board.gauge sensor with override := none } := Board.gauge_clear ..
  have number : d.clearOverrides.board.measurement sensor = d.board.measurement sensor := by
    rw [Board.measurement, gauge]
    rfl
  refine .inr ⟨number, ?_⟩
  intro value _
  refine .inr ⟨congrArg Gauge.override gauge, ?_⟩
  intro still
  change d.changing = false at still
  rw [changing] at still
  cases still

theorem follows_advance (finite : d.body.settings.inertialFrequency.isFinite = true)
    (settled : d.changing = false → d.Settled) (now : Nanos) :
    d.Follows (d.advance now).1 sensor := by
  rcases d.advance_cases now with ⟨-, same⟩ | ⟨-, stable | ⟨body, surroundings, -, moving⟩⟩
  · rw [same]
    exact follows_of_same rfl rfl rfl rfl
  · rw [stable]
    cases changing : d.changing with
    | true =>
      left
      simp only [if_true, Board.measurement, Board.gauge_countAll, Gauge.counted]
    | false =>
      apply follows_of_gauge
      · rfl
      · intro _
        exact ⟨changing, (settled changing).measured_later finite rfl rfl sensor⟩
  · rw [moving]
    exact follows_of_changing rfl rfl

end

end Device

namespace Session

variable {s : Session}

/-! ## Numbers along a run -/

theorem follows_perform {task : Task} (sensor : Sensor)
    (finite : s.device.body.settings.inertialFrequency.isFinite = true)
    (settled : s.device.changing = false → s.device.Settled)
    (ordered : Marked s.device.changing (task :: s.tasks)) :
    s.device.Follows (s.perform task).device sensor := by
  cases task with
  | call call =>
    obtain ⟨board, observer, sink, trace, after, device⟩ := s.device_begin call
    simp only [perform, device]
    exact Device.follows_of_boardAfter after
  | mark =>
    rw [device_mark]
    exact Device.follows_of_changing rfl rfl
  | retarget p value approach =>
    simp only [perform]
    rw [Device.retarget_eq]
    exact Device.follows_of_changing rfl ordered.1
  | clearOverrides =>
    simp only [perform, device_announce]
    exact Device.follows_clearOverrides ordered.1
  | override other value => exact Device.follows_override other value
  | advance now =>
    rw [device_advance]
    exact Device.follows_advance finite settled now
  | settle now step rounds limit =>
    simp only [perform]
    split <;> exact Device.follows_of_same rfl rfl rfl rfl
  | tell id notice =>
    simp only [perform, device_tell]
    exact Device.follows_of_same rfl rfl rfl rfl
  | leave notice => exact Device.follows_of_same rfl rfl rfl rfl
  | resume => exact Device.follows_of_same rfl rfl rfl rfl
  | answer answer => exact Device.follows_of_same rfl rfl rfl rfl

theorem Tidy.follows (h : s.Tidy) (sensor : Sensor) :
    s.device.Follows s.step.device sensor := by
  cases found : s.tasks with
  | nil =>
    rw [step_of_no_tasks found]
    exact Device.follows_of_same rfl rfl rfl rfl
  | cons task rest =>
    have ordered : Marked s.device.changing (task :: rest) := by
      rw [← found]
      exact h.marked
    rw [step_of_tasks found]
    exact follows_perform (s := { s with tasks := rest }) sensor h.finite h.settled ordered

/-- The readings that the next step answers with. -/
def readings (s : Session) : List (Sensor × Reading) :=
  match s.tasks, s.step.answers with
  | .call call :: _, answer :: _ => call.readings answer
  | _, _ => []

/-- A step that reads a sensor leaves it with the number that it answers, and does nothing
    else to the device than to count measurements. -/
theorem mem_readings {sensor : Sensor} {reading : Reading} (h : (sensor, reading) ∈ s.readings) :
    reading = s.device.reading sensor ∧
      s.step.device.board.gauge sensor = s.device.gaugeAfter sensor ∧
      s.device.SameMotion s.step.device := by
  unfold readings at h
  split at h
  · rename_i call rest answer answers found answered
    rw [step_of_tasks found, perform] at answered ⊢
    have begun := { s with tasks := rest }.begins_begin call
    generalize { s with tasks := rest }.begin call = next at begun answered
    have acts (acts : call.onlyReads = false) : False := by
      rw [Call.readings_of_acts acts] at h
      cases h
    cases begun with
    | reads _ after readings =>
      cases answered
      rw [readings] at h
      obtain ⟨t, mem, same⟩ := List.mem_map.mp h
      cases same
      refine ⟨rfl, ?_, rfl, rfl, rfl⟩
      have gauge := after sensor
      rw [if_pos mem] at gauge
      exact gauge
    | configures none => exact (acts none).elim
    | changes none => exact (acts none).elim
    | records none => exact (acts none).elim
    | advances => exact (acts rfl).elim
    | settles => exact (acts rfl).elim
    | attaches => exact (acts rfl).elim
    | attachesSink => exact (acts rfl).elim
  · cases h

/-- After a reading, the sensor shows its value under its number. -/
theorem shows_of_mem_readings {sensor : Sensor} {reading : Reading}
    (h : (sensor, reading) ∈ s.readings) :
    s.step.device.board.measurement sensor = reading.measurement ∧
      s.step.device.Shows sensor reading.value := by
  obtain ⟨rfl, gauge, motion⟩ := mem_readings h
  refine ⟨congrArg Gauge.measurement gauge, ?_⟩
  have override : s.step.device.board.override? sensor = s.device.board.override? sensor := by
    rw [Board.override?, gauge, Device.gaugeAfter]
    split <;> rfl
  cases shown : s.device.board.override? sensor with
  | some value =>
    left
    rw [override, shown, Device.reading, Device.shown, shown]
    rfl
  | none =>
    refine .inr ⟨override.trans shown, ?_⟩
    intro _
    rw [Device.measured_congr motion.body motion.surroundings, Device.reading, Device.shown, shown]
    rfl

/-- The steps after which a sensor has another number. -/
def increments (sensor : Sensor) (past : List Session) : Nat :=
  past.countP fun t => t.step.device.board.measurement sensor ≠ t.device.board.measurement sensor

theorem number_add_one_ne (number : UInt64) : number + 1 ≠ number := by
  intro same
  have wrapped := congrArg UInt64.toNat same
  rw [UInt64.toNat_add, UInt64.toNat_one] at wrapped
  have bound := number.toNat_lt
  omega

theorem increments_of_idle (h : s.tasks = []) (sensor : Sensor) (past : List Session) :
    increments sensor (s :: past) = increments sensor past := by
  simp only [increments, List.countP_cons, step_of_no_tasks h, ne_eq, not_true_eq_false,
    decide_false, Bool.false_eq_true, if_false, Nat.add_zero]

/-- A step counts one measurement of a sensor, or none and the sensor shows what it did. -/
theorem Tidy.increments_cons (h : s.Tidy) (sensor : Sensor) (past : List Session) :
    s.step.device.board.measurement sensor = s.device.board.measurement sensor + 1 ∧
        increments sensor (s :: past) = increments sensor past + 1 ∨
      s.step.device.board.measurement sensor = s.device.board.measurement sensor ∧
        increments sensor (s :: past) = increments sensor past ∧
        ∀ value, s.device.Shows sensor value → s.step.device.Shows sensor value := by
  unfold increments
  rw [List.countP_cons]
  rcases h.follows sensor with next | ⟨same, shows⟩
  · left
    have other : s.step.device.board.measurement sensor ≠ s.device.board.measurement sensor := by
      rw [next]
      exact number_add_one_ne _
    exact ⟨next, by simp [other]⟩
  · right
    exact ⟨same, by simp [same], shows⟩

variable {origin : Session} {past : List Session}

/-- The number of a sensor is the number of its measurements so far. -/
theorem History.measurement (run : History Call.Patient origin past s) (fresh : origin.Fresh)
    (sensor : Sensor) :
    s.device.board.measurement sensor = UInt64.ofNat (increments sensor past) := by
  induction run with
  | start =>
    obtain ⟨settings, started⟩ := fresh.device
    rw [(Device.finite_of_start? started).1, Board.measurement]
    exact congrArg Gauge.measurement (Board.gauge_blank sensor)
  | @step past s _ _ run _ ih =>
    rcases (run.tidy fresh.tidy).increments_cons sensor past with ⟨next, count⟩ | ⟨same, count, -⟩
    · rw [next, count, ih, UInt64.ofNat_add]
      rfl
    · rw [same, count, ih]
  | @ask past s call run idle _ ih =>
    rw [increments_of_idle idle]
    exact ih

theorem History.toNat_measurement (run : History Call.Patient origin past s)
    (fresh : origin.Fresh) {sensor : Sensor} (few : increments sensor past < 2 ^ 64) :
    (s.device.board.measurement sensor).toNat = increments sensor past := by
  rw [run.measurement fresh]
  exact UInt64.toNat_ofNat_of_lt' few

/-- What was read earlier under the present number of a sensor is what it shows. -/
theorem History.shows (run : History Call.Patient origin past s) (fresh : origin.Fresh)
    {sensor : Sensor} (few : increments sensor past < 2 ^ 64) {t : Session} (before : t ∈ past)
    {reading : Reading} (h : (sensor, reading) ∈ t.readings) :
    reading.measurement.toNat ≤ (s.device.board.measurement sensor).toNat ∧
      (reading.measurement = s.device.board.measurement sensor →
        s.device.Shows sensor reading.value) := by
  induction run with
  | start => cases before
  | @step past s task rest run found ih =>
    have after := (run.step task rest found).toNat_measurement fresh few
    rcases List.mem_cons.mp before with rfl | before
    · obtain ⟨number, shows⟩ := shows_of_mem_readings h
      rw [number]
      exact ⟨Nat.le_refl _, fun _ => shows⟩
    · rcases (run.tidy fresh.tidy).increments_cons sensor past with
        ⟨-, count⟩ | ⟨same, count, shows⟩
      · have few : increments sensor past < 2 ^ 64 := by omega
        obtain ⟨le, -⟩ := ih few before
        rw [run.toNat_measurement fresh few] at le
        refine ⟨by omega, ?_⟩
        intro same
        rw [same] at le
        omega
      · rw [count] at few
        obtain ⟨le, showed⟩ := ih few before
        rw [same]
        exact ⟨le, fun number => shows _ (showed number)⟩
  | @ask past s call run idle _ ih =>
    have none : s.readings = [] := by
      simp only [readings, idle]
    rw [increments_of_idle idle] at few
    rcases List.mem_cons.mp before with rfl | before
    · rw [none] at h
      cases h
    · exact ih few before

/-- What a session went through before one of its states is a history of that state. -/
theorem History.before {asked : Call → Prop} {later earlier : List Session} {t : Session}
    (run : History asked origin past s) (split : past = later ++ t :: earlier) :
    History asked origin earlier t := by
  induction run generalizing later with
  | start => cases later <;> cases split
  | step _ _ run _ ih =>
    cases later with
    | nil =>
      cases split
      exact run
    | cons _ later =>
      cases split
      exact ih rfl
  | ask _ run _ _ ih =>
    cases later with
    | nil =>
      cases split
      exact run
    | cons _ later =>
      cases split
      exact ih rfl

/-- A reading agrees with all earlier ones that have its number. -/
theorem History.agrees (run : History Call.Patient origin past s) (fresh : origin.Fresh)
    {sensor : Sensor} (few : increments sensor (s :: past) < 2 ^ 64) {t : Session}
    (before : t ∈ past) {early late : Reading} (hearly : (sensor, early) ∈ t.readings)
    (hlate : (sensor, late) ∈ s.readings) (same : early.measurement = late.measurement) :
    early.value = late.value := by
  have tidy := run.tidy fresh.tidy
  have number := (shows_of_mem_readings hlate).1
  obtain ⟨rfl, gauge, -⟩ := mem_readings hlate
  rcases tidy.increments_cons sensor past with ⟨next, count⟩ | ⟨kept, count, -⟩
  · -- a reading that counts has a number that no earlier one has
    have few : increments sensor past < 2 ^ 64 := by omega
    obtain ⟨le, -⟩ := run.shows fresh few before hearly
    rw [same, ← number, next, UInt64.toNat_add, run.toNat_measurement fresh few,
      UInt64.toNat_one] at le
    omega
  · rw [count] at few
    obtain ⟨-, shows⟩ := run.shows fresh few before hearly
    rcases shows (by rw [same, ← number, kept]) with overridden | ⟨none, measured⟩
    · rw [Device.reading, Device.shown, overridden]
      rfl
    · have still : s.device.changing = false := by
        by_contra changing
        rw [Bool.not_eq_false] at changing
        rw [Device.gaugeAfter, if_pos ⟨none, changing⟩] at gauge
        exact number_add_one_ne _ ((congrArg Gauge.measurement gauge).symm.trans kept)
      rw [Device.reading, Device.shown, none]
      exact (measured still).symm

/-- Two readings of a sensor under the same number have the same value, bit for bit, wherever
    in the run of a device they are made: between calls, or by an observer or a sink in the
    midst of one. Only the number must not have wrapped around. -/
theorem value_eq_of_measurement_eq (run : History Call.Patient origin past s)
    (fresh : origin.Fresh) {sensor : Sensor} (few : increments sensor past < 2 ^ 64)
    {t u : Session} (ht : t ∈ past) (hu : u ∈ past) {first second : Reading}
    (hfirst : (sensor, first) ∈ t.readings) (hsecond : (sensor, second) ∈ u.readings)
    (same : first.measurement = second.measurement) : first.value = second.value := by
  have agree {t u : Session} {first second : Reading} {later earlier : List Session}
      (split : past = later ++ u :: earlier) (ht : t ∈ earlier)
      (hfirst : (sensor, first) ∈ t.readings) (hsecond : (sensor, second) ∈ u.readings)
      (same : first.measurement = second.measurement) : first.value = second.value := by
    have le : increments sensor (u :: earlier) ≤ increments sensor past := by
      rw [split]
      exact (List.sublist_append_right later _).countP_le
    exact (run.before split).agrees fresh (by omega) ht hfirst hsecond same
  obtain ⟨later, earlier, split⟩ := List.append_of_mem hu
  rw [split] at ht
  rcases List.mem_append.mp ht with ht | ht
  · obtain ⟨latest, between, rfl⟩ := List.append_of_mem ht
    rw [List.append_assoc] at split
    refine (agree split ?_ hsecond hfirst same.symm).symm
    exact List.mem_append_right _ List.mem_cons_self
  · rcases List.mem_cons.mp ht with rfl | ht
    · obtain ⟨rfl, -⟩ := mem_readings hfirst
      obtain ⟨rfl, -⟩ := mem_readings hsecond
      rfl
    · exact agree split ht hfirst hsecond same

/-- The light that a device is made to report, read alone and with all sensors. -/
theorem light_eq_while_overridden :
    let light : Sensor := .condition .light
    let start := unused.ask (.override light (.scalar 1))
    let alone := (step^[4] start).ask (.read light)
    let together := alone.step.ask .readAll
    let past := [together, alone.step, alone, step^[4] start, step^[3] start, step^[2] start,
      start.step, start, unused]
    (light, ⟨.scalar 1, 1⟩) ∈ alone.readings ∧ (light, ⟨.scalar 1, 1⟩) ∈ together.readings ∧
      increments light past < 2 ^ 64 ∧
      (Reading.mk (.scalar 1) 1).value = (Reading.mk (.scalar 1) 1).value := by
  intro light start alone together past
  have hfirst : (light, ⟨.scalar 1, 1⟩) ∈ alone.readings := by decide +kernel
  have hsecond : (light, ⟨.scalar 1, 1⟩) ∈ together.readings := by decide +kernel
  have few : increments light past < 2 ^ 64 := by decide +kernel
  have run : History Call.Patient unused past together.step := by
    refine .step _ _ (.ask _ (.step _ _ (.ask _ ?_ rfl nofun) rfl) rfl nofun) rfl
    exact .step _ _ (.step _ _ (.step _ _ (.step _ _ (.ask _ .start rfl nofun) rfl) rfl) rfl) rfl
  refine ⟨hfirst, hsecond, few, ?_⟩
  exact value_eq_of_measurement_eq run fresh_unused few (by simp [past]) (by simp [past]) hfirst
    hsecond rfl

end Session

end Sensorium
