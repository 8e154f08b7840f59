import Sensorium.Proofs.Record.SnapshotRoundTrip
import Sensorium.Proofs.Session.Passive

/-!
# Reachable sessions

A session is reachable if it is gone through by some history that begins with a device that
was just made, whatever is asked on the way and whoever listens. Every device of a reachable
session is `Sound`: its settings are without a fault, since nothing ever changes them, and
every sensor that is overridden reports a value of its kind, since every value is made to
conform before it gets to a sensor.
-/

namespace Sensorium

/-- A device with settings without a fault, on whose board every override is of the kind of its
    sensor. -/
structure Device.Sound (d : Device) : Prop where
  body : d.body.settings.fault? = none
  surroundings : d.surroundings.settings.fault? = none
  overrides : ∀ sensor value, d.board.override? sensor = some value → value.kind = sensor.kind

/-- A change that overrides sensors only with values of their kind. -/
def Change.Fitting : Change → Prop
  | .target _ _ _ => True
  | .override sensor value => value.kind = sensor.kind

/-- A task that overrides sensors only with values of their kind. -/
def Task.Fitting : Task → Prop
  | .override sensor value => value.kind = sensor.kind
  | _ => True

/-! ## Plans -/

/-- Playing back an event overrides nothing. -/
theorem Event.override_not_mem_plan (event : Event) (sensor : Sensor) (value : Value) :
    .override sensor value ∉ event.plan := by
  intro mem
  unfold plan at mem
  split at mem
  · cases mem
  · obtain ⟨target, -, same⟩ := List.mem_map.mp mem
    cases same

/-- Neither does loading a saved state. -/
theorem SavedState.override_not_mem_plan (state : SavedState) (sensor : Sensor) (value : Value) :
    .override sensor value ∉ state.plan := by
  intro mem
  unfold plan at mem
  rcases List.mem_append.mp mem with mem | mem
  · rcases List.mem_append.mp mem with mem | mem
    · obtain ⟨event, -, mem⟩ := List.mem_flatMap.mp mem
      unfold immediate at mem
      split at mem
      · cases mem
      · cases mem
      · exact event.override_not_mem_plan sensor value mem
    · rcases List.mem_cons.mp mem with same | mem
      · cases same
      · cases List.mem_singleton.mp mem
  · split at mem <;> cases List.mem_singleton.mp mem

/-- Loading a snapshot overrides the sensors by what it says. -/
theorem Snapshot.override_mem_plan {snapshot : Snapshot} {sensor : Sensor} {value : Value}
    (mem : .override sensor value ∈ snapshot.plan) :
    (sensor, some value) ∈ Sensor.all.zip snapshot.overrides := by
  rcases List.mem_append.mp mem with mem | mem
  · obtain ⟨target, -, same⟩ := List.mem_map.mp mem
    cases same
  · obtain ⟨⟨listed, entry⟩, paired, made⟩ := List.mem_filterMap.mp mem
    obtain ⟨given, rfl, same⟩ := Option.map_eq_some_iff.mp made
    cases same
    exact paired

namespace Session

/-- A call overrides a sensor by a value: by the one that it is given, once that conforms, or by
    one in the snapshot that it loads. -/
inductive Overrides (s : Session) (sensor : Sensor) : Call → Value → Prop
  | given (value : Value) :
      Overrides s sensor (.override sensor value) (value.conform sensor.kind)
  | loaded {source : SnapshotSource} {cut : Option Nat} {snapshot : Snapshot}
      {rest : List UInt8} {value : Value}
      (decoded : Snapshot.decode (s.bytesOf source cut) = .ok (snapshot, rest))
      (listed : (sensor, some value) ∈ Sensor.all.zip snapshot.overrides) :
      Overrides s sensor (.loadSnapshot source cut) value

variable {s : Session}

/-- Only values of its kind override a sensor. -/
theorem Overrides.kind {call : Call} {sensor : Sensor} {value : Value}
    (h : s.Overrides sensor call value) : value.kind = sensor.kind := by
  cases h with
  | given value => exact value.kind_conform sensor.kind
  | loaded decoded listed => exact Snapshot.kind_of_decode decoded listed

theorem overrides_of_mem_plan {call : Call} {sensor : Sensor} {value : Value}
    (mem : .override sensor value ∈ s.plan call) : s.Overrides sensor call value := by
  cases call with
  | setTarget p value approach => cases List.mem_singleton.mp mem
  | override other given =>
    cases List.mem_singleton.mp mem
    exact .given given
  | loadSnapshot source cut =>
    simp only [plan] at mem
    split at mem
    · cases mem
    · rename_i decoded
      exact .loaded decoded (Snapshot.override_mem_plan mem)
  | loadState source => exact ((s.stateOf source).override_not_mem_plan sensor value mem).elim
  | replay event => exact (event.override_not_mem_plan sensor value mem).elim
  | _ => cases mem

end Session

/-! ## Tasks -/

namespace Session

/-- The device is sound, and so it stays when all tasks are done. -/
structure Sound (s : Session) : Prop where
  device : s.device.Sound
  tasks : ∀ task ∈ s.tasks, task.Fitting

variable {s : Session} {task : Task}

/-- Whatever comes of a task overrides sensors only with values of their kind. -/
theorem fitting_perform {first : Task} (mem : task ∈ (s.perform first).tasks) :
    task ∈ s.tasks ∨ task.Fitting := by
  rcases (s.leadsTo_perform first).mem mem with mem | apart | ⟨call, change, -, planned, mem⟩
  · exact .inl mem
  · right
    cases task with
    | override sensor value => cases apart
    | _ => trivial
  · right
    cases change with
    | target p value approach =>
      simp only [Change.tasks, List.mem_cons, List.not_mem_nil, or_false] at mem
      rcases mem with rfl | rfl | rfl <;> trivial
    | override sensor value =>
      simp only [Change.tasks, List.mem_cons, List.not_mem_nil, or_false] at mem
      rcases mem with rfl | rfl
      · trivial
      · exact (overrides_of_mem_plan planned).kind

end Session

/-! ## Devices -/

/-- A reading overrides nothing. -/
theorem Device.override_gaugeAfter (d : Device) (sensor : Sensor) :
    (d.gaugeAfter sensor).override = (d.board.gauge sensor).override := by
  unfold gaugeAfter
  split <;> rfl

namespace Session

variable {s : Session}

theorem sound_begin (h : s.device.Sound) (call : Call) : (s.begin call).device.Sound := by
  obtain ⟨board, observer, sink, trace, after, device⟩ := s.device_begin call
  rw [device]
  refine ⟨h.body, h.surroundings, ?_⟩
  intro sensor value made
  apply h.overrides sensor value
  rw [← made]
  change _ = (board.gauge sensor).override
  rw [after sensor]
  split
  · exact (s.device.override_gaugeAfter sensor).symm
  · rfl

end Session

namespace Device.Sound

variable {d : Device} (h : d.Sound)
include h

theorem retarget (p : Parameter) (value : Value) (approach : Approach) :
    (d.retarget p value approach).Sound := by
  have surroundings : (d.retarget p value approach).surroundings.settings =
      d.surroundings.settings := by
    cases p <;> rfl
  have board : (d.retarget p value approach).board = d.board := by rw [retarget_eq]
  refine ⟨?_, ?_, ?_⟩
  · rw [settings_retarget]
    exact h.body
  · rw [surroundings]
    exact h.surroundings
  · rw [board]
    exact h.overrides

theorem clearOverrides : d.clearOverrides.Sound := by
  refine ⟨h.body, h.surroundings, ?_⟩
  intro sensor value made
  simp only [Device.clearOverrides, Board.override?, Board.gauge_clear] at made
  cases made

theorem override {sensor : Sensor} {value : Value} (fitting : value.kind = sensor.kind) :
    (d.override sensor value).Sound := by
  refine ⟨h.body, h.surroundings, ?_⟩
  intro t shown made
  simp only [Device.override, Board.override?, Board.gauge_override] at made
  by_cases same : t = sensor
  · subst same
    rw [if_pos rfl] at made
    cases made
    exact fitting
  · rw [if_neg same] at made
    exact h.overrides t shown made

theorem advance (now : Nanos) : (d.advance now).1.Sound := by
  have surroundings : (d.surroundings.advance now).1.settings = d.surroundings.settings := by
    simp only [Surroundings.advance]
    split <;> rfl
  have counted : ∀ sensor value, d.board.countAll.override? sensor = some value →
      value.kind = sensor.kind := by
    intro sensor value made
    rw [Board.override?, Board.gauge_countAll] at made
    exact h.overrides sensor value made
  have body := h.body
  have rest := h.surroundings
  rw [← settings_advance d.body now] at body
  rw [← surroundings] at rest
  unfold Device.advance
  split
  · exact h
  · simp only [markChanging_eq]
    split
    · split
      · exact ⟨body, rest, counted⟩
      · exact ⟨body, rest, h.overrides⟩
    · exact ⟨body, rest, h.overrides⟩

theorem make {change : Change} (fitting : change.Fitting) : (d.make change).Sound := by
  have marked : d.marked.Sound := ⟨h.body, h.surroundings, h.overrides⟩
  cases change with
  | target p value approach => exact (marked.retarget p value approach).clearOverrides
  | override sensor value => exact marked.override fitting

theorem makeAll {changes : List Change} (fitting : ∀ change ∈ changes, change.Fitting) :
    (d.makeAll changes).Sound := by
  induction changes generalizing d with
  | nil => exact h
  | cons change rest ih =>
    apply ih (h.make (fitting change List.mem_cons_self))
    intro later mem
    exact fitting later (List.mem_cons_of_mem _ mem)

end Device.Sound

theorem Device.sound_of_start? {settings : Settings} {d : Device}
    (started : Device.start? settings = .ok d) : d.Sound := by
  unfold Device.start? at started
  split at started
  · cases started
  · rename_i faultless
    cases started
    refine ⟨faultless, faultless, ?_⟩
    intro sensor value made
    simp only [Device.start, Board.override?, Board.gauge_blank] at made
    cases made

namespace Session

variable {s : Session}

theorem sound_perform (h : s.device.Sound) {task : Task} (fitting : task.Fitting) :
    (s.perform task).device.Sound := by
  cases task with
  | call call => exact sound_begin h call
  | mark =>
    rw [device_mark]
    exact ⟨h.body, h.surroundings, h.overrides⟩
  | retarget p value approach => exact h.retarget p value approach
  | override sensor value => exact h.override fitting
  | advance now =>
    rw [device_advance]
    exact h.advance now
  | clearOverrides =>
    simp only [perform, device_announce]
    exact h.clearOverrides
  | settle now step rounds limit =>
    simp only [perform]
    split <;> exact h
  | tell id notice =>
    simp only [perform, device_tell]
    exact h
  | leave notice | resume | answer answer => exact h

theorem Sound.step (h : s.Sound) : s.step.Sound := by
  cases found : s.tasks with
  | nil =>
    rw [step_of_no_tasks found]
    exact h
  | cons task rest =>
    have tasks := h.tasks
    rw [found] at tasks
    rw [step_of_tasks found]
    have device : { s with tasks := rest }.device.Sound := h.device
    constructor
    · exact sound_perform device (tasks task List.mem_cons_self)
    · intro later mem
      rcases fitting_perform mem with left | fitting
      · exact tasks later (List.mem_cons_of_mem _ left)
      · exact fitting

theorem Sound.ask (h : s.Sound) (call : Call) : (s.ask call).Sound := by
  refine ⟨h.device, ?_⟩
  intro task mem
  cases List.mem_singleton.mp mem
  trivial

theorem Fresh.sound (h : s.Fresh) : s.Sound := by
  obtain ⟨settings, started⟩ := h.device
  refine ⟨Device.sound_of_start? started, ?_⟩
  rw [h.idle]
  nofun

/-- Some history leads to the session, from a device that was just made. -/
def Reachable (s : Session) : Prop :=
  ∃ origin past, origin.Fresh ∧ History (fun _ => True) origin past s

theorem Reachable.respondAll (h : s.Reachable) (idle : s.tasks = []) (calls : List Call) :
    (s.respondAll calls).1.Reachable := by
  obtain ⟨origin, past, fresh, run⟩ := h
  obtain ⟨later, after, -⟩ := run.respondAll idle calls fun _ _ => trivial
  exact ⟨origin, later ++ past, fresh, after⟩

/-- The device of a session that can be reached is sound. -/
theorem Reachable.sound (h : s.Reachable) : s.Sound := by
  obtain ⟨origin, past, fresh, run⟩ := h
  induction run with
  | start => exact fresh.sound
  | step _ _ _ _ ih => exact ih.step
  | ask call _ _ _ ih => exact ih.ask call

end Session

end Sensorium
