import Sensorium.Proofs.Device.Readings
import Sensorium.Proofs.Device.Rest
import Sensorium.Session.Run

/-!
# What a step does

A step does one task. For the tasks that do many different things this says once what they
may lead to: `begins_begin` for beginning a call, `tell_cases` for telling an observer
something and `record_cases` for handing a sink an event. What is proved of all sessions
later is proved by these cases. `leadsTo_perform` says of all tasks what is to be done after
them: only a call makes changes, and its changes are those of `Session.plan`.
-/

namespace Sensorium

namespace Call

/-- True for a call that changes neither the device nor who listens to it. A reading may
    still be counted as a measurement. -/
def onlyReads : Call → Bool
  | .get _ _ | .getAll | .read _ | .readAll | .pose | .survey _ => true
  | .saveSnapshot _ | .saveState _ | .listFiles _ | .summary => true
  | _ => false

/-- The sensors that a call reads. -/
def sensors : Call → List Sensor
  | .read sensor | .survey sensor => [sensor]
  | .readAll => Sensor.all
  | _ => []

/-- No sensor is read twice. -/
theorem count_sensors (call : Call) (sensor : Sensor) :
    call.sensors.count sensor = if sensor ∈ call.sensors then 1 else 0 := by
  have nodup : call.sensors.Nodup := by
    cases call with
    | readAll => exact Sensor.nodup_all
    | read | survey => exact List.nodup_singleton _
    | _ => exact List.nodup_nil
  by_cases mem : sensor ∈ call.sensors
  · rw [if_pos mem, List.count_eq_one_of_mem nodup mem]
  · rw [if_neg mem, List.count_eq_zero_of_not_mem mem]

theorem sensors_of_acts {call : Call} (acts : call.onlyReads = false) : call.sensors = [] := by
  cases call <;> first | rfl | cases acts

/-- The readings that an answer to a call holds. -/
def readings : Call → Answer → List (Sensor × Reading)
  | .read sensor, .reading reading => [(sensor, reading)]
  | .survey sensor, .survey reading _ _ => [(sensor, reading)]
  | .readAll, .readings readings => Sensor.all.zip readings
  | _, _ => []

theorem readings_of_acts {call : Call} (acts : call.onlyReads = false) (answer : Answer) :
    call.readings answer = [] := by
  cases call <;> first | rfl | cases acts

end Call

/-- The measurements of a sensor that a call counts because it reads it: all of its readings, if
    the device is changing and the sensor is not overridden, and none otherwise. -/
def Device.counts (d : Device) (sensor : Sensor) (call : Call) : Nat :=
  if d.changing ∧ d.board.override? sensor = none then call.sensors.count sensor else 0

/-- A call that reads counts measurements, and does nothing else to a gauge. -/
theorem Device.BoardAfter.gauge {d : Device} {call : Call} {board : Board}
    (after : d.BoardAfter call.sensors board) (sensor : Sensor) :
    board.gauge sensor =
      { d.board.gauge sensor with
        measurement := d.board.measurement sensor + .ofNat (d.counts sensor call) } := by
  have kept : d.board.measurement sensor + .ofNat 0 = d.board.measurement sensor :=
    UInt64.add_zero _
  rw [after sensor, counts, Call.count_sensors]
  by_cases read : sensor ∈ call.sensors
  · rw [if_pos read, if_pos read, gaugeAfter]
    by_cases counted : d.board.override? sensor = none ∧ d.changing = true
    · rw [if_pos counted, if_pos counted.symm]
      rfl
    · rw [if_neg counted, if_neg (mt And.symm counted), kept]
      rfl
  · rw [if_neg read, if_neg read, ite_self, kept]
    rfl

namespace Session

/-- The bytes from which a snapshot is loaded. -/
def bytesOf (s : Session) (source : SnapshotSource) (cut : Option Nat) : List UInt8 :=
  let bytes := match source with
    | .slot name => (kept s.snapshots name).getD []
    | .bytes bytes => bytes
  match cut with
  | some length => bytes.take length
  | none => bytes

/-- The state that is loaded. -/
def stateOf (s : Session) : StateSource → SavedState
  | .slot name => (kept s.states name).getD ⟨0, []⟩
  | .state state => state

/-- The changes that a call makes to the device, in order. -/
def plan (s : Session) : Call → List Change
  | .setTarget p value approach => [.target p (value.conform p.kind) approach]
  | .override sensor value => [.override sensor (value.conform sensor.kind)]
  | .loadSnapshot source cut =>
    match Snapshot.decode (s.bytesOf source cut) with
    | .error _ => []
    | .ok (snapshot, _) => snapshot.plan
  | .loadState source => (s.stateOf source).plan
  | .replay event => event.plan
  | _ => []

variable (s : Session)

@[simp] theorem device_first (tasks : List Task) : (s.first tasks).device = s.device := rfl

@[simp] theorem device_note (entry : Entry) : (s.note entry).device = s.device := rfl

/-! ## Reading -/

theorem readSensor_eq (sensor : Sensor) :
    ∃ board, s.device.BoardAfter [sensor] board ∧
      s.readSensor sensor =
        ({ s with device := { s.device with board } }, s.device.reading sensor) := by
  obtain ⟨board, after, read⟩ := s.device.read_eq sensor
  refine ⟨board, after, ?_⟩
  rw [readSensor, read]

/-- Reading different sensors gives what each of them would have given alone. -/
theorem readSensors_eq (sensors : List Sensor) (nodup : sensors.Nodup) :
    ∃ board, s.device.BoardAfter sensors board ∧
      s.readSensors sensors =
        ({ s with device := { s.device with board } }, sensors.map s.device.reading) := by
  induction sensors generalizing s with
  | nil => exact ⟨s.device.board, s.device.boardAfter_nil, rfl⟩
  | cons sensor rest ih =>
    obtain ⟨fresh, nodup⟩ := List.nodup_cons.mp nodup
    obtain ⟨board, after, head⟩ := s.device.read_eq sensor
    obtain ⟨last, afterRest, tail⟩ := ih { s with device := { s.device with board } } nodup
    have other {t : Sensor} (later : t ∈ rest) :
        { s.device with board }.reading t = s.device.reading t ∧
          { s.device with board }.gaugeAfter t = s.device.gaugeAfter t := by
      have different : t ≠ sensor := by
        rintro rfl
        exact fresh later
      have kept := Device.read_other (d := s.device) different
      rw [head] at kept
      exact kept
    refine ⟨last, ?_, ?_⟩
    · intro t
      rw [afterRest t]
      by_cases later : t ∈ rest
      · rw [if_pos later, if_pos (List.mem_cons_of_mem _ later), (other later).2]
      · rw [if_neg later, after t]
        simp only [List.mem_cons, later, or_false, List.not_mem_nil]
    · have same : rest.map { s.device with board }.reading = rest.map s.device.reading :=
        List.map_congr_left fun t later => (other later).1
      rw [readSensors, readSensor, head]
      simp only [tail, List.map_cons, same]

theorem readPose_eq : ∃ files, s.readPose = ({ s with files }, s.device.pose) := by
  unfold readPose
  split
  · exact ⟨_, rfl⟩
  · exact ⟨s.files, rfl⟩

/-! ## Beginning a call -/

/-- What beginning a call may lead to. -/
inductive Begins (s : Session) : Call → Session → Prop
  /-- A call that only reads is answered at once. -/
  | reads {call board files snapshots states answer} (reads : call.onlyReads = true)
      (after : s.device.BoardAfter call.sensors board)
      (readings : call.readings answer = call.sensors.map fun t => (t, s.device.reading t)) :
      Begins s call
        ({ s with device := { s.device with board }, files, snapshots, states }.reply answer)
  /-- An observer or a sink is detached, a trace starts or stops, or there was no snapshot to
      load. -/
  | configures {call observer sink trace files answer} (acts : call.onlyReads = false)
      (detached : observer = s.device.observer ∨ call = .detach ∧ observer = none)
      (silenced : sink = s.device.sink ∨ sink = none) :
      Begins s call
        ({ s with device := { s.device with observer, sink, trace }, files }.reply answer)
  | changes {call answer} (acts : call.onlyReads = false) :
      Begins s call (s.carryOut (s.plan call) answer)
  | records {call id event answer} (acts : call.onlyReads = false)
      (attached : s.device.sink = some id) :
      Begins s call ((s.carryOut (s.plan call) answer).record id event)
  | advances {now} : Begins s (.advance now) (s.first [.advance now, .answer .done])
  | settles {step limit} : Begins s (.settle step limit)
      (s.first [.advance s.device.time, .settle s.device.time step 0 limit])
  | attaches {observer} : Begins s (.attach observer) (s.attach observer)
  | attachesSink {scripts} : Begins s (.attachSink scripts) ((s.attachSink scripts).reply .done)

theorem begins_setTarget (p : Parameter) (value : Value) (approach : Approach) :
    s.Begins (.setTarget p value approach) (s.setTarget p value approach) := by
  unfold setTarget
  split
  · rename_i id attached
    exact .records rfl attached
  · exact .changes rfl

theorem begins_loadSnapshot (source : SnapshotSource) (cut : Option Nat) :
    s.Begins (.loadSnapshot source cut) (s.loadSnapshot (s.bytesOf source cut)) := by
  unfold loadSnapshot
  cases decoded : Snapshot.decode (s.bytesOf source cut) with
  | error failure => exact .configures rfl (.inl rfl) (.inl rfl)
  | ok found =>
    have planned : s.plan (.loadSnapshot source cut) = found.1.plan := by
      simp only [plan, decoded]
    simp only [← planned]
    exact .changes rfl

theorem begins_startTrace (path : String) :
    s.Begins (.startTrace path) (s.startTrace path) := by
  unfold startTrace
  split <;> exact .configures rfl (.inl rfl) (.inl rfl)

theorem begins_begin (call : Call) : s.Begins call (s.begin call) := by
  cases call with
  | advance now => exact .advances
  | settle step limit => exact .settles
  | setTarget p value approach => exact s.begins_setTarget p value approach
  | loadSnapshot source cut => exact s.begins_loadSnapshot source cut
  | startTrace path => exact s.begins_startTrace path
  | override sensor value => exact .changes rfl
  | loadState source => exact .changes rfl
  | replay event => exact .changes rfl
  | attach observer => exact .attaches
  | attachSink scripts => exact .attachesSink
  | detach => exact .configures rfl (.inr ⟨rfl, rfl⟩) (.inl rfl)
  | detachSink => exact .configures rfl (.inl rfl) (.inr rfl)
  | stopTrace => exact .configures rfl (.inl rfl) (.inl rfl)
  | read sensor =>
    obtain ⟨board, after, read⟩ := s.readSensor_eq sensor
    simp only [begin, read]
    exact .reads rfl after rfl
  | readAll =>
    obtain ⟨board, after, read⟩ := s.readSensors_eq Sensor.all Sensor.nodup_all
    simp only [begin, read]
    exact .reads rfl after rfl
  | pose =>
    obtain ⟨files, pose⟩ := s.readPose_eq
    simp only [begin, pose]
    exact .reads rfl s.device.boardAfter_nil rfl
  | survey sensor =>
    obtain ⟨board, after, read⟩ := s.readSensor_eq sensor
    obtain ⟨files, pose⟩ := { s with device := { s.device with board } }.readPose_eq
    simp only [begin, read, pose]
    exact .reads rfl after rfl
  | _ => exact .reads rfl s.device.boardAfter_nil rfl

/-! ## Observers and sinks -/

/-- Takes up a script before everything else there is to do, which goes on with `back`. -/
def enter (s : Session) (script : Script) (back : Task) : Session :=
  { s with
    answers := []
    outer := s.answers :: s.outer
    tasks := script.map .call ++ back :: s.tasks }

/-- An observer that is told something does nothing, notes it, or works off a script. -/
theorem tell_cases (id : ObserverId) (notice : Notice) :
    s.tell id notice = s ∨ s.tell id notice = s.note (.began notice) ∨
      ∃ observer script rest, s.observers[id]? = some observer ∧
        observer.scripts notice = some (script :: rest) ∧
        s.tell id notice =
          ({ s with observers := s.observers.set id (observer.next notice) }.note
            (.began notice)).enter script (.leave notice) := by
  unfold tell
  split
  · exact .inl rfl
  · rename_i observer found
    split
    · exact .inl rfl
    · exact .inr (.inl rfl)
    · rename_i script rest left
      exact .inr (.inr ⟨observer, script, rest, found, left, rfl⟩)

/-- A sink that is handed an event notes it, and may work off a script. -/
theorem record_cases (id : SinkId) (event : Event) :
    s.record id event = s.note (.recorded event s.device.time) ∨
      ∃ script rest, s.sinks[id]? = some (script :: rest) ∧
        s.record id event =
          ({ s with sinks := s.sinks.set id rest }.note
            (.recorded event s.device.time)).enter script .resume := by
  simp only [record]
  split
  · rename_i script rest left
    exact .inr ⟨script, rest, left, rfl⟩
  · exact .inl rfl

/-- A notice that is due is told before everything else there is to do, if there is an
    observer. -/
theorem announce_cases (due : Option Notice) :
    (due = none ∨ s.device.observer = none) ∧ s.announce due = s ∨
      ∃ notice id, due = some notice ∧ s.device.observer = some id ∧
        s.announce due = s.first [.tell id notice] := by
  cases due with
  | none => exact .inl ⟨.inl rfl, rfl⟩
  | some notice =>
    cases attached : s.device.observer with
    | none => exact .inl ⟨.inr rfl, by simp only [announce, attached]⟩
    | some id => exact .inr ⟨notice, id, rfl, rfl, by simp only [announce, attached]⟩

@[simp] theorem device_announce (due : Option Notice) : (s.announce due).device = s.device := by
  rcases s.announce_cases due with ⟨-, same⟩ | ⟨notice, id, -, -, told⟩
  · rw [same]
  · rw [told, device_first]

@[simp] theorem device_tell (id : ObserverId) (notice : Notice) :
    (s.tell id notice).device = s.device := by
  rcases s.tell_cases id notice with same | noted | ⟨observer, script, rest, -, -, entered⟩
  · rw [same]
  · rw [noted, device_note]
  · rw [entered]
    rfl

@[simp] theorem device_record (id : SinkId) (event : Event) :
    (s.record id event).device = s.device := by
  rcases s.record_cases id event with noted | ⟨script, rest, -, entered⟩
  · rw [noted, device_note]
  · rw [entered]
    rfl

/-! ## The device -/

/-- Beginning a call changes nothing of the device but its board and who listens to it. -/
theorem device_begin (call : Call) :
    ∃ board observer sink trace, s.device.BoardAfter call.sensors board ∧
      (s.begin call).device = { s.device with board, observer, sink, trace } := by
  have begun := s.begins_begin call
  generalize s.begin call = next at begun
  have unread (acts : call.onlyReads = false) :
      s.device.BoardAfter call.sensors s.device.board := by
    rw [Call.sensors_of_acts acts]
    exact s.device.boardAfter_nil
  cases begun with
  | reads reads after => exact ⟨_, _, _, _, after, rfl⟩
  | configures acts => exact ⟨_, _, _, _, unread acts, rfl⟩
  | changes acts => exact ⟨_, _, _, _, unread acts, rfl⟩
  | records acts attached => exact ⟨_, _, _, _, unread acts, device_record ..⟩
  | advances => exact ⟨_, _, _, _, unread rfl, rfl⟩
  | settles => exact ⟨_, _, _, _, unread rfl, rfl⟩
  | attaches => exact ⟨_, _, _, _, unread rfl, rfl⟩
  | attachesSink => exact ⟨_, _, _, _, unread rfl, rfl⟩

end Session

/-- The tasks that change where a device is, where it goes to, or whether it is marked. -/
def Task.moves : Task → Bool
  | .mark | .retarget _ _ _ | .advance _ => true
  | _ => false

/-- Two devices that are and go to the same places, and are marked alike. -/
structure Device.SameMotion (d e : Device) : Prop where
  body : e.body = d.body
  surroundings : e.surroundings = d.surroundings
  changing : e.changing = d.changing

namespace Session

variable (s : Session)

theorem device_mark : (s.perform .mark).device = { s.device with changing := true } := by
  simp only [perform, device_announce, Device.markChanging_eq]

theorem device_advance (now : Nanos) :
    (s.perform (.advance now)).device = (s.device.advance now).1 := by
  simp only [perform, device_announce]

/-- All other tasks leave the motion of the device alone. -/
theorem sameMotion_perform {task : Task} (h : task.moves = false) :
    s.device.SameMotion (s.perform task).device := by
  cases task with
  | call call =>
    obtain ⟨board, observer, sink, trace, -, device⟩ := s.device_begin call
    simp only [perform, device]
    exact ⟨rfl, rfl, rfl⟩
  | settle now step rounds limit =>
    simp only [perform]
    split <;> exact ⟨rfl, rfl, rfl⟩
  | clearOverrides =>
    simp only [perform, device_announce]
    exact ⟨rfl, rfl, rfl⟩
  | tell id notice =>
    simp only [perform, device_tell]
    exact ⟨rfl, rfl, rfl⟩
  | _ => first | exact ⟨rfl, rfl, rfl⟩ | cases h

theorem step_of_tasks {s : Session} {task : Task} {rest : List Task} (h : s.tasks = task :: rest) :
    s.step = { s with tasks := rest }.perform task := by
  simp only [step, h]

theorem step_of_no_tasks {s : Session} (h : s.tasks = []) : s.step = s := by
  simp only [step, h]

end Session

/-! ## What is to be done next -/

/-- True for the tasks of which changes are made up. -/
def Task.partOfChange : Task → Bool
  | .mark | .retarget _ _ _ | .clearOverrides | .override _ _ => true
  | _ => false

/-- What a task puts in front of all others: the tasks of the changes that it makes, if it is a
    call that makes any, and others that are part of no change around them. -/
inductive Session.LeadsTo (s : Session) (task : Task) (tasks : List Task) : Prop
  | of_changes (before : List Task) (changes : List Change) (after : List Task)
    (eq : tasks = before ++ changes.flatMap Change.tasks ++ after ++ s.tasks)
    (apart : ∀ other ∈ before ++ after, other.partOfChange = false)
    (planned : changes = [] ∨ ∃ call, task = .call call ∧ changes = s.plan call)

namespace Session

variable (s : Session)

theorem LeadsTo.other {s : Session} {task : Task} (tasks : List Task)
    (apart : ∀ other ∈ tasks, other.partOfChange = false) :
    s.LeadsTo task (tasks ++ s.tasks) := by
  refine .of_changes tasks [] [] ?_ ?_ (.inl rfl)
  · simp only [List.flatMap_nil, List.append_nil]
  · rw [List.append_nil]
    exact apart

theorem LeadsTo.none {s : Session} {task : Task} : s.LeadsTo task s.tasks :=
  .other [] nofun

theorem partOfChange_script {script : Script} {back : Task} (ends : back.partOfChange = false) :
    ∀ other ∈ script.map Task.call ++ [back], other.partOfChange = false := by
  intro other mem
  rcases List.mem_append.mp mem with mem | mem
  · obtain ⟨call, -, rfl⟩ := List.mem_map.mp mem
    rfl
  · rw [List.mem_singleton.mp mem]
    exact ends

theorem leadsTo_attach {task : Task} (observer : Observer Script) :
    s.LeadsTo task (s.attach observer).tasks := by
  apply LeadsTo.other
  intro other mem
  split at mem <;> simp only [List.cons_append, List.nil_append, List.mem_cons,
    List.not_mem_nil, or_false] at mem
  · rcases mem with rfl | rfl | rfl <;> rfl
  · rcases mem with rfl | rfl | rfl | rfl <;> rfl

theorem leadsTo_begin (call : Call) : s.LeadsTo (.call call) (s.begin call).tasks := by
  have begun := s.begins_begin call
  generalize s.begin call = next at begun
  have answered (answer : Answer) : ∀ other ∈ [Task.answer answer], other.partOfChange = false := by
    intro other mem
    rw [List.mem_singleton.mp mem]
    rfl
  cases begun with
  | reads => exact .none
  | configures => exact .none
  | changes => exact .of_changes [] _ [.answer _] rfl (answered _) (.inr ⟨call, rfl, rfl⟩)
  | @records _ id event answer =>
    rcases (s.carryOut (s.plan call) answer).record_cases id event with
      noted | ⟨script, rest, -, entered⟩
    · rw [noted]
      exact .of_changes [] _ [.answer _] rfl (answered _) (.inr ⟨call, rfl, rfl⟩)
    · rw [entered]
      refine .of_changes (script.map .call ++ [.resume]) _ [.answer answer] ?_ ?_
        (.inr ⟨call, rfl, rfl⟩)
      · simp [enter, carryOut, first, note]
      · intro other mem
        rcases List.mem_append.mp mem with mem | mem
        · exact partOfChange_script rfl other mem
        · exact answered answer other mem
  | @advances now => exact .other [.advance now, .answer .done] (by simp [Task.partOfChange])
  | @settles step limit =>
    exact .other [.advance s.device.time, .settle s.device.time step 0 limit]
      (by simp [Task.partOfChange])
  | attaches => exact s.leadsTo_attach _
  | attachesSink => exact .none

theorem leadsTo_announce {task : Task} (device : Device) (due : Option Notice) :
    s.LeadsTo task ({ s with device }.announce due).tasks := by
  rcases { s with device }.announce_cases due with ⟨-, same⟩ | ⟨notice, id, -, -, told⟩
  · rw [same]
    exact .none
  · rw [told]
    exact .other [.tell id notice] (by simp [Task.partOfChange])

theorem leadsTo_tell {task : Task} (id : ObserverId) (notice : Notice) :
    s.LeadsTo task (s.tell id notice).tasks := by
  rcases s.tell_cases id notice with same | noted | ⟨observer, script, rest, -, -, entered⟩
  · rw [same]
    exact .none
  · rw [noted]
    exact .none
  · rw [entered]
    have taken : s.LeadsTo task (script.map .call ++ [.leave notice] ++ s.tasks) :=
      .other _ (partOfChange_script rfl)
    rw [List.append_assoc] at taken
    exact taken

/-- Only a call makes changes, and then those of its plan. -/
theorem leadsTo_perform (task : Task) : s.LeadsTo task (s.perform task).tasks := by
  cases task with
  | call call => exact s.leadsTo_begin call
  | tell id notice => exact s.leadsTo_tell id notice
  | mark => exact s.leadsTo_announce s.device.markChanging.1 _
  | clearOverrides => exact s.leadsTo_announce s.device.clearOverrides _
  | advance now => exact s.leadsTo_announce (s.device.advance now).1 _
  | settle now step rounds limit =>
    simp only [perform]
    split
    · exact .other [.advance (now + step), .settle (now + step) step (rounds + 1) limit]
        (by simp [Task.partOfChange])
    · exact .none
  | retarget p value approach | override sensor value | leave notice | resume | answer answer =>
    exact .none

/-- Where a task comes from that is to be done after another one. -/
theorem LeadsTo.mem {s : Session} {task other : Task} {tasks : List Task}
    (leads : s.LeadsTo task tasks) (mem : other ∈ tasks) :
    other ∈ s.tasks ∨ other.partOfChange = false ∨
      ∃ call change, task = .call call ∧ change ∈ s.plan call ∧ other ∈ change.tasks := by
  obtain ⟨before, changes, after, rfl, apart, planned⟩ := leads
  rcases List.mem_append.mp mem with mem | mem
  · right
    rcases List.mem_append.mp mem with mem | mem
    · rcases List.mem_append.mp mem with mem | mem
      · exact .inl (apart other (List.mem_append_left _ mem))
      · obtain ⟨change, made, part⟩ := List.mem_flatMap.mp mem
        rcases planned with rfl | ⟨call, rfl, rfl⟩
        · cases made
        · exact .inr ⟨call, change, rfl, made, part⟩
    · exact .inl (apart other (List.mem_append_right _ mem))
  · exact .inl mem

end Session

end Sensorium
