import Sensorium.Proofs.Numeric.Decimal
import Sensorium.Proofs.Record.TraceFiles
import Sensorium.Proofs.Session.Measurements

/-!
# Traces

While a trace is recorded, every pose that is read is appended to its file, and nothing else
writes to a file. `Session.traces_step` says what one step does to the files and to what is
recorded; `Session.History.content` says what a file holds after any run: the lines of the poses
that were read since it was opened last, up to the next call that starts or stops a trace. A trace
that cannot be started stops the one before it, too. A line says what the pose is: the moment, and
each of the six numbers to the nearest millionth.
-/

namespace Sensorium

namespace Call

/-- True for the calls that read the pose. -/
def readsPose : Call → Bool
  | .pose | .survey _ => true
  | _ => false

/-- The pose that an answer to a call holds. -/
def poseIn : Call → Answer → Option Pose
  | .pose, .pose found => some found
  | .survey _, .survey _ found _ => some found
  | _, _ => none

end Call

/-- True for the tasks that start or stop a trace or read the pose. -/
def Task.traces : Task → Bool
  | .call (.startTrace _) | .call .stopTrace => true
  | .call other => other.readsPose
  | _ => false

namespace Session

/-- The pose that is read next, as it is answered. -/
def posed? (s : Session) : Option Pose :=
  match s.tasks, s.step.answers with
  | .call call :: _, answer :: _ => call.poseIn answer
  | _, _ => none

/-- What is recorded from the next step on, if that starts or stops a trace: nothing, if the
    trace cannot be started. -/
def switch? (s : Session) : Option (Option Recorder) :=
  match s.tasks with
  | .call (.startTrace path) :: _ =>
    some ((Recorder.start s.places s.files path).toOption.map (·.2))
  | .call .stopTrace :: _ => some none
  | _ => none

/-! ## One step -/

/-- What a step may do to the files and to what is recorded. -/
inductive Traces (s next : Session) : Prop
  /-- A trace is started. -/
  | starts (recorder : Recorder) (switched : s.switch? = some (some recorder))
      (created : s.files.create recorder.path = .ok (next.files, recorder.location))
      (trace : next.device.trace = some recorder)
  /-- A trace is stopped, or cannot be started. -/
  | stops (switched : s.switch? = some none) (files : next.files = s.files)
      (trace : next.device.trace = none)
  /-- A pose is read, and appended to the trace that is recorded. -/
  | reads (switched : s.switch? = none) (posed : s.posed? = some s.device.pose)
      (files : next.files = s.device.trace.elim s.files (·.append s.files s.device.pose))
      (trace : next.device.trace = s.device.trace)
  | other (switched : s.switch? = none) (silent : s.posed? = none) (files : next.files = s.files)
      (trace : next.device.trace = s.device.trace)

variable (s : Session)

theorem files_announce (due : Option Notice) : (s.announce due).files = s.files := by
  rcases s.announce_cases due with ⟨-, same⟩ | ⟨notice, id, -, -, told⟩
  · rw [same]
  · rw [told]
    rfl

theorem files_tell (id : ObserverId) (notice : Notice) : (s.tell id notice).files = s.files := by
  rcases s.tell_cases id notice with same | noted | ⟨observer, script, rest, -, -, entered⟩
  · rw [same]
  · rw [noted]
    rfl
  · rw [entered]
    rfl

theorem files_record (id : SinkId) (event : Event) : (s.record id event).files = s.files := by
  rcases s.record_cases id event with noted | ⟨script, rest, -, entered⟩
  · rw [noted]
    rfl
  · rw [entered]
    rfl

theorem trace_advance (d : Device) (now : Nanos) : (d.advance now).1.trace = d.trace := by
  rcases d.advance_cases now with ⟨-, same⟩ | ⟨-, stable | ⟨body, surroundings, -, moving⟩⟩
  · rw [same]
  · rw [stable]
  · rw [moving]

/-- A call that has nothing to do with traces leaves them alone. -/
theorem keeps_begin {call : Call} (h : (Task.call call).traces = false) :
    (s.begin call).files = s.files ∧ (s.begin call).device.trace = s.device.trace := by
  cases call with
  | startTrace path | stopTrace | pose | survey sensor => cases h
  | setTarget p value approach =>
    change (s.setTarget p value approach).files = _ ∧ _
    simp only [begin, setTarget]
    split
    · exact ⟨files_record _ _ _, congrArg Device.trace (device_record _ _ _)⟩
    · exact ⟨rfl, rfl⟩
  | loadSnapshot source cut =>
    change (s.loadSnapshot (s.bytesOf source cut)).files = _ ∧
      (s.loadSnapshot (s.bytesOf source cut)).device.trace = _
    unfold loadSnapshot
    split <;> exact ⟨rfl, rfl⟩
  | read sensor =>
    obtain ⟨board, after, read⟩ := s.readSensor_eq sensor
    simp only [begin, read]
    exact ⟨rfl, rfl⟩
  | readAll =>
    obtain ⟨board, after, read⟩ := s.readSensors_eq Sensor.all Sensor.nodup_all
    simp only [begin, read]
    exact ⟨rfl, rfl⟩
  | _ => exact ⟨rfl, rfl⟩

/-- A task that has nothing to do with traces leaves them alone. -/
theorem keeps_perform {task : Task} (h : task.traces = false) :
    (s.perform task).files = s.files ∧ (s.perform task).device.trace = s.device.trace := by
  cases task with
  | call call => exact s.keeps_begin h
  | tell id notice =>
    exact ⟨s.files_tell id notice, congrArg Device.trace (s.device_tell id notice)⟩
  | mark =>
    rw [device_mark]
    exact ⟨files_announce _ _, rfl⟩
  | clearOverrides =>
    simp only [perform, device_announce]
    exact ⟨files_announce _ _, rfl⟩
  | advance now =>
    rw [device_advance]
    exact ⟨files_announce _ _, trace_advance s.device now⟩
  | retarget p value approach =>
    refine ⟨rfl, ?_⟩
    rw [perform, Device.retarget_eq]
  | settle now step rounds limit =>
    simp only [perform]
    split <;> exact ⟨rfl, rfl⟩
  | override sensor value | leave notice | resume | answer answer => exact ⟨rfl, rfl⟩

variable {s : Session} {task : Task} {rest : List Task}

theorem silent_of_no_tasks (idle : s.tasks = []) : s.switch? = none ∧ s.posed? = none := by
  simp only [switch?, posed?, idle, and_self]

theorem switch?_of_traces (found : s.tasks = task :: rest) (h : task.traces = false) :
    s.switch? = none := by
  simp only [switch?, found]
  cases task with
  | call call => cases call <;> first | rfl | cases h
  | _ => rfl

theorem posed?_of_traces (found : s.tasks = task :: rest) (h : task.traces = false) :
    s.posed? = none := by
  simp only [posed?, found]
  split
  · rename_i call others answer answers same given
    cases same
    cases call <;> first | rfl | cases h
  · rfl

/-- A trace is started, or the one before it is stopped; the answer says which. -/
theorem step_startTrace {path : String} (found : s.tasks = .call (.startTrace path) :: rest) :
    (∃ recorder, s.switch? = some (some recorder) ∧ recorder.path = s.places.resolve path ∧
      s.files.create recorder.path = .ok (s.step.files, recorder.location) ∧
      s.step.device.trace = some recorder ∧ s.step.answers = .done :: s.answers) ∨
    ∃ failure, s.switch? = some none ∧ s.step.files = s.files ∧ s.step.device.trace = none ∧
      s.step.answers = .failed failure :: s.answers := by
  have switched : s.switch? =
      some ((Recorder.start s.places s.files path).toOption.map (·.2)) := by
    simp only [switch?, found]
  have stepped : s.step = { s with tasks := rest }.startTrace path := step_of_tasks found
  rw [startTrace] at stepped
  cases started : Recorder.start s.places s.files path with
  | error failure =>
    rw [started] at switched stepped
    rw [stepped]
    exact .inr ⟨failure, switched, rfl, rfl, rfl⟩
  | ok opened =>
    obtain ⟨files, recorder⟩ := opened
    obtain ⟨resolved, created⟩ := Recorder.start_eq_ok started
    rw [started] at switched stepped
    rw [stepped]
    exact .inl ⟨recorder, switched, resolved, created, rfl, rfl⟩

theorem readPose_eq_appended (s : Session) :
    s.readPose =
      ({ s with files := s.device.trace.elim s.files (·.append s.files s.device.pose) },
        s.device.pose) := by
  unfold readPose
  cases s.device.trace <;> rfl

/-- Reading the pose appends it to the trace, whatever else is read with it. -/
theorem step_of_readsPose {call : Call} (found : s.tasks = .call call :: rest)
    (reads : call.readsPose = true) :
    ∃ board answer, call.poseIn answer = some s.device.pose ∧
      s.step =
        { s with
          tasks := rest
          device := { s.device with board }
          files := s.device.trace.elim s.files (·.append s.files s.device.pose)
          answers := answer :: s.answers } := by
  cases call with
  | pose =>
    refine ⟨s.device.board, .pose s.device.pose, rfl, ?_⟩
    rw [step_of_tasks found, perform, begin, readPose_eq_appended]
    rfl
  | survey sensor =>
    obtain ⟨board, -, read⟩ := { s with tasks := rest }.readSensor_eq sensor
    refine ⟨board, .survey (s.device.reading sensor) s.device.pose s.device.changing, rfl, ?_⟩
    simp only [step_of_tasks found, perform, begin, read, readPose_eq_appended]
    rfl
  | _ => cases reads

theorem posed?_of_readsPose {call : Call} (found : s.tasks = .call call :: rest)
    (reads : call.readsPose = true) : s.posed? = some s.device.pose := by
  obtain ⟨board, answer, held, stepped⟩ := step_of_readsPose found reads
  simp only [posed?, found, stepped, held]

/-- What one step does to the files and to what is recorded. -/
theorem traces_step (s : Session) : s.Traces s.step := by
  cases found : s.tasks with
  | nil =>
    rw [step_of_no_tasks found]
    exact .other (silent_of_no_tasks found).1 (silent_of_no_tasks found).2 rfl rfl
  | cons task rest =>
    by_cases traces : task.traces = false
    · obtain ⟨files, trace⟩ := { s with tasks := rest }.keeps_perform traces
      rw [← step_of_tasks found] at files trace
      exact .other (switch?_of_traces found traces) (posed?_of_traces found traces) files trace
    · cases task with
      | call call =>
        cases call with
        | startTrace path =>
          rcases step_startTrace found with
            ⟨recorder, switched, -, created, trace, -⟩ | ⟨failure, switched, files, trace, -⟩
          · exact .starts recorder switched created trace
          · exact .stops switched files trace
        | stopTrace =>
          have switched : s.switch? = some none := by simp only [switch?, found]
          rw [step_of_tasks found]
          exact .stops switched rfl rfl
        | pose | survey =>
          obtain ⟨board, answer, -, stepped⟩ := step_of_readsPose found rfl
          have switched : s.switch? = none := by simp only [switch?, found]
          have posed := posed?_of_readsPose found rfl
          rw [stepped]
          exact .reads switched posed rfl rfl
        | _ => exact (traces rfl).elim
      | _ => exact (traces rfl).elim

/-- Files were written at most. -/
theorem Traces.rewritten {next : Session} (h : s.Traces next) : s.files.Rewritten next.files := by
  cases h with
  | starts recorder switched created => exact FileTree.rewritten_create created
  | stops switched files | other switched silent files =>
    rw [files]
    exact .refl _
  | reads switched posed files =>
    rw [files]
    cases s.device.trace with
    | none => exact .refl _
    | some recorder => exact FileTree.rewritten_appendLine _ _ _

/-! ## Any run -/

/-- The lines of the poses that were read in some states, the latest first, until a trace was
    started or stopped. -/
def recorded (later : List Session) : List String :=
  (later.reverse.takeWhile (·.switch?.isNone)).filterMap fun u => u.posed?.map Pose.line

/-- One state more adds a line if a pose is read in it and nothing was started or stopped. -/
theorem recorded_cons (u : Session) (later : List Session) :
    recorded (u :: later) = recorded later ++
      if later.findSome? switch? = none ∧ u.switch? = none then (u.posed?.map Pose.line).toList
      else [] := by
  unfold recorded
  rw [List.reverse_cons, List.takeWhile_append]
  by_cases whole : later.findSome? switch? = none
  · have all : ∀ v ∈ later.reverse, v.switch?.isNone = true := by
      intro v mem
      rw [List.findSome?_eq_none_iff.mp whole v (List.mem_reverse.mp mem)]
      rfl
    rw [List.takeWhile_eq_self_iff.mpr all, if_pos rfl, List.filterMap_append]
    congr 1
    cases switched : u.switch? with
    | none =>
      cases posed : u.posed? <;> simp [switched, whole, posed]
    | some recorder => simp [switched]
  · have short : (later.reverse.takeWhile (·.switch?.isNone)).length ≠ later.reverse.length := by
      intro long
      have all := (List.takeWhile_prefix _).eq_of_length long
      apply whole
      rw [List.findSome?_eq_none_iff]
      intro v mem
      have silent := List.takeWhile_eq_self_iff.mp all v (List.mem_reverse.mpr mem)
      exact Option.isNone_iff_eq_none.mp silent
    rw [if_neg short, if_neg fun both => whole both.1, List.append_nil]

variable {asked : Call → Prop} {origin u : Session} {past : List Session}

theorem History.previous (run : History asked origin (u :: past) s) :
    History asked origin past u :=
  run.before (List.nil_append (u :: past)).symm

theorem History.traces (run : History asked origin (u :: past) s) : u.Traces s := by
  cases run with
  | step task rest before found => exact u.traces_step
  | ask call before idle allowed =>
    exact .other (silent_of_no_tasks idle).1 (silent_of_no_tasks idle).2 rfl rfl

theorem Fresh.trace (fresh : origin.Fresh) : origin.device.trace = none := by
  obtain ⟨⟨settings, started⟩, -⟩ := fresh
  rw [(Device.finite_of_start? started).1]
  rfl

/-- What is recorded was decided by the last call that started or stopped a trace. -/
theorem History.trace (run : History asked origin past s) (fresh : origin.Fresh) :
    s.device.trace = (past.findSome? switch?).join := by
  induction past generalizing s with
  | nil =>
    cases run
    exact fresh.trace
  | cons u past ih =>
    have before := ih run.previous
    rw [List.findSome?_cons]
    cases run.traces with
    | starts recorder switched created trace =>
      rw [switched, trace]
      rfl
    | stops switched files trace =>
      rw [switched, trace]
      rfl
    | reads switched posed files trace => rw [switched, trace, before]
    | other switched silent files trace => rw [switched, trace, before]

theorem History.rewritten (run : History asked origin past s) :
    origin.files.Rewritten s.files := by
  induction past generalizing s with
  | nil =>
    cases run
    exact .refl _
  | cons u past ih => exact (ih run.previous).trans run.traces.rewritten

/-- If something is recorded, it was started some time before. -/
theorem History.started (run : History asked origin past s) (fresh : origin.Fresh)
    {recorder : Recorder} (recording : s.device.trace = some recorder) :
    ∃ u ∈ past, u.switch? = some (some recorder) := by
  rw [run.trace fresh] at recording
  cases last : past.findSome? switch? with
  | none =>
    rw [last] at recording
    cases recording
  | some switched =>
    rw [last] at recording
    obtain ⟨u, mem, found⟩ := List.exists_of_findSome?_eq_some last
    refine ⟨u, mem, ?_⟩
    rw [found]
    exact congrArg some recording

/-- Where no trace was started, a file is as it was. -/
theorem History.untouched (run : History asked origin past s) (fresh : origin.Fresh)
    {location : Location}
    (apart : ∀ u ∈ past, ∀ recorder, u.switch? = some (some recorder) →
      location ≠ recorder.location) :
    s.files.get? location = origin.files.get? location := by
  induction past generalizing s with
  | nil =>
    cases run
    rfl
  | cons u past ih =>
    obtain ⟨here, apart⟩ := List.forall_mem_cons.mp apart
    rw [← ih run.previous apart]
    cases run.traces with
    | starts recorder switched created =>
      exact FileTree.get?_create_other created (here recorder switched)
    | stops switched files | other switched silent files => rw [files]
    | reads switched posed files =>
      rw [files]
      cases recording : u.device.trace with
      | none => rfl
      | some recorder =>
        obtain ⟨v, mem, started⟩ := run.previous.started fresh recording
        exact FileTree.get?_appendLine_other _ (apart v mem recorder started)

/-- A file that was opened holds the lines that were recorded since it was opened last. -/
theorem History.content (run : History asked origin past s) (fresh : origin.Fresh)
    {later earlier : List Session} {recorder : Recorder} (split : past = later ++ u :: earlier)
    (opened : u.switch? = some (some recorder))
    (last : ∀ w ∈ later, ∀ other, w.switch? = some (some other) →
      recorder.location ≠ other.location)
    (device : origin.files.get? recorder.location ≠ some .fullDevice) :
    s.files.get? recorder.location = some (.text (recorded later)) := by
  subst split
  induction later generalizing s with
  | nil =>
    have still : u.files.get? recorder.location ≠ some .fullDevice := by
      rw [Ne, run.previous.rewritten _ .fullDevice nofun]
      exact device
    cases run.traces with
    | starts other switched created =>
      rw [opened] at switched
      cases switched
      exact FileTree.get?_create_self created still
    | stops switched | reads switched | other switched =>
      rw [opened] at switched
      cases switched
  | cons w later ih =>
    obtain ⟨here, others⟩ := List.forall_mem_cons.mp last
    have before := ih others run.previous
    rw [recorded_cons]
    cases run.traces with
    | starts other switched created =>
      rw [if_neg (by rw [switched]; nofun), List.append_nil, ← before]
      exact FileTree.get?_create_other created (here other switched)
    | stops switched files =>
      rw [if_neg (by rw [switched]; nofun), List.append_nil, ← before, files]
    | other switched silent files =>
      rw [silent, Option.map_none, Option.toList_none, ite_self, List.append_nil, ← before, files]
    | reads switched posed files =>
      have recording : w.device.trace = ((later ++ u :: earlier).findSome? switch?).join :=
        run.previous.trace fresh
      rw [List.findSome?_append, List.findSome?_cons, opened] at recording
      cases between : later.findSome? switch? with
      | none =>
        have active : w.device.trace = some recorder := by
          rw [recording, between]
          rfl
        rw [if_pos ⟨rfl, switched⟩, files, active, posed]
        exact FileTree.get?_appendLine_self before _
      | some after =>
        rw [if_neg (by nofun), List.append_nil, ← before, files]
        have active : w.device.trace = after := by
          rw [recording, between]
          rfl
        cases after with
        | none =>
          rw [active]
          rfl
        | some other =>
          obtain ⟨v, mem, started⟩ := List.exists_of_findSome?_eq_some between
          rw [active]
          exact FileTree.get?_appendLine_other _ (others v mem other started)

/-- A trace that is started has a file. -/
theorem create_of_switch {recorder : Recorder} (switched : s.switch? = some (some recorder)) :
    ∃ files, s.files.create recorder.path = .ok (files, recorder.location) := by
  cases s.traces_step with
  | starts other found created =>
    rw [switched] at found
    cases found
    exact ⟨_, created⟩
  | stops found | reads found | other found =>
    rw [switched] at found
    cases found

theorem History.location (run : History asked origin past s) {recorder : Recorder} (mem : u ∈ past)
    (switched : u.switch? = some (some recorder)) :
    ∃ tree, origin.files.Rewritten tree ∧
      tree.locate recorder.path = .ok recorder.location := by
  obtain ⟨later, earlier, split⟩ := List.append_of_mem mem
  obtain ⟨files, created⟩ := create_of_switch switched
  exact ⟨u.files, (run.before split).rewritten, (FileTree.create_eq_ok created).1⟩

/-- What the states that a session has gone through, the latest first, tell of its traces. -/
structure Traced (origin : Session) (past : List Session) (s : Session) : Prop where
  /-- A call that starts a trace says whether it does. -/
  started : ∀ path rest, s.tasks = .call (.startTrace path) :: rest →
    (∃ recorder, s.switch? = some (some recorder) ∧ recorder.path = s.places.resolve path ∧
      s.step.answers = .done :: s.answers) ∨
    ∃ failure, s.switch? = some none ∧ s.step.answers = .failed failure :: s.answers
  /-- A call that reads the pose is answered by it. -/
  posed : ∀ call rest, s.tasks = .call call :: rest → call.readsPose = true →
    s.posed? = some s.device.pose
  /-- What is recorded was decided by the last call that started or stopped a trace. -/
  active : s.device.trace = (past.findSome? switch?).join
  /-- Nothing is recorded after a trace was stopped or could not be started, until one is. -/
  inactive : ∀ later u earlier, past = later ++ u :: earlier → u.switch? = some none →
    (∀ w ∈ later, ∀ recorder, w.switch? ≠ some (some recorder)) → s.device.trace = none
  /-- The file of a trace holds the lines of the poses that were read since it was opened last,
      up to the next call that started or stopped a trace. -/
  content : ∀ later u earlier recorder, past = later ++ u :: earlier →
    u.switch? = some (some recorder) →
    (∀ w ∈ later, ∀ other, w.switch? = some (some other) → recorder.location ≠ other.location) →
    origin.files.get? recorder.location ≠ some .fullDevice →
      s.files.get? recorder.location = some (.text (recorded later))
  /-- All other files are as they were. -/
  untouched : ∀ location, (∀ u ∈ past, ∀ recorder, u.switch? = some (some recorder) →
    location ≠ recorder.location) → s.files.get? location = origin.files.get? location
  /-- Traces under one path have one file. -/
  place : ∀ u ∈ past, ∀ w ∈ past, ∀ recorder other, u.switch? = some (some recorder) →
    w.switch? = some (some other) → recorder.path = other.path →
      recorder.location = other.location
  /-- A line is made up of the moment, the position and the angles. -/
  line : ∀ pose : Pose, '\n' ∉ pose.line.toList ∧
    (pose.line.split ' ').toList.map (·.copy) =
      [toString pose.time, pose.position.x.fixed 6, pose.position.y.fixed 6,
        pose.position.z.fixed 6, pose.angles.x.fixed 6, pose.angles.y.fixed 6,
        pose.angles.z.fixed 6]
  /-- Read back, the moment is the same and the others are the nearest numbers with six places. -/
  figures : (∀ time : Nanos, (toString time).toInt? = some time) ∧
    ∀ x : Single, Decimal.Says 6 x.unpack (x.fixed 6)

/-- The traces of a session are complete, whatever is asked, and whatever observers and sinks do
    in the midst of it. -/
theorem traced (run : History asked origin past s) (fresh : origin.Fresh) :
    Traced origin past s where
  started path rest found := by
    rcases step_startTrace found with
      ⟨recorder, switched, resolved, -, -, answers⟩ | ⟨failure, switched, -, -, answers⟩
    · exact .inl ⟨recorder, switched, resolved, answers⟩
    · exact .inr ⟨failure, switched, answers⟩
  posed call rest found reads := posed?_of_readsPose found reads
  active := run.trace fresh
  inactive later u earlier split stopped unstarted := by
    rw [run.trace fresh, split, List.findSome?_append, List.findSome?_cons, stopped]
    cases last : later.findSome? switch? with
    | none => rfl
    | some switched =>
      obtain ⟨w, mem, found⟩ := List.exists_of_findSome?_eq_some last
      cases switched with
      | none => rfl
      | some recorder => exact (unstarted w mem recorder found).elim
  content later u earlier recorder split opened last device :=
    run.content fresh split opened last device
  untouched location apart := run.untouched fresh apart
  place u first w second recorder other opened reopened same := by
    obtain ⟨tree, rewritten, located⟩ := run.location first opened
    obtain ⟨tree', rewritten', located'⟩ := run.location second reopened
    rw [same] at located
    exact FileTree.locate_unique (rewritten'.symm.trans rewritten) located' located
  line pose := ⟨pose.newline_not_mem_line, pose.split_line⟩
  figures := ⟨Int.toInt?_repr, Single.says_fixed (by decide)⟩

theorem splitOn_root : "/".splitOn "/" = ["", ""] := by
  have first : String.splitOnAux "/" "/" 0 0 0 [] = String.splitOnAux "/" "/" ⟨1⟩ ⟨1⟩ 0 [""] := by
    rw [String.splitOnAux]
    rfl
  have last : String.splitOnAux "/" "/" ⟨1⟩ ⟨1⟩ 0 [""] = ["", ""] := by
    rw [String.splitOnAux]
    rfl
  exact first.trans last

theorem splitOn_t : "/t".splitOn "/" = ["", "t"] := by
  have first : String.splitOnAux "/t" "/" 0 0 0 [] =
      String.splitOnAux "/t" "/" ⟨1⟩ ⟨1⟩ 0 [""] := by
    rw [String.splitOnAux]
    rfl
  have second : String.splitOnAux "/t" "/" ⟨1⟩ ⟨1⟩ 0 [""] =
      String.splitOnAux "/t" "/" ⟨1⟩ ⟨2⟩ 0 [""] := by
    rw [String.splitOnAux]
    rfl
  have last : String.splitOnAux "/t" "/" ⟨1⟩ ⟨2⟩ 0 [""] = ["", "t"] := by
    rw [String.splitOnAux]
    rfl
  exact first.trans (second.trans last)

/-- The root is no file. -/
theorem start_root (places : Places) (tree : FileTree) :
    Recorder.start places tree "/" = .error (.traceOpen "/" .isDirectory) := by
  have clean : "/".contains '\x00' = false := by cbv
  have absolute : "/".startsWith "/" = true := by cbv
  have located : tree.locate "/" = .error .isDirectory := by
    unfold FileTree.locate
    rw [splitOn_root, clean]
    rfl
  simp only [Recorder.start, Places.resolve, absolute, if_true, FileTree.create, located]
  rfl

/-- A file is made where there is none. -/
theorem start_t (places : Places) :
    Recorder.start places ⟨[]⟩ "/t" = .ok (⟨[(["t"], .text [])]⟩, ⟨"/t", ["t"]⟩) := by
  have clean : "/t".contains '\x00' = false := by cbv
  have absolute : "/t".startsWith "/" = true := by cbv
  have ended : "/t".endsWith "/" = false := by cbv
  have located : FileTree.locate ⟨[]⟩ "/t" = .ok ["t"] := by
    unfold FileTree.locate
    rw [splitOn_t, clean, ended]
    rfl
  simp only [Recorder.start, Places.resolve, absolute, if_true, FileTree.create, located]
  rfl

theorem startTrace_keeps (s : Session) (path : String) :
    (s.startTrace path).tasks = s.tasks ∧ (s.startTrace path).device.pose = s.device.pose := by
  unfold startTrace
  split <;> exact ⟨rfl, rfl⟩

/-- The calls that put a body in a place and turn it, and let some time pass, each when the one
    before it is done. -/
def putting : Session :=
  unused.ask (.setTarget .position
    (.vector ⟨⟨0x3fc00000⟩, ⟨0xc0200000⟩, ⟨0x3dcccccd⟩⟩) .step)

def turning : Session :=
  (step^[5] putting).ask (.setTarget .rotation (.vector ⟨⟨0x41f00000⟩, 0, ⟨0x42200000⟩⟩) .step)

def elapsing : Session := (step^[5] turning).ask (.advance 1500000000)

/-- The file of a trace keeps its one line when another trace cannot be started, and no line is
    added after that. -/
theorem traced_interrupted :
    let moved := step^[3] elapsing
    let before := elapsing.trail 3 ++
      step^[5] turning :: (turning.trail 5 ++ step^[5] putting :: (putting.trail 5 ++ [unused]))
    let recording := moved.ask (.startTrace "/t")
    let first := recording.step.ask .pose
    let failing := first.step.ask (.startTrace "/")
    let second := failing.step.ask .pose
    let past :=
      [second, failing.step, failing, first.step, first, recording.step, recording] ++
        moved :: before
    History (fun _ => True) unused past second.step ∧ unused.Fresh ∧
      Traced unused past second.step ∧
      recording.switch? = some (some ⟨"/t", ["t"]⟩) ∧ failing.switch? = some none ∧
      second.step.files.get? ["t"] = some (.text
        ["1500000000 1.500000 -2.500000 0.100000 30.000002 0.000000 40.000004"]) := by
  intro moved before recording first failing second past
  have begun : History (fun _ => True) unused [unused] putting := .ask _ .start rfl trivial
  have put := begun.trail 5 (by decide +kernel)
  have turned := (put.ask (.setTarget .rotation (.vector ⟨⟨0x41f00000⟩, 0, ⟨0x42200000⟩⟩) .step)
    (by decide +kernel) trivial).trail 5 (by decide +kernel)
  have waited : History (fun _ => True) unused before moved :=
    (turned.ask (.advance 1500000000) (by decide +kernel) trivial).trail 3 (by decide +kernel)
  have rested : moved.files = ⟨[]⟩ ∧ moved.tasks = [] := by decide +kernel
  have line : moved.device.pose.line =
      "1500000000 1.500000 -2.500000 0.100000 30.000002 0.000000 40.000004" := by
    decide +kernel
  clear_value moved before
  have opened : recording.switch? = some (some ⟨"/t", ["t"]⟩) := by
    change some ((Recorder.start moved.places moved.files "/t").toOption.map (·.2)) = _
    rw [rested.1, start_t]
    rfl
  have failed : failing.switch? = some none := by
    simp only [failing, switch?, ask, start_root]
    rfl
  have started : recording.step.tasks = [] := (startTrace_keeps _ _).1
  have read : first.step.tasks = [] := by
    have found : first.tasks = [.call .pose] := rfl
    obtain ⟨board, answer, -, stepped⟩ := step_of_readsPose found rfl
    rw [stepped]
  have stopped : failing.step.tasks = [] := (startTrace_keeps _ _).1.trans rfl
  have begun : History (fun _ => True) unused (moved :: before) recording :=
    waited.ask _ rested.2 trivial
  have begun := (begun.step _ [] rfl).ask .pose started trivial
  have begun := (begun.step _ [] rfl).ask (.startTrace "/") read trivial
  have begun := (begun.step _ [] rfl).ask .pose stopped trivial
  have run : History (fun _ => True) unused past second.step := begun.step _ [] rfl
  have all := traced run fresh_unused
  refine ⟨run, fresh_unused, all, opened, failed, ?_⟩
  have pose : first.posed? = some moved.device.pose := by
    rw [posed?_of_readsPose (s := first) rfl rfl]
    exact congrArg some (startTrace_keeps _ _).2
  have asked : first.switch? = none ∧ second.switch? = none := ⟨rfl, rfl⟩
  have lines : recorded [second, failing.step, failing, first.step, first, recording.step] =
      [moved.device.pose.line] := by
    simp [recorded, silent_of_no_tasks started, silent_of_no_tasks read, failed, asked, pose]
  rw [← line, ← lines]
  refine all.content _ recording (moved :: before) ⟨"/t", ["t"]⟩ rfl opened ?_ (by decide)
  simp [silent_of_no_tasks started, silent_of_no_tasks read, silent_of_no_tasks stopped, failed,
    asked]

end Session

end Sensorium
