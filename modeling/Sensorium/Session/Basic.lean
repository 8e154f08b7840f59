import Sensorium.Session.Call

/-!
# Sessions

A session is a device with everything that calls can touch: the observers and sinks it has
had, the files, the saved snapshots and states, and the calls that are going on.

A call is a list of tasks. Each task is indivisible; between two tasks an observer may be
told something or a sink be handed a target, and what they then do comes before the rest
of the call. So a session is a stack machine: `Session.perform` does the first task and
puts what follows from it in front of the others.
-/

namespace Sensorium

/-- One step of a call. -/
inductive Task where
  | call (call : Call)
  /-- Marks the device as changing, before a target or an override changes. -/
  | mark
  | retarget (parameter : Parameter) (value : Value) (approach : Approach)
  | clearOverrides
  | override (sensor : Sensor) (value : Value)
  | advance (now : Nanos)
  /-- Decides whether settling goes on after an advance to `now`. -/
  | settle (now step : Nanos) (rounds limit : Nat)
  | tell (observer : ObserverId) (notice : Notice)
  /-- Ends the script with which an observer reacted. -/
  | leave (notice : Notice)
  /-- Ends the script with which a sink reacted. -/
  | resume
  | answer (answer : Answer)

/-- A device and everything that calls can touch. -/
structure Session where
  device : Device
  /-- All observers so far, with the scripts they have left, in the order of their ids. -/
  observers : List (Observer Script) := []
  /-- The scripts that all sinks so far have left, in the order of their ids. -/
  sinks : List (List Script) := []
  files : FileTree
  places : Places
  snapshots : List (String × List UInt8) := []
  states : List (String × SavedState) := []
  /-- The answers of the script that is being worked off, the last one first. -/
  answers : List Answer := []
  /-- The answers of the scripts in which that one was started, from the inside out. -/
  outer : List (List Answer) := []
  /-- What was noted, the last entry first. -/
  log : List Entry := []
  tasks : List Task := []

def Change.tasks : Change → List Task
  | target p value approach => [.mark, .retarget p value approach, .clearOverrides]
  | override s value => [.mark, .override s value]

namespace Session

def first (s : Session) (tasks : List Task) : Session := { s with tasks := tasks ++ s.tasks }

def reply (s : Session) (answer : Answer) : Session := { s with answers := answer :: s.answers }

def note (s : Session) (entry : Entry) : Session := { s with log := entry :: s.log }

def carryOut (s : Session) (changes : List Change) (answer : Answer) : Session :=
  s.first (changes.flatMap Change.tasks ++ [.answer answer])

/-- Tells the observer of the device of a notice that is due. -/
def announce (s : Session) (due : Option Notice) : Session :=
  match due, s.device.observer with
  | some notice, some observer => s.first [.tell observer notice]
  | _, _ => s

def readSensor (s : Session) (sensor : Sensor) : Session × Reading :=
  let (device, reading) := s.device.read sensor
  ({ s with device }, reading)

def readSensors (s : Session) : List Sensor → Session × List Reading
  | [] => (s, [])
  | sensor :: rest =>
    let (s, reading) := s.readSensor sensor
    let (s, readings) := s.readSensors rest
    (s, reading :: readings)

/-- Reads the pose, and appends it to the trace if one is recorded. -/
def readPose (s : Session) : Session × Pose :=
  let pose := s.device.pose
  match s.device.trace with
  | some recorder => ({ s with files := recorder.append s.files pose }, pose)
  | none => (s, pose)

/-- The item that was kept under a name last. -/
def kept {α : Type} (items : List (String × α)) (name : String) : Option α :=
  (items.find? (·.1 = name)).map (·.2)

/-- Loads a snapshot. Nothing changes unless all of it can be read. -/
def loadSnapshot (s : Session) (bytes : List UInt8) : Session :=
  match Snapshot.decode bytes with
  | .error failure => s.reply (.failed failure)
  | .ok (snapshot, rest) => s.carryOut snapshot.plan (.count rest.length)

/-- Starts a trace in place of the one that is recorded. If that fails, none is. -/
def startTrace (s : Session) (path : String) : Session :=
  match Recorder.start s.places s.files path with
  | .error failure =>
    { s with device := { s.device with trace := none } }.reply (.failed failure)
  | .ok (files, recorder) =>
    { s with files, device := { s.device with trace := some recorder } }.reply .done

/-- Attaches an observer and brings it up to date: it is told that the device is changing,
    then that it has stabilized if it is at rest, and that the target has changed. -/
def attach (s : Session) (observer : Observer Script) : Session :=
  let id := s.observers.length
  let stabilized : List Task := if s.device.changing then [] else [.tell id .stabilized]
  let tasks := [.tell id .changing] ++ stabilized ++ [.tell id .targetChanged, .answer .done]
  { s with
    observers := s.observers ++ [observer]
    device := { s.device with observer := some id } }.first tasks

def attachSink (s : Session) (scripts : List Script) : Session :=
  { s with
    sinks := s.sinks ++ [scripts]
    device := { s.device with sink := some s.sinks.length } }

/-- Hands an event to a sink. If it has a script for it, that is worked off next. -/
def record (s : Session) (id : SinkId) (event : Event) : Session :=
  let noted := s.note (.recorded event s.device.time)
  match s.sinks[id]? with
  | some (script :: rest) =>
    { noted with
      sinks := s.sinks.set id rest
      answers := []
      outer := s.answers :: s.outer
      tasks := script.map .call ++ .resume :: s.tasks }
  | _ => noted

/-- Sets a target. It is recorded before anything changes. -/
def setTarget (s : Session) (p : Parameter) (value : Value) (approach : Approach) : Session :=
  let value := value.conform p.kind
  let changed := s.carryOut [.target p value approach] .done
  match s.device.sink with
  | some id => changed.record id (.ofTarget p value approach)
  | none => changed

def begin (s : Session) : Call → Session
  | .advance now => s.first [.advance now, .answer .done]
  | .settle step limit =>
    s.first [.advance s.device.time, .settle s.device.time step 0 limit]
  | .setTarget p value approach => s.setTarget p value approach
  | .get p aspect => s.reply (.value p (s.device.value p aspect))
  | .getAll =>
    let all (aspect : Aspect) : List Value := Parameter.all.map (s.device.value · aspect)
    s.reply (.values (all .current) (all .still) (all .target))
  | .override sensor value => s.carryOut [.override sensor (value.conform sensor.kind)] .done
  | .read sensor =>
    let (s, reading) := s.readSensor sensor
    s.reply (.reading reading)
  | .readAll =>
    let (s, readings) := s.readSensors Sensor.all
    s.reply (.readings readings)
  | .pose =>
    let (s, pose) := s.readPose
    s.reply (.pose pose)
  | .survey sensor =>
    let (s, reading) := s.readSensor sensor
    let (s, pose) := s.readPose
    s.reply (.survey reading pose s.device.changing)
  | .attach observer => s.attach observer
  | .detach => { s with device := { s.device with observer := none } }.reply .done
  | .attachSink scripts => (s.attachSink scripts).reply .done
  | .detachSink => { s with device := { s.device with sink := none } }.reply .done
  | .saveSnapshot slot =>
    let snapshot := s.device.snapshot
    { s with snapshots := (slot, snapshot.encode) :: s.snapshots }.reply (.words snapshot.words)
  | .loadSnapshot source cut =>
    let bytes := match source with
      | .slot name => (kept s.snapshots name).getD []
      | .bytes bytes => bytes
    s.loadSnapshot (match cut with
      | some length => bytes.take length
      | none => bytes)
  | .saveState slot =>
    let state := s.device.savedState
    { s with states := (slot, state) :: s.states }.reply (.state state)
  | .loadState source =>
    let state := match source with
      | .slot name => (kept s.states name).getD ⟨0, []⟩
      | .state state => state
    s.carryOut state.plan .done
  | .replay event => s.carryOut event.plan .done
  | .startTrace path => s.startTrace path
  | .stopTrace => { s with device := { s.device with trace := none } }.reply .done
  | .listFiles directory => s.reply (.files (s.files.textsBelow directory))
  | .summary => s.reply (.text s.device.summary)

/-- Tells an observer something. If it has a script for it, that is worked off next. -/
def tell (s : Session) (id : ObserverId) (notice : Notice) : Session :=
  match s.observers[id]? with
  | none => s
  | some observer =>
    match observer.scripts notice with
    | none => s
    | some [] => s.note (.began notice)
    | some (script :: _) =>
      { s with
        observers := s.observers.set id (observer.next notice)
        answers := []
        outer := s.answers :: s.outer
        log := .began notice :: s.log
        tasks := script.map .call ++ .leave notice :: s.tasks }

/-- Ends a script: its answers go to the log, and those of the one around it are taken up
    again. -/
def leave (s : Session) (notice : Notice) : Session :=
  { s with
    answers := s.outer.headD []
    outer := s.outer.tail
    log := .ended notice s.answers.reverse :: s.log }

/-- Ends a script of a sink: its answers are dropped, and those of the one around it are
    taken up again. -/
def resume (s : Session) : Session := { s with answers := s.outer.headD [], outer := s.outer.tail }

def perform (s : Session) : Task → Session
  | .call call => s.begin call
  | .mark =>
    let (device, due) := s.device.markChanging
    { s with device }.announce due
  | .retarget p value approach => { s with device := s.device.retarget p value approach }
  | .clearOverrides => { s with device := s.device.clearOverrides }.announce (some .targetChanged)
  | .override sensor value => { s with device := s.device.override sensor value }
  | .advance now =>
    let (device, due) := s.device.advance now
    { s with device }.announce due
  | .settle now step rounds limit =>
    if s.device.changing ∧ rounds < limit then
      s.first [.advance (now + step), .settle (now + step) step (rounds + 1) limit]
    else s.reply (.count rounds)
  | .tell observer notice => s.tell observer notice
  | .leave notice => s.leave notice
  | .resume => s.resume
  | .answer answer => s.reply answer

/-- One step: does the first task, if there is one. -/
def step (s : Session) : Session :=
  match s.tasks with
  | [] => s
  | task :: rest => { s with tasks := rest }.perform task

end Session

end Sensorium
