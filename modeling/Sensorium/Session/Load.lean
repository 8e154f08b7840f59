import Sensorium.Session.Basic

/-!
# What a session still has to do

Every script is worked off at most once, so the calls that are still to be begun become
fewer, and between two of them the tasks at hand become lighter. `Session.load` measures
both, and `Session.load_step` says that every step makes it less.
-/

namespace Sensorium

mutual

/-- The number of calls in a call, which are itself and all calls in the scripts of an
    observer or a sink that it attaches. -/
def Call.weight : Call → Nat
  | .attach ⟨changing, stabilized, targetChanged⟩ =>
    1 + slotWeight changing + slotWeight stabilized + slotWeight targetChanged
  | .attachSink scripts => 1 + scriptsWeight scripts
  | _ => 1

/-- The number of calls in the scripts for one kind of notice. -/
def slotWeight : Option (List (List Call)) → Nat
  | none => 0
  | some scripts => scriptsWeight scripts

def scriptsWeight : List (List Call) → Nat
  | [] => 0
  | script :: rest => scriptWeight script + scriptsWeight rest

def scriptWeight : List Call → Nat
  | [] => 0
  | call :: rest => call.weight + scriptWeight rest

end

namespace Observer

/-- The number of calls in the scripts that an observer has left. -/
def weight (observer : Observer Script) : Nat :=
  slotWeight observer.changing + slotWeight observer.stabilized +
    slotWeight observer.targetChanged

end Observer

namespace Task

def calls : Task → Nat
  | .call asked => asked.weight
  | _ => 0

/-- How many steps a task takes at most, apart from the calls that are begun. -/
def effort : Task → Nat
  | .call _ => 0
  | .mark | .clearOverrides | .advance _ => 3
  | .tell _ _ => 2
  | .settle _ _ rounds limit => 1 + 4 * (limit - rounds)
  | .retarget _ _ _ | .override _ _ | .leave _ | .resume | .answer _ => 1

end Task

def total {α : Type} (measure : α → Nat) : List α → Nat
  | [] => 0
  | item :: rest => measure item + total measure rest

theorem total_append {α : Type} (measure : α → Nat) (xs ys : List α) :
    total measure (xs ++ ys) = total measure xs + total measure ys := by
  induction xs with
  | nil => simp only [List.nil_append, total, Nat.zero_add]
  | cons x rest ih => simp only [List.cons_append, total, ih, Nat.add_assoc]

theorem total_cons {α : Type} (measure : α → Nat) (x : α) (xs : List α) :
    total measure (x :: xs) = measure x + total measure xs :=
  rfl

/-- Replacing an item changes the sum by the difference of the two. -/
theorem total_set {α : Type} (measure : α → Nat) (y : α) (xs : List α) (i : Nat) (x : α)
    (h : xs[i]? = some x) :
    total measure (xs.set i y) + measure x = total measure xs + measure y := by
  induction xs generalizing i with
  | nil => simp at h
  | cons a rest ih =>
    cases i with
    | zero =>
      obtain rfl : a = x := by simpa using h
      simp only [List.set_cons_zero, total_cons]
      omega
    | succ i =>
      have step := ih i (by simpa using h)
      simp only [List.set_cons_succ, total_cons]
      omega

theorem total_calls_script (script : Script) :
    total Task.calls (script.map Task.call) = scriptWeight script := by
  induction script with
  | nil => rfl
  | cons call rest ih =>
    simp only [List.map_cons, total_cons, ih, Task.calls, scriptWeight]

theorem total_effort_script (script : Script) :
    total Task.effort (script.map Task.call) = 0 := by
  induction script with
  | nil => rfl
  | cons call rest ih => simp only [List.map_cons, total_cons, ih, Task.effort]

theorem total_calls_changes (changes : List Change) :
    total Task.calls (changes.flatMap Change.tasks) = 0 := by
  induction changes with
  | nil => rfl
  | cons change rest ih =>
    rw [List.flatMap_cons, total_append, ih]
    cases change <;> rfl

namespace Observer

/-- Working off a script takes its calls from the observer. -/
theorem weight_next (observer : Observer Script) (notice : Notice) (script : Script)
    (rest : List Script) (h : observer.scripts notice = some (script :: rest)) :
    (observer.next notice).weight + scriptWeight script = observer.weight := by
  cases notice <;> simp only [scripts] at h <;>
    simp only [next, weight, h, Option.map_some, List.tail_cons, slotWeight, scriptsWeight] <;>
    omega

end Observer

namespace Session

/-- The calls that are still to be begun, in the tasks and in the scripts of observers and
    sinks. -/
def pending (s : Session) : Nat :=
  total Task.calls s.tasks + total Observer.weight s.observers + total scriptsWeight s.sinks

/-- The steps that are still to be done before another call is begun, or at the end. -/
def effort (s : Session) : Nat := total Task.effort s.tasks

/-- What is still to be done: calls, and then steps. -/
def load (s : Session) : Nat × Nat := (s.pending, s.effort)

section

variable (s : Session)

@[simp] theorem pending_first (tasks : List Task) :
    (s.first tasks).pending = total Task.calls tasks + s.pending := by
  simp only [pending, first, total_append]
  omega

@[simp] theorem effort_first (tasks : List Task) :
    (s.first tasks).effort = total Task.effort tasks + s.effort := by
  simp only [effort, first, total_append]

@[simp] theorem pending_reply (answer : Answer) : (s.reply answer).pending = s.pending := rfl

@[simp] theorem effort_reply (answer : Answer) : (s.reply answer).effort = s.effort := rfl

@[simp] theorem pending_note (entry : Entry) : (s.note entry).pending = s.pending := rfl

@[simp] theorem effort_note (entry : Entry) : (s.note entry).effort = s.effort := rfl

@[simp] theorem pending_carryOut (changes : List Change) (answer : Answer) :
    (s.carryOut changes answer).pending = s.pending := by
  simp only [carryOut, pending_first, total_append, total_calls_changes]
  simp [total, Task.calls]

@[simp] theorem pending_device (device : Device) : { s with device }.pending = s.pending := rfl

@[simp] theorem effort_device (device : Device) : { s with device }.effort = s.effort := rfl

@[simp] theorem pending_announce (due : Option Notice) : (s.announce due).pending = s.pending := by
  unfold announce
  split
  · simp [total, Task.calls]
  · rfl

theorem effort_announce_le (due : Option Notice) : (s.announce due).effort ≤ s.effort + 2 := by
  unfold announce
  split
  · simp [total, Task.effort, Nat.add_comm]
  · omega

@[simp] theorem pending_readSensor (sensor : Sensor) :
    (s.readSensor sensor).1.pending = s.pending := rfl

@[simp] theorem pending_readSensors (sensors : List Sensor) :
    (s.readSensors sensors).1.pending = s.pending := by
  induction sensors generalizing s with
  | nil => rfl
  | cons sensor rest ih =>
    simp only [readSensors]
    rw [ih, pending_readSensor]

@[simp] theorem pending_readPose : s.readPose.1.pending = s.pending := by
  unfold readPose
  split <;> rfl

theorem pending_loadSnapshot (bytes : List UInt8) :
    (s.loadSnapshot bytes).pending = s.pending := by
  unfold loadSnapshot
  split <;> simp

theorem pending_startTrace (path : String) : (s.startTrace path).pending = s.pending := by
  unfold startTrace
  split <;> rfl

/-- What a sink is handed moves calls from its scripts to the tasks. -/
theorem pending_record (id : SinkId) (event : Event) :
    (s.record id event).pending = s.pending := by
  simp only [record]
  split
  · rename_i script rest found
    have replaced := total_set scriptsWeight rest s.sinks id (script :: rest) found
    simp only [scriptsWeight] at replaced
    simp only [pending, note, total_append, total_cons, total_calls_script, Task.calls]
    omega
  · rfl

theorem pending_setTarget (p : Parameter) (value : Value) (approach : Approach) :
    (s.setTarget p value approach).pending = s.pending := by
  unfold setTarget
  split
  · rw [pending_record, pending_carryOut]
  · rw [pending_carryOut]

/-- Attaching a sink hands it the calls of its scripts. -/
theorem pending_attachSink (scripts : List Script) :
    (s.attachSink scripts).pending = s.pending + scriptsWeight scripts := by
  simp only [attachSink, pending, total_append]
  simp [total]
  omega

theorem pending_attach (observer : Observer Script) :
    (s.attach observer).pending = s.pending + observer.weight := by
  simp only [attach, pending_first, total_append]
  split <;>
    simp only [pending, total_append, total_cons, Task.calls] <;>
    simp [total] <;> omega

/-- Beginning a call leaves one call less to be begun. -/
theorem pending_begin_lt (call : Call) : (s.begin call).pending < call.weight + s.pending := by
  cases call with
  | attach observer =>
    simp only [begin, pending_attach, Observer.weight, Call.weight]
    omega
  | loadSnapshot source cut => simp only [begin, pending_loadSnapshot, Call.weight]; omega
  | startTrace path => simp only [begin, pending_startTrace, Call.weight]; omega
  | setTarget p value approach => simp only [begin, pending_setTarget, Call.weight]; omega
  | advance now => simp [begin, Call.weight, total, Task.calls]
  | settle step limit => simp [begin, Call.weight, total, Task.calls]
  | get p aspect => simp [begin, Call.weight]
  | getAll => simp [begin, Call.weight]
  | override sensor value => simp [begin, Call.weight]
  | read sensor => simp [begin, Call.weight]
  | readAll => simp [begin, Call.weight]
  | pose => simp [begin, Call.weight]
  | survey sensor => simp [begin, Call.weight]
  | detach => simp [begin, Call.weight]
  | attachSink scripts => simp only [begin, pending_reply, pending_attachSink, Call.weight]; omega
  | detachSink => exact Nat.lt_add_of_pos_left Nat.one_pos
  | saveSnapshot slot =>
    simp only [begin, pending_reply, Call.weight]
    exact Nat.lt_add_of_pos_left Nat.one_pos
  | saveState slot =>
    simp only [begin, pending_reply, Call.weight]
    exact Nat.lt_add_of_pos_left Nat.one_pos
  | loadState source => simp [begin, Call.weight]
  | replay event => simp [begin, Call.weight]
  | stopTrace => simp [begin, Call.weight]
  | listFiles directory => simp [begin, Call.weight]
  | summary => simp [begin, Call.weight]

/-- What an observer is told moves calls from its scripts to the tasks. -/
theorem pending_tell (id : ObserverId) (notice : Notice) :
    (s.tell id notice).pending = s.pending := by
  unfold tell
  split
  · rfl
  · rename_i observer found
    split
    · rfl
    · rfl
    · rename_i script rest left
      have moved := observer.weight_next notice script rest left
      have replaced :=
        total_set Observer.weight (observer.next notice) s.observers id observer found
      simp only [pending, total_append, total_cons, total_calls_script, Task.calls]
      omega

theorem effort_tell_le (id : ObserverId) (notice : Notice) :
    (s.tell id notice).effort ≤ s.effort + 1 := by
  unfold tell
  split
  · omega
  · split
    · omega
    · simp
    · simp only [effort, total_append, total_cons, total_effort_script, Task.effort]
      omega

/-- A task leaves less to be done than there was with it. -/
theorem perform_lighter (task : Task) :
    (s.perform task).pending < task.calls + s.pending ∨
      (s.perform task).pending = task.calls + s.pending ∧
        (s.perform task).effort < task.effort + s.effort := by
  cases task with
  | call call => exact .inl (s.pending_begin_lt call)
  | tell observer notice =>
    refine .inr ⟨by simp [perform, pending_tell, Task.calls], ?_⟩
    have := s.effort_tell_le observer notice
    simp only [perform, Task.effort]
    omega
  | settle now step rounds limit =>
    right
    by_cases more : s.device.changing = true ∧ rounds < limit
    · simp only [perform, if_pos more, pending_first, effort_first, total_cons, Task.calls,
        Task.effort]
      simp only [total, true_and]
      omega
    · simp only [perform, if_neg more, pending_reply, effort_reply, Task.calls, Task.effort]
      omega
  | mark =>
    refine .inr ⟨by simp [perform, Task.calls], ?_⟩
    have := effort_announce_le { s with device := s.device.markChanging.1 }
      s.device.markChanging.2
    simp only [effort_device] at this
    simp only [perform, Task.effort]
    omega
  | clearOverrides =>
    refine .inr ⟨by simp [perform, Task.calls], ?_⟩
    have := effort_announce_le { s with device := s.device.clearOverrides } (some .targetChanged)
    simp only [effort_device] at this
    simp only [perform, Task.effort]
    omega
  | advance now =>
    refine .inr ⟨by simp [perform, Task.calls], ?_⟩
    have := effort_announce_le { s with device := (s.device.advance now).1 }
      (s.device.advance now).2
    simp only [effort_device] at this
    simp only [perform, Task.effort]
    omega
  | retarget p value approach =>
    exact .inr ⟨by simp [perform, Task.calls], by simp [perform, Task.effort]⟩
  | override sensor value =>
    exact .inr ⟨by simp [perform, Task.calls], by simp [perform, Task.effort]⟩
  | leave notice =>
    refine .inr ⟨by simp [perform, leave, Task.calls, pending], ?_⟩
    simp [perform, leave, Task.effort, effort]
  | resume =>
    refine .inr ⟨by simp [perform, resume, Task.calls, pending], ?_⟩
    simp [perform, resume, Task.effort, effort]
  | answer answer => exact .inr ⟨by simp [perform, Task.calls], by simp [perform, Task.effort]⟩

end

theorem load_step {s : Session} {task : Task} {rest : List Task} (h : s.tasks = task :: rest) :
    Prod.Lex (· < ·) (· < ·) s.step.load s.load := by
  have lighter := perform_lighter { s with tasks := rest } task
  have calls : task.calls + { s with tasks := rest }.pending = s.pending := by
    simp only [pending, h, total_cons]
    omega
  have effort : task.effort + { s with tasks := rest }.effort = s.effort := by
    simp only [Session.effort, h, total_cons]
  rw [calls, effort] at lighter
  simp only [step, h, load]
  rcases lighter with less | ⟨same, less⟩
  · exact Prod.Lex.left _ _ less
  · rw [same]
    exact Prod.Lex.right _ less

end Session

end Sensorium
