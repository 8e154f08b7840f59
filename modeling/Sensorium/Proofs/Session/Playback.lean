import Sensorium.Proofs.Record.Events
import Sensorium.Proofs.Session.Passive

/-!
# Playing back what was recorded

A sink is handed every target that is set, as an event. A device of which the same is asked,
only that it plays back these events instead of having the targets set, goes through the same
states: `Alike` is kept by every call that neither attaches nor detaches anybody.
-/

namespace Sensorium

/-! ## Devices in the same state -/

/-- Two devices that differ at most in who listens to them and in the trace that is
    recorded. -/
structure Device.SameState (d e : Device) : Prop extends d.SameMotion e where
  board : e.board = d.board
  time : e.time = d.time

namespace Device.SameState

variable {d e : Device}

theorem eq (h : d.SameState e) :
    e = { d with observer := e.observer, sink := e.sink, trace := e.trace } := by
  obtain ⟨⟨body, surroundings, changing⟩, board, time⟩ := h
  rw [← body, ← surroundings, ← changing, ← board, ← time]

theorem make (h : d.SameState e) (change : Change) : (d.make change).SameState (e.make change) := by
  rw [h.eq]
  cases change with
  | override sensor value => exact ⟨⟨rfl, rfl, rfl⟩, rfl, rfl⟩
  | target p value approach =>
    cases p <;> exact ⟨⟨rfl, rfl, rfl⟩, rfl, rfl⟩

theorem makeAll (h : d.SameState e) (changes : List Change) :
    (d.makeAll changes).SameState (e.makeAll changes) := by
  induction changes generalizing d e with
  | nil => exact h
  | cons change rest ih => exact ih (h.make change)

theorem advance (h : d.SameState e) (now : Nanos) :
    (d.advance now).1.SameState (e.advance now).1 := by
  rw [h.eq]
  simp only [Device.advance, markChanging_eq]
  split
  · exact ⟨⟨rfl, rfl, rfl⟩, rfl, rfl⟩
  · split
    · split <;> exact ⟨⟨rfl, rfl, rfl⟩, rfl, rfl⟩
    · exact ⟨⟨rfl, rfl, rfl⟩, rfl, rfl⟩

theorem read (h : d.SameState e) (sensor : Sensor) :
    (d.read sensor).1.SameState (e.read sensor).1 := by
  rw [h.eq]
  simp only [Device.read]
  split
  · exact ⟨⟨rfl, rfl, rfl⟩, rfl, rfl⟩
  · exact ⟨⟨rfl, rfl, rfl⟩, rfl, rfl⟩

theorem snapshot (h : d.SameState e) : e.snapshot = d.snapshot := by
  rw [h.eq]
  rfl

theorem savedState (h : d.SameState e) : e.savedState = d.savedState := by
  rw [h.eq]
  rfl

end Device.SameState

/-! ## Calls to a device -/

/-- True for a call that works on the device alone: it lets time pass, sets, overrides, plays
    back, loads or reads something. -/
def Call.plain : Call → Bool
  | .advance _ | .setTarget _ _ _ | .override _ _ | .replay _ => true
  | .loadSnapshot _ _ | .loadState _ => true
  | call => call.onlyReads

namespace Session

/-- Nobody who listens makes calls. -/
structure Passive (s : Session) : Prop where
  observer : s.ObserverPassive
  sink : s.SinkPassive

theorem hereditary_passive :
    Hereditary (fun call => PassiveScripts call.scripts) fun _ => False where
  script _ h := h.elim
  attach _ h := Observer.all_of_left h
  attachSink _ h := h

variable {s t : Session}

theorem Scripted.run {asked scripted : Call → Prop} (hereditary : Hereditary asked scripted)
    (h : s.Scripted asked scripted) : s.run.Scripted asked scripted := by
  fun_induction Session.run s with
  | case1 s none => exact h
  | case2 s task rest found ih => exact ih (h.step hereditary)

/-- Nobody who listens makes calls after one that attaches nobody who does. -/
theorem Passive.respond_of_scripts (h : s.Passive) {call : Call}
    (scripts : PassiveScripts call.scripts) : (s.respond call).1.Passive := by
  have before : (s.ask call).Scripted (fun call => PassiveScripts call.scripts) fun _ => False := by
    refine ⟨?_, ?_, h.sink⟩
    · intro call' mem
      cases List.mem_singleton.mp mem
      exact scripts
    · rintro id observer (attached | ⟨notice, mem⟩) found
      · exact h.observer id observer attached found
      · cases List.mem_singleton.mp mem
  have after := before.run hereditary_passive
  refine ⟨?_, after.sinks⟩
  intro id observer attached found
  exact after.observers id observer (.inl attached) found

theorem Passive.respond (h : s.Passive) {call : Call} (plain : call.plain = true) :
    (s.respond call).1.Passive := by
  apply h.respond_of_scripts
  have none : call.scripts = [] := by
    cases call <;> first | rfl | cases plain
  rw [none]
  nofun

theorem Passive.respondAll (h : s.Passive) {calls : List Call}
    (plain : ∀ call ∈ calls, call.plain = true) : (s.respondAll calls).1.Passive := by
  induction calls generalizing s with
  | nil => exact h
  | cons call rest ih =>
    have others : ∀ call ∈ rest, call.plain = true :=
      fun call mem => plain call (List.mem_cons_of_mem _ mem)
    exact ih (h.respond (plain call List.mem_cons_self)) others

/-! ## Sessions alike -/

/-- Two sessions with devices in the same state, which have saved the same. -/
structure Alike (s t : Session) : Prop where
  device : s.device.SameState t.device
  snapshots : t.snapshots = s.snapshots
  states : t.states = s.states

namespace Alike

theorem readSensor (h : s.Alike t) (sensor : Sensor) :
    (s.readSensor sensor).1.Alike (t.readSensor sensor).1 :=
  ⟨h.device.read sensor, h.snapshots, h.states⟩

theorem readSensors (h : s.Alike t) (sensors : List Sensor) :
    (s.readSensors sensors).1.Alike (t.readSensors sensors).1 := by
  induction sensors generalizing s t with
  | nil => exact h
  | cons sensor rest ih => exact ih (h.readSensor sensor)

theorem readPose (h : s.Alike t) : s.readPose.1.Alike t.readPose.1 := by
  obtain ⟨files, pose⟩ := s.readPose_eq
  obtain ⟨files', pose'⟩ := t.readPose_eq
  rw [pose, pose']
  exact ⟨h.device, h.snapshots, h.states⟩

/-- A call that only reads leaves sessions alike. -/
theorem begin_reads (h : s.Alike t) {call : Call} (reads : call.onlyReads = true) :
    (s.begin call).Alike (t.begin call) := by
  have reply {s t : Session} (h : s.Alike t) (a b : Answer) : (s.reply a).Alike (t.reply b) :=
    ⟨h.device, h.snapshots, h.states⟩
  cases call with
  | read sensor => exact reply (h.readSensor sensor) _ _
  | readAll =>
    have read := h.readSensors Sensor.all
    simp only [begin]
    generalize s.readSensors Sensor.all = first at read ⊢
    generalize t.readSensors Sensor.all = second at read ⊢
    exact reply read _ _
  | pose => exact reply h.readPose _ _
  | survey sensor => exact reply (h.readSensor sensor).readPose _ _
  | saveSnapshot slot =>
    refine ⟨h.device, ?_, h.states⟩
    simp only [begin, Session.reply, h.snapshots, h.device.snapshot]
  | saveState slot =>
    refine ⟨h.device, h.snapshots, ?_⟩
    simp only [begin, Session.reply, h.states, h.device.savedState]
  | get p aspect => exact reply h _ _
  | getAll => exact reply h _ _
  | listFiles directory => exact reply h _ _
  | summary => exact reply h _ _
  | _ => cases reads

end Alike

/-! ## What is recorded -/

/-- The event that an entry says was recorded, and when. -/
def recorded? : Entry → Option (Event × Nanos)
  | .recorded event time => some (event, time)
  | _ => none

/-- The events that a sink was handed because of a call, in order. -/
def Response.recorded (response : Response) : List (Event × Nanos) :=
  response.log.filterMap recorded?

/-- What an observer notes is no event. -/
theorem recorded_hear (s : Session) (notice : Notice) :
    (s.hear notice).log.filterMap recorded? = s.log.filterMap recorded? := by
  unfold hear
  split
  · rfl
  · split
    · rfl
    · split <;> rfl

theorem recorded_foldl_hear (s : Session) (notices : List Notice) :
    (notices.foldl hear s).log.filterMap recorded? = s.log.filterMap recorded? := by
  induction notices generalizing s with
  | nil => rfl
  | cons notice rest ih => rw [List.foldl_cons, ih, recorded_hear]

theorem recorded_foldl_make (s : Session) (changes : List Change) :
    (changes.foldl make s).log.filterMap recorded? = s.log.filterMap recorded? := by
  induction changes generalizing s with
  | nil => rfl
  | cons change rest ih =>
    rw [List.foldl_cons, ih]
    exact s.recorded_foldl_hear (s.device.notices change)

theorem Alike.foldl_make (h : s.Alike t) (changes : List Change) :
    (changes.foldl make s).Alike (changes.foldl make t) := by
  obtain ⟨observers, log, made⟩ := s.foldl_make_eq changes
  obtain ⟨observers', log', made'⟩ := t.foldl_make_eq changes
  rw [made, made']
  exact ⟨h.device.makeAll changes, h.snapshots, h.states⟩

theorem sink_foldl_make (s : Session) (changes : List Change) :
    (changes.foldl make s).device.sink = s.device.sink := by
  induction changes generalizing s with
  | nil => rfl
  | cons change rest ih =>
    rw [List.foldl_cons, ih]
    exact s.device.sink_make change

/-! ## What the calls come to -/

theorem run_ask_advance (passive : s.ObserverPassive) (now : Nanos) :
    (s.ask (.advance now)).run =
      { (s.device.advance now).2.toList.foldl hear s.cleared with
        device := (s.device.advance now).1 }.reply .done := by
  have still : s.cleared.ObserverPassive := passive
  have announced := run_announce_with still (s.device.listeners_advance now).1 [.answer .done]
    (s.device.advance now).2
  obtain ⟨observers, log, heard⟩ := s.cleared.foldl_hear_eq (s.device.advance now).2.toList
  rw [run_ask, begin, run_of_tasks rfl]
  refine announced.trans ?_
  rw [run_of_tasks rfl, heard]
  exact run_of_no_tasks rfl

/-- Setting a target comes to the change, of which a sink has been handed the event before. -/
theorem run_ask_setTarget (passive : s.Passive) (p : Parameter) (value : Value)
    (approach : Approach) :
    (s.ask (.setTarget p value approach)).run =
      ({ s.cleared with
          sinks := s.handed
          log := s.taken (.ofTarget p (value.conform p.kind) approach) }.make
        (.target p (value.conform p.kind) approach)).reply .done := by
  let event := Event.ofTarget p (value.conform p.kind) approach
  let change := Change.target p (value.conform p.kind) approach
  let noted := { s.cleared with sinks := s.handed, log := s.taken event }
  have still : noted.ObserverPassive := passive.observer
  have made : (noted.carryOut [change] .done).run = (noted.make change).reply .done :=
    run_carryOut_of_no_tasks still rfl [change] .done
  rw [run_ask, ← made]
  cases attached : s.device.sink with
  | none =>
    have attached' : s.cleared.device.sink = none := attached
    simp only [begin, setTarget, attached', noted, handed, taken, attached]
    rfl
  | some id =>
    have attached' : s.cleared.device.sink = some id := attached
    let begun := s.cleared.carryOut [change] .done
    have sink : begun.SinkPassive := passive.sink
    have log : begun.taken event ++ begun.log = s.taken event := List.append_nil _
    simp only [begin, setTarget, attached']
    refine (run_record sink attached event).trans ?_
    rw [log]
    rfl

/-- Any other call that makes changes makes the same in sessions alike. -/
theorem Alike.run_ask_changes (h : s.Alike t) (passive : s.ObserverPassive)
    (passive' : t.ObserverPassive) {call : Call} (plain : call.plain = true)
    (acts : call.onlyReads = false) (waits : ∀ now, call ≠ .advance now)
    (sets : ∀ p value approach, call ≠ .setTarget p value approach) :
    ∃ (changes : List Change) (answer : Answer),
      (s.ask call).run = (changes.foldl make s.cleared).reply answer ∧
        (t.ask call).run = (changes.foldl make t.cleared).reply answer := by
  have both {changes : List Change} {answer : Answer}
      (begun : s.cleared.begin call = s.cleared.carryOut changes answer)
      (begun' : t.cleared.begin call = t.cleared.carryOut changes answer) :
      ∃ (changes : List Change) (answer : Answer),
        (s.ask call).run = (changes.foldl make s.cleared).reply answer ∧
          (t.ask call).run = (changes.foldl make t.cleared).reply answer :=
    ⟨changes, answer, run_ask_of_carryOut passive begun, run_ask_of_carryOut passive' begun'⟩
  cases call with
  | override sensor value => exact both rfl rfl
  | replay event => exact both rfl rfl
  | loadState source =>
    refine both rfl ?_
    have states : t.cleared.states = s.cleared.states := h.states
    simp only [begin, states]
  | loadSnapshot source cut =>
    obtain ⟨bytes, begun, begun'⟩ : ∃ bytes,
        s.cleared.begin (.loadSnapshot source cut) = s.cleared.loadSnapshot bytes ∧
          t.cleared.begin (.loadSnapshot source cut) = t.cleared.loadSnapshot bytes := by
      refine ⟨_, rfl, ?_⟩
      have snapshots : t.cleared.snapshots = s.cleared.snapshots := h.snapshots
      simp only [begin, snapshots]
    cases decoded : Snapshot.decode bytes with
    | error failure =>
      refine ⟨[], .failed failure, ?_, ?_⟩
      · rw [run_ask, begun, loadSnapshot, decoded]
        exact run_of_no_tasks rfl
      · rw [run_ask, begun', loadSnapshot, decoded]
        exact run_of_no_tasks rfl
    | ok found =>
      rw [loadSnapshot, decoded] at begun begun'
      exact both begun begun'
  | advance now => exact (waits now rfl).elim
  | setTarget p value approach => exact (sets p value approach rfl).elim
  | _ => first | (cases acts; done) | cases plain

/-! ## Playing back -/

theorem recorded_respond (s : Session) (call : Call) :
    (s.respond call).2.recorded = ((s.ask call).run.log.filterMap recorded?).reverse :=
  List.filterMap_reverse

/-- Every call but the setting of a target leaves sessions alike, and no sink notices it. -/
theorem Alike.respond (h : s.Alike t) (passive : s.ObserverPassive)
    (passive' : t.ObserverPassive) {call : Call} (plain : call.plain = true)
    (sets : ∀ p value approach, call ≠ .setTarget p value approach) :
    (s.respond call).1.Alike (t.respond call).1 ∧ (s.respond call).2.recorded = [] ∧
      (s.respond call).1.device.sink = s.device.sink := by
  rw [recorded_respond]
  change (s.ask call).run.Alike (t.ask call).run ∧ _ ∧ (s.ask call).run.device.sink = _
  have cleared : s.cleared.Alike t.cleared := ⟨h.device, h.snapshots, h.states⟩
  by_cases reads : call.onlyReads = true
  · rw [run_ask_reads s reads, run_ask_reads t reads]
    refine ⟨cleared.begin_reads reads, ?_⟩
    obtain ⟨board, files, snapshots, states, answer, begun⟩ := s.cleared.begin_of_onlyReads reads
    rw [begun]
    exact ⟨rfl, rfl⟩
  · by_cases waits : ∃ now, call = .advance now
    · obtain ⟨now, rfl⟩ := waits
      rw [run_ask_advance passive, run_ask_advance passive']
      obtain ⟨observers, log, heard⟩ := s.cleared.foldl_hear_eq (s.device.advance now).2.toList
      obtain ⟨observers', log', heard'⟩ := t.cleared.foldl_hear_eq (t.device.advance now).2.toList
      refine ⟨?_, ?_, (s.device.listeners_advance now).2⟩
      · rw [heard, heard']
        exact ⟨h.device.advance now, h.snapshots, h.states⟩
      · exact congrArg List.reverse (s.cleared.recorded_foldl_hear _)
    · have acts : call.onlyReads = false := by simpa using reads
      have never : ∀ now, call ≠ .advance now := by
        rintro now rfl
        exact waits ⟨now, rfl⟩
      obtain ⟨changes, answer, made, made'⟩ :=
        h.run_ask_changes passive passive' plain acts never sets
      have left := cleared.foldl_make changes
      rw [made, made']
      refine ⟨⟨left.device, left.snapshots, left.states⟩, ?_, s.cleared.sink_foldl_make changes⟩
      exact congrArg List.reverse (s.cleared.recorded_foldl_make changes)

/-- Setting a target, and playing back the event that is recorded of it. -/
theorem Alike.respond_setTarget (h : s.Alike t) (passive : s.Passive)
    (passive' : t.ObserverPassive) {id : SinkId} (attached : s.device.sink = some id)
    (p : Parameter) (value : Value) (approach : Approach) :
    let event := Event.ofTarget p (value.conform p.kind) approach
    (s.respond (.setTarget p value approach)).1.Alike (t.respond (.replay event)).1 ∧
      (s.respond (.setTarget p value approach)).2.recorded = [(event, s.device.time)] ∧
      (s.respond (.setTarget p value approach)).1.device.sink = s.device.sink := by
  intro event
  let change := Change.target p (value.conform p.kind) approach
  have made := run_ask_setTarget passive p value approach
  have begun : t.cleared.begin (.replay event) = t.cleared.carryOut [change] .done := by
    rw [begin, Event.plan_ofTarget (value.kind_conform p.kind)]
  have made' := run_ask_of_carryOut passive' begun
  rw [recorded_respond]
  change (s.ask _).run.Alike (t.ask _).run ∧ _ ∧ (s.ask _).run.device.sink = _
  rw [made, made']
  let noted := { s.cleared with sinks := s.handed, log := s.taken event }
  have alike : noted.Alike t.cleared := ⟨h.device, h.snapshots, h.states⟩
  have left := alike.foldl_make [change]
  refine ⟨⟨left.device, left.snapshots, left.states⟩, ?_, noted.sink_foldl_make [change]⟩
  have recorded : noted.log = [.recorded event s.device.time] := by
    simp only [noted, taken, attached, Option.isSome_some, if_true]
  refine (congrArg List.reverse (noted.recorded_foldl_make [change])).trans ?_
  rw [recorded]
  rfl

end Session

/-- What a sink is handed because of a call. -/
def Call.recording (time : Nanos) : Call → List (Event × Nanos)
  | .setTarget p value approach => [(.ofTarget p (value.conform p.kind) approach, time)]
  | _ => []

/-- The call that plays a call back: that of the event that was recorded of it if it set a
    target, and the call itself otherwise. -/
def Call.playedBack (call : Call) (response : Session.Response) : Call :=
  match call, response.recorded with
  | .setTarget _ _ _, [(event, _)] => .replay event
  | _, _ => call

namespace Session

/-- Calls as they are played back to another session after they have been made here. -/
def playback (s : Session) (calls : List Call) : List Call :=
  List.zipWith Call.playedBack calls (s.respondAll calls).2

variable {s t : Session}

theorem Alike.respond_playedBack (h : s.Alike t) (passive : s.Passive)
    (passive' : t.ObserverPassive) {id : SinkId} (attached : s.device.sink = some id)
    {call : Call} (plain : call.plain = true) :
    (s.respond call).1.Alike (t.respond (call.playedBack (s.respond call).2)).1 ∧
      (s.respond call).2.recorded = call.recording s.device.time ∧
      (s.respond call).1.device.sink = some id := by
  rw [← attached]
  by_cases sets : ∃ p value approach, call = .setTarget p value approach
  · obtain ⟨p, value, approach, rfl⟩ := sets
    obtain ⟨alike, recorded, sink⟩ := h.respond_setTarget passive passive' attached p value approach
    refine ⟨?_, recorded, sink⟩
    simp only [Call.playedBack, recorded]
    exact alike
  · have never : ∀ p value approach, call ≠ .setTarget p value approach := by
      rintro p value approach rfl
      exact sets ⟨p, value, approach, rfl⟩
    have played : call.playedBack (s.respond call).2 = call := by
      unfold Call.playedBack
      split
      · exact (never _ _ _ rfl).elim
      · rfl
    have none : call.recording s.device.time = [] := by
      cases call with
      | setTarget p value approach => exact (never p value approach rfl).elim
      | _ => rfl
    rw [played, none]
    exact h.respond passive.observer passive' plain never

theorem plain_playedBack {call : Call} (plain : call.plain = true) (response : Response) :
    (call.playedBack response).plain = true := by
  unfold Call.playedBack
  split
  · rfl
  · exact plain

/-- A session with a sink, and one alike to which what the sink was handed is played back, stay
    alike after every call. The sink is handed one event for every target that is set, stamped
    with the moment, and none because of any other call. -/
theorem alike_playback (h : s.Alike t) (passive : s.Passive) (passive' : t.Passive) {id : SinkId}
    (attached : s.device.sink = some id) (calls : List Call)
    (plain : ∀ call ∈ calls, call.plain = true) :
    (∀ n, (s.respondAll (calls.take n)).1.Alike (t.respondAll ((s.playback calls).take n)).1) ∧
      ∀ (n : Nat) (call : Call), calls[n]? = some call →
        ∃ response : Response, (s.respondAll calls).2[n]? = some response ∧
          response.recorded = call.recording (s.respondAll (calls.take n)).1.device.time := by
  induction calls generalizing s t with
  | nil =>
    constructor
    · intro n
      cases n <;> exact h
    · intro n call found
      cases found
  | cons call rest ih =>
    have first := plain call List.mem_cons_self
    have others : ∀ call ∈ rest, call.plain = true :=
      fun call mem => plain call (List.mem_cons_of_mem _ mem)
    obtain ⟨alike, recorded, sink⟩ :=
      h.respond_playedBack passive passive'.observer attached first
    obtain ⟨states, responses⟩ := ih alike (passive.respond first)
      (passive'.respond (plain_playedBack first _)) sink others
    constructor
    · intro n
      cases n with
      | zero => exact h
      | succ n => exact states n
    · intro n asked found
      cases n with
      | zero =>
        cases found
        exact ⟨_, rfl, recorded⟩
      | succ n => exact responses n asked found

/-- A new device with a sink that makes no calls. -/
def taped : Session :=
  { unused with sinks := [[[]]], device := { unused.device with sink := some 0 } }

theorem passive_unused : unused.Passive where
  observer := nofun
  sink := nofun

theorem passive_taped : taped.Passive where
  observer := nofun
  sink id scripts attached found := by
    cases attached
    cases found
    intro script mem
    cases List.mem_singleton.mp mem
    nofun

/-- Light is dimmed slowly, a value of the wrong kind is set, and all of it is undone. -/
def someCalls : List Call :=
  [.saveState "before", .setTarget (.condition .light) (.scalar 1) .smooth, .advance 5,
    .setTarget .position (.scalar 2) .step, .read .gyroscope, .loadState (.slot "before")]

theorem alike_playback_taped :
    taped.Alike unused ∧ taped.Passive ∧ unused.Passive ∧ taped.device.sink = some 0 ∧
      (∀ call ∈ someCalls, call.plain = true) ∧
      (taped.respondAll (someCalls.take 6)).1.Alike
        (unused.respondAll ((taped.playback someCalls).take 6)).1 ∧
      ∃ response : Response, (taped.respondAll someCalls).2[3]? = some response ∧
        response.recorded =
          [(.ofTarget .position (.vector .zero) .step,
            (taped.respondAll (someCalls.take 3)).1.device.time)] := by
  have alike : taped.Alike unused := ⟨⟨⟨rfl, rfl, rfl⟩, rfl, rfl⟩, rfl, rfl⟩
  have plain : ∀ call ∈ someCalls, call.plain = true := by
    simp [someCalls, Call.plain, Call.onlyReads]
  obtain ⟨states, responses⟩ :=
    alike_playback alike passive_taped passive_unused rfl someCalls plain
  exact ⟨alike, passive_taped, passive_unused, rfl, plain, states 6, responses 3 _ rfl⟩

end Session

end Sensorium
