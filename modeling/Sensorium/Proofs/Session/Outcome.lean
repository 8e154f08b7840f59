import Sensorium.Proofs.Session.Playback

/-!
# What a call comes to

As long as nobody who listens makes calls, it can be said at once what a call does, without
going through its tasks. `respond_reads` says it of the calls that only read: they answer, may
count measurements and may save something. All other calls come to `Session.effect`, which
takes one device to another, and `respond_acts` says that they do nothing else but to let
listeners know.
-/

namespace Sensorium

theorem Device.SameState.refl (d : Device) : d.SameState d := ⟨⟨rfl, rfl, rfl⟩, rfl, rfl⟩

/-- The device when it has been moved on from a moment in equal steps, at most so many, until it
    was not changing. -/
def Device.settle (step : Nanos) : Nat → Nanos → Device → Device
  | 0, _, d => d
  | left + 1, now, d =>
    if d.changing then settle step left (now + step) (d.advance (now + step)).1 else d

/-- The snapshot of a device that a call saves, with its name. -/
def Call.snapshots (d : Device) : Call → List (String × List UInt8)
  | .saveSnapshot slot => [(slot, d.snapshot.encode)]
  | _ => []

/-- The state of a device that a call saves, with its name. -/
def Call.states (d : Device) : Call → List (String × SavedState)
  | .saveState slot => [(slot, d.savedState)]
  | _ => []

namespace Session

/-- The device after a call that does not only read. Who listens, and what is recorded, is left
    out. -/
def effect (s : Session) : Call → Device
  | .advance now => (s.device.advance now).1
  | .settle step limit =>
    (s.device.advance s.device.time).1.settle step limit s.device.time
  | call => s.device.makeAll (s.plan call)

variable {s : Session}

/-! ## Calls that only read -/

/-- A call that only reads counts measurements of the sensors that it reads, saves what it is to
    save, and does nothing else. -/
theorem respond_reads (s : Session) {call : Call} (reads : call.onlyReads = true) :
    ∃ board, s.device.BoardAfter call.sensors board ∧
      { s with
        device := { s.device with board }
        snapshots := call.snapshots s.device ++ s.snapshots
        states := call.states s.device ++ s.states }.Alike (s.respond call).1 := by
  have same {d : Device} {snapshots : List (String × List UInt8)}
      {states : List (String × SavedState)} {files : FileTree} {answers : List Answer} :
      { s with device := d, snapshots, states }.Alike
        { s.cleared with device := d, snapshots, states, files, answers } :=
    ⟨.refl d, rfl, rfl⟩
  change ∃ board, _ ∧ Alike _ (s.ask call).run
  rw [run_ask_reads s reads]
  cases call with
  | read sensor =>
    obtain ⟨board, after, read⟩ := s.cleared.readSensor_eq sensor
    simp only [begin, read]
    exact ⟨board, after, same⟩
  | readAll =>
    obtain ⟨board, after, read⟩ := s.cleared.readSensors_eq Sensor.all Sensor.nodup_all
    simp only [begin, read]
    exact ⟨board, after, same⟩
  | pose =>
    obtain ⟨files, pose⟩ := s.cleared.readPose_eq
    simp only [begin, pose]
    exact ⟨_, s.device.boardAfter_nil, same⟩
  | survey sensor =>
    obtain ⟨board, after, read⟩ := s.cleared.readSensor_eq sensor
    obtain ⟨files, pose⟩ :=
      { s.cleared with device := { s.cleared.device with board } }.readPose_eq
    simp only [begin, read, pose]
    exact ⟨board, after, same⟩
  | get | getAll | saveSnapshot | saveState | listFiles | summary =>
    exact ⟨_, s.device.boardAfter_nil, same⟩
  | _ => cases reads

/-! ## Letting time pass -/

/-- Moving the device on comes to what the observer notes of it, and it stays passive. -/
theorem run_first_advance (passive : s.ObserverPassive) (now : Nanos) :
    ∃ observers log,
      let moved := { s with observers, log, device := (s.device.advance now).1 }
      moved.ObserverPassive ∧
        ∀ more, (s.first (.advance now :: more)).run = (moved.first more).run := by
  let notices := (s.device.advance now).2.toList
  obtain ⟨observers, log, heard⟩ := s.foldl_hear_eq notices
  have same := (s.device.listeners_advance now).1
  refine ⟨observers, log, ?_, ?_⟩
  · have told := passive.foldl_hear notices
    rw [heard] at told
    exact told.device same s.tasks
  · intro more
    have announced := run_announce_with passive same (more ++ s.tasks) (s.device.advance now).2
    rw [heard] at announced
    rw [run_of_tasks rfl]
    exact announced

/-- With nothing else to do, settling moves the device on until it is not changing. -/
theorem run_first_settle (passive : s.ObserverPassive) (idle : s.tasks = []) (step : Nanos)
    {limit rounds left : Nat} (rest : limit - rounds = left) (now : Nanos) :
    ∃ observers log answers, (s.first [.settle now step rounds limit]).run =
      { s with observers, log, answers, device := s.device.settle step left now } := by
  have stop (s : Session) (idle : s.tasks = []) (now : Nanos) (rounds : Nat)
      (still : ¬ (s.device.changing = true ∧ rounds < limit)) :
      (s.first [.settle now step rounds limit]).run = s.reply (.count rounds) := by
    have replied : s.perform (.settle now step rounds limit) = s.reply (.count rounds) :=
      if_neg still
    calc (s.first [.settle now step rounds limit]).run
      _ = (s.perform (.settle now step rounds limit)).run := run_of_tasks rfl
      _ = (s.reply (.count rounds)).run := by rw [replied]
      _ = s.reply (.count rounds) := run_of_no_tasks idle
  induction left generalizing s rounds now with
  | zero =>
    have still : ¬ (s.device.changing = true ∧ rounds < limit) := by
      rintro ⟨-, more⟩
      omega
    exact ⟨s.observers, s.log, _, stop s idle now rounds still⟩
  | succ left ih =>
    by_cases changing : s.device.changing = true
    · have moves : s.device.changing = true ∧ rounds < limit := ⟨changing, by omega⟩
      have goes : s.perform (.settle now step rounds limit) =
          s.first [.advance (now + step), .settle (now + step) step (rounds + 1) limit] :=
        if_pos moves
      obtain ⟨observers, log, still, advanced⟩ := run_first_advance passive (now + step)
      let moved := { s with observers, log, device := (s.device.advance (now + step)).1 }
      obtain ⟨observers', log', answers, settled⟩ :=
        ih (s := moved) still idle (show limit - (rounds + 1) = left by omega) (now + step)
      refine ⟨observers', log', answers, ?_⟩
      rw [Device.settle, if_pos changing]
      calc (s.first [.settle now step rounds limit]).run
        _ = (s.perform (.settle now step rounds limit)).run := run_of_tasks rfl
        _ = (moved.first [.settle (now + step) step (rounds + 1) limit]).run := by
          rw [goes, advanced]
        _ = _ := settled
    · have still : ¬ (s.device.changing = true ∧ rounds < limit) := by
        rintro ⟨more, -⟩
        exact changing more
      refine ⟨s.observers, s.log, .count rounds :: s.answers, ?_⟩
      rw [Device.settle, if_neg changing]
      exact stop s idle now rounds still

/-! ## Attaching an observer -/

/-- What a passive observer is told comes to what it notes. -/
theorem run_first_tells (passive : s.ObserverPassive) {id : ObserverId}
    (attached : s.device.observer = some id) (notices : List Notice) (more : List Task) :
    (s.first (notices.map (.tell id) ++ more)).run =
      ((notices.foldl hear s).first more).run := by
  induction notices generalizing s with
  | nil => rfl
  | cons notice rest ih =>
    let tasks := rest.map (.tell id) ++ more ++ s.tasks
    obtain ⟨observers, log, heard⟩ := s.hear_eq notice
    have same : (s.hear notice).device.observer = some id := by
      rw [heard]
      exact attached
    have first : (s.hear notice).first (rest.map (.tell id) ++ more) =
        { s.hear notice with device := s.device, tasks } := by
      rw [heard]
      rfl
    calc (s.first ((notice :: rest).map (.tell id) ++ more)).run
      _ = ({ s with tasks }.tell id notice).run := run_of_tasks rfl
      _ = ({ s with tasks }.hear notice).run := run_tell (passive.device rfl tasks) attached notice
      _ = ((s.hear notice).first (rest.map (.tell id) ++ more)).run := by
        rw [first, ← hear_with s rfl]
      _ = ((rest.foldl hear (s.hear notice)).first more).run := ih (passive.hear notice) same

/-- Attaching an observer that makes no calls leads to nothing but what it notes. -/
theorem run_ask_attach (s : Session) {observer : Observer Script} (passive : observer.Passive) :
    ∃ observers log answers, (s.ask (.attach observer)).run =
      { s.cleared with
        observers, log, answers
        device := { s.device with observer := some s.observers.length } } := by
  let id := s.observers.length
  let notices : List Notice :=
    [.changing] ++ (if s.device.changing then [] else [.stabilized]) ++ [.targetChanged]
  let joined : Session :=
    { s.cleared with
      observers := s.observers ++ [observer], device := { s.device with observer := some id } }
  have listens : joined.ObserverPassive := by
    intro id' observer' attached found
    cases attached
    change (s.observers ++ [observer])[s.observers.length]? = some observer' at found
    rw [List.getElem?_concat_length] at found
    cases found
    exact passive
  have begun : s.cleared.begin (.attach observer) =
      joined.first (notices.map (.tell id) ++ [.answer .done]) := by
    have stabilized : (if s.device.changing then [] else [Task.tell id .stabilized]) =
        (if s.device.changing then [] else [.stabilized]).map (.tell id) := by
      split <;> rfl
    change joined.first ([.tell id .changing] ++
      (if s.device.changing then [] else [.tell id .stabilized]) ++
        [.tell id .targetChanged, .answer .done]) = _
    simp only [stabilized, notices, List.map_append, List.append_assoc]
    rfl
  obtain ⟨observers, log, heard⟩ := joined.foldl_hear_eq notices
  refine ⟨observers, log, [.done], ?_⟩
  calc (s.ask (.attach observer)).run
    _ = (joined.first (notices.map (.tell id) ++ [.answer .done])).run := by rw [run_ask, begun]
    _ = ((notices.foldl hear joined).first [.answer .done]).run :=
      run_first_tells listens rfl notices _
    _ = ((notices.foldl hear joined).reply .done).run := run_of_tasks rfl
    _ = _ := by
      rw [heard]
      exact run_of_no_tasks rfl

/-! ## All other calls -/

/-- What listeners are left with, and what is answered, noted and filed, does not matter. -/
theorem alike_cleared (s : Session) {d e : Device} (same : d.SameState e)
    {observers : List (Observer Script)} {sinks : List (List Script)} {files : FileTree}
    {answers : List Answer} {log : List Entry} :
    { s with device := d }.Alike
      { s.cleared with device := e, observers, sinks, files, answers, log } :=
  ⟨same, rfl, rfl⟩

theorem alike_of_carryOut (passive : s.ObserverPassive) {call : Call} {changes : List Change}
    {answer : Answer} (begun : s.cleared.begin call = s.cleared.carryOut changes answer) :
    { s with device := s.device.makeAll changes }.Alike (s.ask call).run := by
  obtain ⟨observers, log, made⟩ := s.cleared.foldl_make_eq changes
  rw [run_ask_of_carryOut passive begun, made]
  exact s.alike_cleared (.refl _)

theorem alike_settle (passive : s.ObserverPassive) (step : Nanos) (limit : Nat) :
    { s with device := s.effect (.settle step limit) }.Alike (s.ask (.settle step limit)).run := by
  have passive : s.cleared.ObserverPassive := passive
  obtain ⟨observers, log, still, advanced⟩ := run_first_advance passive s.device.time
  obtain ⟨observers', log', answers, settled⟩ :=
    run_first_settle still rfl step (Nat.sub_zero limit) s.device.time
  have run : (s.ask (.settle step limit)).run = _ :=
    (run_ask ..).trans ((advanced [.settle s.device.time step 0 limit]).trans settled)
  rw [run]
  exact s.alike_cleared (.refl _)

theorem alike_setTarget (passive : s.Passive) (p : Parameter) (value : Value)
    (approach : Approach) :
    { s with device := s.effect (.setTarget p value approach) }.Alike
      (s.ask (.setTarget p value approach)).run := by
  let event := Event.ofTarget p (value.conform p.kind) approach
  let change := Change.target p (value.conform p.kind) approach
  let noted := { s.cleared with sinks := s.handed, log := s.taken event }
  obtain ⟨observers, log, changed⟩ := noted.make_eq change
  have run : (s.ask (.setTarget p value approach)).run = _ :=
    (run_ask_setTarget passive p value approach).trans (congrArg (reply · .done) changed)
  rw [run]
  exact s.alike_cleared (.refl _)

theorem alike_loadSnapshot (passive : s.ObserverPassive) (source : SnapshotSource)
    (cut : Option Nat) :
    { s with device := s.effect (.loadSnapshot source cut) }.Alike
      (s.ask (.loadSnapshot source cut)).run := by
  have begun : s.cleared.begin (.loadSnapshot source cut) =
      s.cleared.loadSnapshot (s.bytesOf source cut) := rfl
  simp only [effect, plan]
  cases decoded : Snapshot.decode (s.bytesOf source cut) with
  | error failure =>
    have failed : (s.ask (.loadSnapshot source cut)).run =
        s.cleared.reply (.failed failure) := by
      rw [run_ask, begun, loadSnapshot, decoded]
      exact run_of_no_tasks rfl
    rw [failed]
    exact s.alike_cleared (.refl _)
  | ok found =>
    rw [loadSnapshot, decoded] at begun
    exact alike_of_carryOut passive begun

/-- A call that does not only read comes to its effect, as long as nobody who listens makes
    calls. -/
theorem respond_acts (passive : s.Passive) {call : Call} (acts : call.onlyReads = false)
    (scripts : PassiveScripts call.scripts) :
    { s with device := s.effect call }.Alike (s.respond call).1 := by
  change Alike _ (s.ask call).run
  cases call with
  | advance now =>
    obtain ⟨observers, log, heard⟩ := s.cleared.foldl_hear_eq (s.device.advance now).2.toList
    rw [run_ask_advance passive.observer, heard]
    exact s.alike_cleared (.refl _)
  | settle step limit => exact alike_settle passive.observer step limit
  | setTarget p value approach => exact alike_setTarget passive p value approach
  | loadSnapshot source cut => exact alike_loadSnapshot passive.observer source cut
  | override sensor value => exact alike_of_carryOut passive.observer rfl
  | replay event => exact alike_of_carryOut passive.observer rfl
  | loadState source => exact alike_of_carryOut passive.observer rfl
  | attach observer =>
    obtain ⟨observers, log, answers, told⟩ := s.run_ask_attach (Observer.all_of_left scripts)
    rw [told]
    exact ⟨⟨⟨rfl, rfl, rfl⟩, rfl, rfl⟩, rfl, rfl⟩
  | detach | attachSink | detachSink | stopTrace =>
    rw [run_ask, run_of_no_tasks rfl]
    exact ⟨⟨⟨rfl, rfl, rfl⟩, rfl, rfl⟩, rfl, rfl⟩
  | startTrace path =>
    obtain ⟨trace, files, answer, started⟩ : ∃ trace files answer, s.cleared.startTrace path =
        { s.cleared with device := { s.device with trace }, files }.reply answer := by
      unfold startTrace
      split <;> exact ⟨_, _, _, rfl⟩
    rw [run_ask, begin, started, run_of_no_tasks rfl]
    exact ⟨⟨⟨rfl, rfl, rfl⟩, rfl, rfl⟩, rfl, rfl⟩
  | _ => cases acts

end Session

end Sensorium
