import Sensorium.Proofs.Session.History

/-!
# Calls that nobody interferes with

An observer that makes no calls of its own only notes what it is told. While such an observer
is attached, a call that changes a device from outside comes down to its changes, made one
after the other: `Device.make` says what one of them does to the device, `Session.make` adds
what the observer notes, and `run_carryOut` says that working off the tasks of a call does
just that.
-/

namespace Sensorium

/-- The observer makes no calls, whatever it is told. -/
def Observer.Passive (observer : Observer Script) : Prop := observer.All fun _ => False

/-- None of the scripts makes a call. -/
def PassiveScripts (scripts : List Script) : Prop := AllCalls (fun _ => False) scripts

theorem eq_nil_of_passive {script : Script} {scripts : List Script}
    (h : PassiveScripts (script :: scripts)) : script = [] := by
  cases script with
  | nil => rfl
  | cons call rest => exact (h _ List.mem_cons_self call List.mem_cons_self).elim

namespace Device

/-- The device when it has been marked as changing. -/
def marked (d : Device) : Device := { d with changing := true }

/-- The notices that are due when a device is marked as changing. -/
def edge (d : Device) : List Notice := if d.changing then [] else [.changing]

/-- The device after one change from outside. -/
def make (d : Device) : Change → Device
  | .target p value approach => (d.marked.retarget p value approach).clearOverrides
  | .override sensor value => d.marked.override sensor value

/-- The notices that are due while a change is made. -/
def notices (d : Device) : Change → List Notice
  | .target _ _ _ => d.edge ++ [.targetChanged]
  | .override _ _ => d.edge

theorem markChanging_eq_marked (d : Device) :
    d.markChanging.1 = d.marked ∧ d.markChanging.2.toList = d.edge := by
  rw [markChanging_eq, edge]
  cases d.changing <;> exact ⟨rfl, rfl⟩

/-- The device after changes from outside, made one after the other. -/
def makeAll (d : Device) (changes : List Change) : Device := changes.foldl make d

theorem makeAll_append (d : Device) (first second : List Change) :
    d.makeAll (first ++ second) = (d.makeAll first).makeAll second :=
  List.foldl_append

theorem observer_make (d : Device) (change : Change) : (d.make change).observer = d.observer := by
  cases change with
  | target p value approach => exact (d.marked.listeners_retarget p value approach).1
  | override sensor value => rfl

theorem changing_make (d : Device) (change : Change) : (d.make change).changing = true := by
  cases change with
  | target p value approach =>
    rw [make, retarget_eq]
    rfl
  | override sensor value => rfl

theorem sink_make (d : Device) (change : Change) : (d.make change).sink = d.sink := by
  cases change with
  | target p value approach => exact (d.marked.listeners_retarget p value approach).2
  | override sensor value => rfl

theorem time_make (d : Device) (change : Change) : (d.make change).time = d.time := by
  cases change with
  | target p value approach =>
    rw [make, retarget_eq]
    rfl
  | override sensor value => rfl

end Device

namespace Session

/-- The observer that is attached makes no calls. -/
def ObserverPassive (s : Session) : Prop :=
  ∀ id observer, s.device.observer = some id → s.observers[id]? = some observer → observer.Passive

/-- The sink that is attached makes no calls. -/
def SinkPassive (s : Session) : Prop :=
  ∀ id scripts, s.device.sink = some id → s.sinks[id]? = some scripts → PassiveScripts scripts

/-- The session when an observer that makes no calls has been told something. -/
def hear (s : Session) (notice : Notice) : Session :=
  match s.device.observer with
  | none => s
  | some id =>
    match s.observers[id]? with
    | none => s
    | some observer =>
      match observer.scripts notice with
      | none => s
      | some [] => s.note (.began notice)
      | some (_ :: _) =>
        { s with
          observers := s.observers.set id (observer.next notice)
          log := .ended notice [] :: .began notice :: s.log }

/-- The scripts that the sinks have left when the one that is attached, which makes no calls, has
    been handed something. -/
def handed (s : Session) : List (List Script) :=
  match s.device.sink with
  | none => s.sinks
  | some id =>
    match s.sinks[id]? with
    | some (_ :: rest) => s.sinks.set id rest
    | _ => s.sinks

/-- What is noted when the sink that is attached is handed an event; nothing without a sink. -/
def taken (s : Session) (event : Event) : List Entry :=
  if s.device.sink.isSome then [.recorded event s.device.time] else []

/-- The session when a change was made to its device and the notices of it have been told. -/
def make (s : Session) (change : Change) : Session :=
  { (s.device.notices change).foldl hear s with device := s.device.make change }

variable {s : Session}

/-! ## Being told something -/

/-- Being told something changes nothing but the observer and what it noted. -/
theorem hear_eq (s : Session) (notice : Notice) :
    ∃ observers log, s.hear notice = { s with observers, log } := by
  unfold hear
  split
  · exact ⟨_, _, rfl⟩
  · split
    · exact ⟨_, _, rfl⟩
    · split <;> exact ⟨_, _, rfl⟩

/-- What an observer notes depends on nothing but itself. -/
theorem hear_with (s : Session) {device : Device} (same : device.observer = s.device.observer)
    (tasks : List Task) (notice : Notice) :
    { s with device, tasks }.hear notice = { s.hear notice with device, tasks } := by
  unfold hear
  simp only [same]
  split
  · rfl
  · split
    · rfl
    · split <;> rfl

theorem ObserverPassive.hear (h : s.ObserverPassive) (notice : Notice) :
    (s.hear notice).ObserverPassive := by
  unfold Session.hear
  split
  · exact h
  · rename_i id attached
    split
    · exact h
    · rename_i observer found
      split
      · exact h
      · exact h
      · intro id' observer' attached' found'
        change s.device.observer = some id' at attached'
        rw [attached] at attached'
        cases attached'
        obtain ⟨bound, -⟩ := List.getElem?_eq_some_iff.mp found
        change (s.observers.set id (observer.next notice))[id]? = some observer' at found'
        rw [List.getElem?_set_self bound] at found'
        cases found'
        exact (h id observer attached found).next notice

/-- Telling a passive observer something comes to nothing but what it notes. -/
theorem run_tell (passive : s.ObserverPassive) {id : ObserverId}
    (attached : s.device.observer = some id) (notice : Notice) :
    (s.tell id notice).run = (s.hear notice).run := by
  unfold tell hear
  simp only [attached]
  cases found : s.observers[id]? with
  | none => rfl
  | some observer =>
    cases left : observer.scripts notice with
    | none => simp only [left]
    | some scripts =>
      cases scripts with
      | nil => simp only [left]
      | cons script rest =>
        obtain rfl := eq_nil_of_passive (passive id observer attached found notice _ left)
        simp only [left]
        rw [run_of_tasks rfl]
        rfl

theorem run_announce (passive : s.ObserverPassive) (due : Option Notice) :
    (s.announce due).run = (due.toList.foldl hear s).run := by
  cases due with
  | none => rfl
  | some notice =>
    change _ = (s.hear notice).run
    cases attached : s.device.observer with
    | none => simp only [announce, hear, attached]
    | some id =>
      have told : s.announce (some notice) = s.first [.tell id notice] := by
        simp only [announce, attached]
      rw [told, run_of_tasks rfl]
      exact run_tell passive attached notice

/-- Handing a passive sink an event comes to nothing but what is noted. -/
theorem run_record (passive : s.SinkPassive) {id : SinkId} (attached : s.device.sink = some id)
    (event : Event) :
    (s.record id event).run =
      { s with sinks := s.handed, log := s.taken event ++ s.log }.run := by
  simp only [record, handed, taken, attached]
  cases found : s.sinks[id]? with
  | none => rfl
  | some scripts =>
    cases scripts with
    | nil => rfl
    | cons script rest =>
      obtain rfl := eq_nil_of_passive (passive id _ attached found)
      exact run_of_tasks rfl

/-! ## Making changes -/

theorem foldl_hear_with (s : Session) {device : Device}
    (same : device.observer = s.device.observer) (tasks : List Task) (notices : List Notice) :
    notices.foldl hear { s with device, tasks } = { notices.foldl hear s with device, tasks } := by
  induction notices generalizing s with
  | nil => rfl
  | cons notice rest ih =>
    obtain ⟨observers, log, heard⟩ := s.hear_eq notice
    have kept : device.observer = (s.hear notice).device.observer := by
      rw [heard]
      exact same
    rw [List.foldl_cons, List.foldl_cons, hear_with s same]
    exact ih (s.hear notice) kept

theorem ObserverPassive.foldl_hear (h : s.ObserverPassive) (notices : List Notice) :
    (notices.foldl Session.hear s).ObserverPassive := by
  induction notices generalizing s with
  | nil => exact h
  | cons notice rest ih => exact ih (h.hear notice)

theorem foldl_hear_eq (s : Session) (notices : List Notice) :
    ∃ observers log, notices.foldl hear s = { s with observers, log } := by
  induction notices generalizing s with
  | nil => exact ⟨_, _, rfl⟩
  | cons notice rest ih =>
    obtain ⟨observers, log, heard⟩ := s.hear_eq notice
    obtain ⟨observers', log', later⟩ := ih (s.hear notice)
    refine ⟨observers', log', ?_⟩
    rw [List.foldl_cons, later, heard]

/-- Whether the observer is passive does not depend on what else is on the device, or to do. -/
theorem ObserverPassive.device (h : s.ObserverPassive) {device : Device}
    (same : device.observer = s.device.observer) (tasks : List Task) :
    { s with device, tasks }.ObserverPassive := by
  intro id observer attached found
  exact h id observer (same ▸ attached) found

theorem device_foldl_hear (s : Session) (notices : List Notice) :
    (notices.foldl hear s).device = s.device := by
  obtain ⟨observers, log, heard⟩ := s.foldl_hear_eq notices
  rw [heard]

theorem make_eq (s : Session) (change : Change) :
    ∃ observers log,
      s.make change = { s with observers, log, device := s.device.make change } := by
  obtain ⟨observers, log, heard⟩ := s.foldl_hear_eq (s.device.notices change)
  refine ⟨observers, log, ?_⟩
  rw [make, heard]

theorem ObserverPassive.make (h : s.ObserverPassive) (change : Change) :
    (s.make change).ObserverPassive := by
  have heard := h.foldl_hear (s.device.notices change)
  intro id observer attached found
  apply heard id observer _ found
  rw [device_foldl_hear, ← attached]
  exact (s.device.observer_make change).symm

/-- A notice that is due when the device has changed comes to what the observer notes. -/
theorem run_announce_with (passive : s.ObserverPassive) {device : Device}
    (same : device.observer = s.device.observer) (tasks : List Task) (due : Option Notice) :
    ({ s with device, tasks }.announce due).run =
      { due.toList.foldl hear s with device, tasks }.run := by
  rw [run_announce (passive.device same tasks), foldl_hear_with s same]

theorem run_first_mark (passive : s.ObserverPassive) (rest : List Task) :
    (s.first (.mark :: rest)).run =
      { s.device.edge.foldl hear s with
        device := s.device.marked, tasks := rest ++ s.tasks }.run := by
  obtain ⟨marked, due⟩ := s.device.markChanging_eq_marked
  have same : s.device.marked.observer = s.device.observer := rfl
  have announced := run_announce_with passive same (rest ++ s.tasks) s.device.markChanging.2
  rw [due] at announced
  rw [run_of_tasks rfl, ← announced, ← marked]
  rfl

theorem first_make (s : Session) (change : Change) (more : List Task) :
    (s.make change).first more =
      { (s.device.notices change).foldl hear s with
        device := s.device.make change, tasks := more ++ s.tasks } := by
  obtain ⟨observers, log, made⟩ := s.make_eq change
  have tasks : (s.make change).tasks = s.tasks := by rw [made]
  rw [first, tasks]
  rfl

/-- The tasks that make a change come to the change. -/
theorem run_first_change (passive : s.ObserverPassive) (change : Change) (more : List Task) :
    (s.first (change.tasks ++ more)).run = ((s.make change).first more).run := by
  rw [first_make]
  cases change with
  | override sensor value =>
    change (s.first (.mark :: (.override sensor value :: more))).run = _
    rw [run_first_mark passive, run_of_tasks rfl]
    rfl
  | target p value approach =>
    change (s.first (.mark :: (.retarget p value approach :: .clearOverrides :: more))).run = _
    have same : (s.device.make (.target p value approach)).observer =
        (s.device.edge.foldl hear s).device.observer := by
      rw [device_foldl_hear, Device.observer_make]
    have announced := run_announce_with (passive.foldl_hear s.device.edge) same
      (more ++ s.tasks) (some .targetChanged)
    rw [run_first_mark passive, run_of_tasks rfl, run_of_tasks rfl, Device.notices,
      List.foldl_append]
    exact announced

/-- A call that makes changes comes to the changes, one after the other, and its answer. -/
theorem run_carryOut (passive : s.ObserverPassive) (changes : List Change) (answer : Answer) :
    (s.carryOut changes answer).run = ((changes.foldl make s).reply answer).run := by
  induction changes generalizing s with
  | nil =>
    change (s.first [.answer answer]).run = _
    rw [run_of_tasks rfl]
    rfl
  | cons change rest ih =>
    rw [carryOut, List.flatMap_cons, List.append_assoc, run_first_change passive]
    exact ih (passive.make change)

theorem device_foldl_make (s : Session) (changes : List Change) :
    (changes.foldl make s).device = s.device.makeAll changes := by
  induction changes generalizing s with
  | nil => rfl
  | cons change rest ih =>
    rw [List.foldl_cons, ih]
    rfl

theorem foldl_make_eq (s : Session) (changes : List Change) :
    ∃ observers log, changes.foldl make s =
      { s with observers, log, device := s.device.makeAll changes } := by
  induction changes generalizing s with
  | nil => exact ⟨_, _, rfl⟩
  | cons change rest ih =>
    obtain ⟨observers, log, made⟩ := s.make_eq change
    obtain ⟨observers', log', later⟩ := ih (s.make change)
    refine ⟨observers', log', ?_⟩
    rw [List.foldl_cons, later, made]
    rfl

/-- With nothing else to do, that is all there is to it. -/
theorem run_carryOut_of_no_tasks (passive : s.ObserverPassive) (idle : s.tasks = [])
    (changes : List Change) (answer : Answer) :
    (s.carryOut changes answer).run = (changes.foldl make s).reply answer := by
  obtain ⟨observers, log, made⟩ := s.foldl_make_eq changes
  rw [run_carryOut passive, run_of_no_tasks]
  rw [made]
  exact idle

/-! ## Calls -/

/-- The session when it has nothing to do and nothing has been answered or noted yet. -/
def cleared (s : Session) : Session := { s with answers := [], log := [], tasks := [] }

theorem run_ask (s : Session) (call : Call) : (s.ask call).run = (s.cleared.begin call).run :=
  run_of_tasks rfl

/-- A call that only reads is answered when it is begun, and changes nothing but the board, the
    files and what is saved. -/
theorem begin_of_onlyReads (s : Session) {call : Call} (reads : call.onlyReads = true) :
    ∃ board files snapshots states answer, s.begin call =
      { s with device := { s.device with board }, files, snapshots, states }.reply answer := by
  have begun := s.begins_begin call
  generalize s.begin call = next at begun ⊢
  cases begun with
  | reads => exact ⟨_, _, _, _, _, rfl⟩
  | configures acts | changes acts | records acts =>
    rw [reads] at acts
    cases acts
  | advances | settles | attaches | attachesSink => cases reads

theorem run_ask_reads (s : Session) {call : Call} (reads : call.onlyReads = true) :
    (s.ask call).run = s.cleared.begin call := by
  obtain ⟨board, files, snapshots, states, answer, begun⟩ := s.cleared.begin_of_onlyReads reads
  rw [run_ask, begun]
  exact run_of_no_tasks rfl

/-- A call that makes changes makes them one after the other, and answers. -/
theorem run_ask_of_carryOut (passive : s.ObserverPassive) {call : Call} {changes : List Change}
    {answer : Answer} (begun : s.cleared.begin call = s.cleared.carryOut changes answer) :
    (s.ask call).run = (changes.foldl make s.cleared).reply answer := by
  have still : s.cleared.ObserverPassive := passive
  rw [run_ask, begun, run_carryOut_of_no_tasks still rfl]

/-- What a call that makes changes does to the device, and what it answers. -/
theorem respond_of_carryOut (passive : s.ObserverPassive) {call : Call} {changes : List Change}
    {answer : Answer} (begun : s.cleared.begin call = s.cleared.carryOut changes answer) :
    (s.respond call).1.device = s.device.makeAll changes ∧ (s.respond call).2.answer = answer := by
  unfold respond
  simp only [run_ask_of_carryOut passive begun]
  exact ⟨s.cleared.device_foldl_make changes, rfl⟩

/-! ## An observer that only listens -/

/-- An observer that notes every notice, and makes no call. -/
def attentive : Observer Script where
  changing := some [[]]
  stabilized := some []
  targetChanged := some [[]]

/-- A new device with an observer that only listens. -/
def watched : Session :=
  { unused with observers := [attentive], device := { unused.device with observer := some 0 } }

theorem observerPassive_watched : watched.ObserverPassive := by
  intro id observer attached found
  cases attached
  cases found
  apply Observer.all_of_left
  intro script mem call made
  have empty : script = [] := by
    rcases List.mem_cons.mp mem with rfl | mem
    · rfl
    · exact List.mem_singleton.mp mem
  rw [empty] at made
  cases made

end Session

end Sensorium
