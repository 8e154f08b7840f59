import Sensorium.Proofs.Session.History

/-!
# Calls in the midst of others

The tasks of a session are a stack: whatever a task leads to comes before all others, and none
but the first is looked at. So a call that is made in the midst of others, by an observer or a
sink, goes on just as it would if it were the only one, until it has returned and the others are
left as they were: `Session.returns`.
-/

namespace Sensorium

namespace Session

/-- The session with other tasks to do when it is done with its own. -/
def above (s : Session) (others : List Task) : Session := { s with tasks := s.tasks ++ others }

variable {s : Session} {others : List Task}

@[simp] theorem tasks_above : (s.above others).tasks = s.tasks ++ others := rfl

@[simp] theorem device_above : (s.above others).device = s.device := rfl

/-! ## One step -/

theorem first_above (tasks : List Task) :
    (s.above others).first tasks = (s.first tasks).above others := by
  simp only [above, first, List.append_assoc]

theorem carryOut_above (changes : List Change) (answer : Answer) :
    (s.above others).carryOut changes answer = (s.carryOut changes answer).above others :=
  first_above _

theorem announce_above (due : Option Notice) :
    (s.above others).announce due = (s.announce due).above others := by
  cases due with
  | none => rfl
  | some notice =>
    simp only [announce, device_above]
    split
    · exact first_above _
    · rfl

theorem tell_above (id : ObserverId) (notice : Notice) :
    (s.above others).tell id notice = (s.tell id notice).above others := by
  have known : (s.above others).observers = s.observers := rfl
  simp only [tell, known]
  split
  · rfl
  · split
    · rfl
    · rfl
    · simp only [above, List.append_assoc, List.cons_append]

theorem record_above (id : SinkId) (event : Event) :
    (s.above others).record id event = (s.record id event).above others := by
  have known : (s.above others).sinks = s.sinks := rfl
  simp only [record, known]
  split
  · simp only [above, note, List.append_assoc, List.cons_append]
  · rfl

theorem setTarget_above (p : Parameter) (value : Value) (approach : Approach) :
    (s.above others).setTarget p value approach = (s.setTarget p value approach).above others := by
  simp only [setTarget, device_above, carryOut_above]
  split
  · exact record_above _ _
  · rfl

theorem readSensors_above (sensors : List Sensor) :
    (s.above others).readSensors sensors =
      ((s.readSensors sensors).1.above others, (s.readSensors sensors).2) := by
  induction sensors generalizing s with
  | nil => rfl
  | cons sensor rest ih =>
    have read : (s.above others).readSensor sensor =
      ((s.readSensor sensor).1.above others, (s.readSensor sensor).2) := rfl
    simp only [readSensors, read, ih]

theorem readPose_above : (s.above others).readPose = (s.readPose.1.above others, s.readPose.2) := by
  simp only [readPose, device_above]
  split <;> rfl

theorem attach_above (observer : Observer Script) :
    (s.above others).attach observer = (s.attach observer).above others :=
  first_above (s := { s with
    observers := s.observers ++ [observer]
    device := { s.device with observer := some s.observers.length } }) _

theorem begin_above (call : Call) : (s.above others).begin call = (s.begin call).above others := by
  cases call with
  | advance now => exact first_above _
  | settle step limit => exact first_above _
  | setTarget p value approach => exact setTarget_above p value approach
  | override sensor value => exact carryOut_above _ _
  | loadState source => exact carryOut_above _ _
  | replay event => exact carryOut_above _ _
  | attach observer => exact attach_above observer
  | readAll =>
    simp only [begin, readSensors_above]
    generalize s.readSensors Sensor.all = read
    rfl
  | pose =>
    simp only [begin, readPose_above]
    rfl
  | survey sensor =>
    have read : (s.above others).readSensor sensor =
      ((s.readSensor sensor).1.above others, (s.readSensor sensor).2) := rfl
    simp only [begin, read, readPose_above]
    rfl
  | loadSnapshot source cut =>
    change (s.above others).loadSnapshot (s.bytesOf source cut) =
      (s.loadSnapshot (s.bytesOf source cut)).above others
    unfold loadSnapshot
    split
    · rfl
    · exact carryOut_above _ _
  | startTrace path =>
    change (s.above others).startTrace path = (s.startTrace path).above others
    have known : Recorder.start (s.above others).places (s.above others).files path =
      Recorder.start s.places s.files path := rfl
    unfold startTrace
    rw [known]
    cases Recorder.start s.places s.files path <;> rfl
  | _ => rfl

theorem perform_above (task : Task) :
    (s.above others).perform task = (s.perform task).above others := by
  cases task with
  | call call => exact begin_above call
  | mark => exact announce_above (s := { s with device := s.device.markChanging.1 }) _
  | clearOverrides => exact announce_above (s := { s with device := s.device.clearOverrides }) _
  | advance now => exact announce_above (s := { s with device := (s.device.advance now).1 }) _
  | settle now step rounds limit =>
    by_cases more : s.device.changing = true ∧ rounds < limit
    · have there : (s.above others).device.changing = true ∧ rounds < limit := more
      simp only [perform, if_pos more, if_pos there]
      exact first_above _
    · have there : ¬ ((s.above others).device.changing = true ∧ rounds < limit) := more
      simp only [perform, if_neg more, if_neg there]
      rfl
  | tell id notice => exact tell_above id notice
  | _ => rfl

/-- As long as a session has tasks of its own, it does not look at others. -/
theorem step_above (busy : s.tasks ≠ []) : (s.above others).step = s.step.above others := by
  cases found : s.tasks with
  | nil => exact (busy found).elim
  | cons task rest =>
    have both : (s.above others).tasks = task :: (rest ++ others) := by
      rw [tasks_above, found, List.cons_append]
    rw [step_of_tasks found, step_of_tasks both]
    exact perform_above (s := { s with tasks := rest }) task

/-! ## All steps of a call -/

theorem iterate_above (count : Nat) (busy : ∀ k < count, (step^[k] s).tasks ≠ []) :
    step^[count] (s.above others) = (step^[count] s).above others := by
  induction count with
  | zero => rfl
  | succ count ih =>
    have before := ih fun k bound => busy k (Nat.lt_succ_of_lt bound)
    rw [Function.iterate_succ_apply', Function.iterate_succ_apply', before,
      step_above (busy count (Nat.lt_succ_self count))]

theorem trail_above (count : Nat) (busy : ∀ k < count, (step^[k] s).tasks ≠ []) :
    (s.above others).trail count = (s.trail count).map (·.above others) := by
  induction count with
  | zero => rfl
  | succ count ih =>
    have before := ih fun k bound => busy k (Nat.lt_succ_of_lt bound)
    rw [trail, before, iterate_above count fun k bound => busy k (Nat.lt_succ_of_lt bound)]
    rfl

theorem busy_of_mem_trail {count : Nat} (busy : ∀ k < count, (step^[k] s).tasks ≠ [])
    {u : Session} (mem : u ∈ s.trail count) : u.tasks ≠ [] := by
  obtain ⟨k, bound, rfl⟩ := mem_trail.mp mem
  exact busy k bound

/-- What is found in states with tasks of their own is the same if it does not depend on others. -/
theorem gather_above {α : Type} {find : Session → Option α} {count : Nat}
    (busy : ∀ k < count, (step^[k] s).tasks ≠ [])
    (same : ∀ u : Session, u.tasks ≠ [] → find (u.above others) = find u) :
    (s.above others).gather find count = s.gather find count := by
  rw [gather, gather, trail_above count busy, ← List.map_reverse, List.filterMap_map]
  apply List.filterMap_congr
  intro u mem
  exact same u (busy_of_mem_trail busy (List.mem_reverse.mp mem))

/-- A run takes a number of steps. -/
theorem exists_run_eq_iterate (s : Session) :
    ∃ count, s.run = step^[count] s ∧ ∀ k < count, (step^[k] s).tasks ≠ [] := by
  fun_induction Session.run s with
  | case1 s idle =>
    refine ⟨0, rfl, ?_⟩
    intro k bound
    exact absurd bound (Nat.not_lt_zero k)
  | case2 s task rest found ih =>
    obtain ⟨count, run, busy⟩ := ih
    refine ⟨count + 1, run, ?_⟩
    intro k bound
    cases k with
    | zero =>
      change s.tasks ≠ []
      rw [found]
      exact List.cons_ne_nil _ _
    | succ k => exact busy k (Nat.lt_of_succ_lt_succ bound)

/-- A call that is made in the midst of others has returned after so many steps, and not
    before. -/
structure Returns (s : Session) (others : List Task) (count : Nat) : Prop where
  tasks : (step^[count] s).tasks = others
  busy : ∀ k < count, ∃ front, front ≠ [] ∧ (step^[k] s).tasks = front ++ others

theorem Returns.tasks_ne_nil {count k : Nat} (h : s.Returns others count) (bound : k < count) :
    (step^[k] s).tasks ≠ [] := by
  obtain ⟨front, busy, tasks⟩ := h.busy k bound
  rw [tasks]
  exact List.append_ne_nil_of_left_ne_nil busy others

theorem Returns.unique {m n : Nat} (h : s.Returns others m) (h' : s.Returns others n) : m = n := by
  have not_lt {m n : Nat} (h : s.Returns others m) (h' : s.Returns others n) : ¬ m < n := by
    intro earlier
    obtain ⟨front, busy, tasks⟩ := h'.busy m earlier
    exact busy (List.append_left_eq_self.mp (tasks.symm.trans h.tasks))
  exact Nat.le_antisymm (Nat.not_lt.mp (not_lt h' h)) (Nat.not_lt.mp (not_lt h h'))

/-- Every call returns, after the steps that it takes when it is the only one. -/
theorem returns {call : Call} (found : s.tasks = .call call :: others) :
    ∃ count, s.Returns others count ∧
      let alone := { s with tasks := [.call call] }
      alone.run = step^[count] alone ∧ (∀ k < count, (step^[k] alone).tasks ≠ []) ∧
        s = alone.above others := by
  let alone := { s with tasks := [.call call] }
  have same : s = alone.above others := by
    simp only [alone, above, List.singleton_append, ← found]
  obtain ⟨count, run, busy⟩ := alone.exists_run_eq_iterate
  refine ⟨count, ⟨?_, ?_⟩, run, busy, same⟩
  · rw [same, iterate_above count busy, ← run, tasks_above, tasks_run, List.nil_append]
  · intro k bound
    refine ⟨(step^[k] alone).tasks, busy k bound, ?_⟩
    rw [same, iterate_above k fun j earlier => busy j (Nat.lt_trans earlier bound), tasks_above]

end Session

end Sensorium
