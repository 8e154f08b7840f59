import Mathlib.Data.List.Chain
import Sensorium.Proofs.Session.History

/-!
# Notices in turn

An observer that stays attached is told by turns that the device is changing and that it has
stabilized, and whenever somebody can look, the mark of the device is what it was told
last. Scripts may set the mark and take it away again while calls are going on, so this is
proved of every state in between: a notice is due only between the task that changes the
mark and the one that tells of it, and these follow each other at once.
-/

namespace Sensorium

/-- The notice that tells of the mark. -/
def Notice.ofMark (changing : Bool) : Notice := if changing then .changing else .stabilized

/-- The notices that tell of the mark. -/
def Notice.isEdge : Notice → Bool
  | .targetChanged => false
  | _ => true

theorem Notice.ofMark_ne (changing : Bool) : ofMark (!changing) ≠ ofMark changing := by
  cases changing <;> decide

theorem Notice.ofMark_eq_changing {changing : Bool} :
    ofMark changing = .changing ↔ changing = true := by
  cases changing <;> decide

/-- A change of the mark and the notice of it go together: either the mark is what it was and
    no notice is due, or it is not and the notice that is due tells of it. -/
def Device.Announces (before after : Device) (due : Option Notice) : Prop :=
  due = none ∧ after.changing = before.changing ∨
    due = some (.ofMark after.changing) ∧ after.changing = !before.changing

theorem Device.announces_markChanging (d : Device) :
    d.Announces d.markChanging.1 d.markChanging.2 := by
  rw [markChanging_eq]
  cases changing : d.changing with
  | false => exact .inr ⟨rfl, by rw [changing]; rfl⟩
  | true => exact .inl ⟨rfl, changing.symm⟩

theorem Device.announces_advance (d : Device) (now : Nanos) :
    d.Announces (d.advance now).1 (d.advance now).2 := by
  rcases d.advance_cases now with ⟨-, same⟩ | ⟨-, stable | ⟨body, surroundings, -, moving⟩⟩
  · rw [same]
    exact .inl ⟨rfl, rfl⟩
  · rw [stable]
    cases changing : d.changing with
    | false => exact .inl ⟨rfl, changing.symm⟩
    | true => exact .inr ⟨rfl, by rw [changing]; rfl⟩
  · rw [moving]
    cases changing : d.changing with
    | false => exact .inr ⟨rfl, by rw [changing]; rfl⟩
    | true => exact .inl ⟨rfl, changing.symm⟩

/-- True for a call that leaves the observer attached that is. -/
def Call.keepsObserver : Call → Bool
  | .attach _ | .detach => false
  | _ => true

/-- The notice of the mark that a task is to tell. -/
def Task.edge? : Task → Option Notice
  | .tell _ notice => if notice.isEdge then some notice else none
  | _ => none

/-- The notices of the mark that are still to be told. -/
def dueEdges (tasks : List Task) : List Notice := tasks.filterMap Task.edge?

theorem dueEdges_append (before after : List Task) :
    dueEdges (before ++ after) = dueEdges before ++ dueEdges after :=
  List.filterMap_append

theorem free_of_dueEdges {task : Task} {rest : List Task} (h : dueEdges (task :: rest) = []) :
    task.edge? = none ∧ dueEdges rest = [] := by
  rw [dueEdges, List.filterMap_cons] at h
  cases edge : task.edge? with
  | none =>
    rw [edge] at h
    exact ⟨rfl, h⟩
  | some notice =>
    rw [edge] at h
    cases h

theorem dueEdges_script (script : Script) : dueEdges (script.map .call) = [] := by
  induction script with
  | nil => rfl
  | cons call rest ih => exact ih

theorem dueEdges_changes (changes : List Change) :
    dueEdges (changes.flatMap Change.tasks) = [] := by
  induction changes with
  | nil => rfl
  | cons change rest ih =>
    rw [List.flatMap_cons, dueEdges_append, ih]
    cases change <;> rfl

namespace Session

/-- The notice of the mark that an observer is told by the next step. -/
def edge? (id : ObserverId) (s : Session) : Option Notice :=
  match s.tasks with
  | .tell told notice :: _ => if told = id ∧ notice.isEdge then some notice else none
  | _ => none

/-- The notices of the mark that an observer has been told, the last one first. -/
def edges (id : ObserverId) (past : List Session) : List Notice := past.filterMap (edge? id)

/-- Tasks of a script that only reads. -/
def Quiet (task : Task) : Prop :=
  (∃ notice, task = .leave notice) ∨ ∃ call : Call, call.onlyReads = true ∧ task = .call call

theorem quiet_nil : ∀ task ∈ ([] : List Task), Quiet task := by
  intro task mem
  cases mem

/-- Where an observer is between two notices of the mark, after it has been told some. The
    first so many are told while it is being attached. -/
inductive Phase (first : Nat) (id : ObserverId) (s : Session) (told : List Notice) : Prop
  /-- While it is attached to a device at rest, it is told of a change that there is not. -/
  | greeting (back : List Task)
      (tasks : s.tasks = .tell id .changing :: .tell id .stabilized :: back)
      (due : dueEdges back = []) (still : s.device.changing = false) (none : told = [])
      (attaching : first = 2)
      (reads : ∀ observer script rest, s.observers[id]? = some observer →
        observer.changing = some (script :: rest) → ∀ call ∈ script, call.onlyReads = true)
  /-- A notice is due, at once or when the observer has done reading. -/
  | due (front back : List Task)
      (tasks : s.tasks = front ++ .tell id (.ofMark s.device.changing) :: back)
      (quiet : ∀ task ∈ front, Quiet task) (due : dueEdges back = [])
      (chain : (Notice.ofMark s.device.changing :: told).IsChain (· ≠ ·))
      (soon : front = [] ∨ told.length < first)
  /-- It has been told of the mark. -/
  | told (due : dueEdges s.tasks = []) (chain : told.IsChain (· ≠ ·))
      (last : told.head? = some (.ofMark s.device.changing))

/-! ## What is due -/

section

variable (s : Session)

theorem dueEdges_enter (script : Script) {back : Task} (ends : back.edge? = none) :
    dueEdges (s.enter script back).tasks = dueEdges s.tasks := by
  rw [enter, dueEdges_append, dueEdges_script, List.nil_append, dueEdges, List.filterMap_cons, ends]
  rfl

theorem dueEdges_tell (id : ObserverId) (notice : Notice) :
    dueEdges (s.tell id notice).tasks = dueEdges s.tasks := by
  rcases s.tell_cases id notice with same | noted | ⟨observer, script, rest, -, -, entered⟩
  · rw [same]
  · rw [noted]
    rfl
  · rw [entered, dueEdges_enter _ _ rfl]
    rfl

theorem dueEdges_record (id : SinkId) (event : Event) :
    dueEdges (s.record id event).tasks = dueEdges s.tasks := by
  rcases s.record_cases id event with noted | ⟨script, rest, -, entered⟩
  · rw [noted]
    rfl
  · rw [entered, dueEdges_enter _ _ rfl]
    rfl

theorem dueEdges_carryOut (changes : List Change) (answer : Answer) :
    dueEdges (s.carryOut changes answer).tasks = dueEdges s.tasks := by
  rw [carryOut, first, dueEdges_append, dueEdges_append, dueEdges_changes]
  rfl

theorem dueEdges_begin {call : Call} (none : ∀ observer, call ≠ .attach observer) :
    dueEdges (s.begin call).tasks = dueEdges s.tasks := by
  have begun := s.begins_begin call
  generalize s.begin call = next at begun
  cases begun with
  | reads => rfl
  | configures => rfl
  | changes => exact s.dueEdges_carryOut _ _
  | records => rw [dueEdges_record, dueEdges_carryOut]
  | advances => rfl
  | settles => rfl
  | @attaches observer => exact (none observer rfl).elim
  | attachesSink => rfl

theorem dueEdges_targetChanged :
    dueEdges (s.announce (some .targetChanged)).tasks = dueEdges s.tasks := by
  rcases s.announce_cases (some .targetChanged) with ⟨-, same⟩ | ⟨notice, id, due, -, told⟩
  · rw [same]
  · cases due
    rw [told]
    rfl

/-- Only a change of the mark makes notices of it due, and an observer that is attached. -/
theorem dueEdges_perform {task : Task} (unmarked : task ≠ .mark)
    (silent : ∀ now, task = .advance now → (s.device.advance now).2 = none)
    (none : ∀ observer, task ≠ .call (.attach observer)) :
    dueEdges (s.perform task).tasks = dueEdges s.tasks := by
  cases task with
  | call call =>
    apply s.dueEdges_begin
    rintro observer rfl
    exact none observer rfl
  | mark => exact (unmarked rfl).elim
  | clearOverrides => exact dueEdges_targetChanged { s with device := s.device.clearOverrides }
  | advance now =>
    simp only [perform, silent now rfl]
    rfl
  | settle now step rounds limit =>
    simp only [perform]
    split <;> rfl
  | tell id notice => exact s.dueEdges_tell id notice
  | retarget | override | leave | resume | answer => rfl

end

variable {s : Session} {first : Nat} {id : ObserverId} {told : List Notice}

/-- When the mark has changed, the observer is told next. -/
theorem announced_announce {before : Device} {due : Option Notice}
    (announces : before.Announces s.device due) (observer : s.device.observer = some id)
    (free : dueEdges s.tasks = []) :
    dueEdges (s.announce due).tasks = [] ∧ s.device.changing = before.changing ∨
      (s.announce due).tasks = .tell id (.ofMark s.device.changing) :: s.tasks ∧
        s.device.changing = !before.changing := by
  rcases announces with ⟨rfl, same⟩ | ⟨rfl, changed⟩
  · exact .inl ⟨free, same⟩
  · rcases s.announce_cases (some (.ofMark s.device.changing)) with
      ⟨none | none, -⟩ | ⟨notice, id', due, attached, announced⟩
    · cases none
    · rw [observer] at none
      cases none
    · cases due
      rw [observer] at attached
      cases attached
      rw [announced]
      exact .inr ⟨rfl, changed⟩

/-- While nothing is due to be told of the mark, a task leaves it alone, or it changes it and the
    observer is told next. -/
theorem announced_perform {task : Task} (observer : s.device.observer = some id)
    (keeps : ∀ call, task = .call call → call.keepsObserver = true)
    (free : dueEdges s.tasks = []) :
    dueEdges (s.perform task).tasks = [] ∧
        (s.perform task).device.changing = s.device.changing ∨
      (s.perform task).tasks = .tell id (.ofMark (s.perform task).device.changing) :: s.tasks ∧
        (s.perform task).device.changing = !s.device.changing := by
  have unmoved (quiet : task.moves = false)
      (tasks : dueEdges (s.perform task).tasks = dueEdges s.tasks) :
      dueEdges (s.perform task).tasks = [] ∧
        (s.perform task).device.changing = s.device.changing :=
    ⟨tasks.trans free, (s.sameMotion_perform quiet).changing⟩
  cases task with
  | call call =>
    refine .inl (unmoved rfl (s.dueEdges_perform (by simp) (by simp) ?_))
    rintro observer ⟨⟩
    cases keeps _ rfl
  | mark =>
    have attached : s.device.markChanging.1.observer = some id := by
      rw [Device.markChanging_eq]
      exact observer
    simp only [perform, device_announce]
    exact announced_announce (s := { s with device := s.device.markChanging.1 })
      s.device.announces_markChanging attached free
  | advance now =>
    have attached : (s.device.advance now).1.observer = some id :=
      (s.device.listeners_advance now).1.trans observer
    simp only [perform, device_announce]
    exact announced_announce (s := { s with device := (s.device.advance now).1 })
      (s.device.announces_advance now) attached free
  | retarget p value approach =>
    left
    simp only [perform]
    rw [Device.retarget_eq]
    exact ⟨free, rfl⟩
  | _ => exact .inl (unmoved rfl (s.dueEdges_perform (by simp) (by simp) (by simp)))

/-- A task that tells of no mark keeps what was told right, or a notice of its own comes
    next. -/
theorem told_perform {task : Task} (observer : s.device.observer = some id)
    (keeps : ∀ call, task = .call call → call.keepsObserver = true)
    (free : dueEdges s.tasks = []) (chain : told.IsChain (· ≠ ·))
    (last : told.head? = some (.ofMark s.device.changing)) :
    Phase first id (s.perform task) told := by
  rcases announced_perform observer keeps free with ⟨free, same⟩ | ⟨tasks, changed⟩
  · refine .told free chain ?_
    rw [last, same]
  · refine .due [] s.tasks tasks quiet_nil free ?_ (.inl rfl)
    cases told with
    | nil => cases last
    | cons latest earlier =>
      cases last
      refine .cons_cons ?_ chain
      rw [changed]
      exact Notice.ofMark_ne _

/-- A session whose observer stays attached. -/
structure Attached (id : ObserverId) (s : Session) : Prop where
  scripted : s.Scripted (·.Throughout Call.keepsObserver) (·.Throughout Call.keepsObserver)
  observer : s.device.observer = some id

/-- A session whose observer stays attached and is told of the mark in turn. -/
structure Attended (first : Nat) (id : ObserverId) (s : Session) (told : List Notice) : Prop where
  scripted : s.Scripted (·.Throughout Call.keepsObserver) (·.Throughout Call.keepsObserver)
  observer : s.device.observer = some id
  phase : Phase first id s told

theorem Attended.attached (h : Attended first id s told) : Attached id s := ⟨h.scripted, h.observer⟩

/-- The first task of a session whose observer stays attached keeps it so. -/
theorem Attached.keeps (h : Attached id s) {task : Task} {rest : List Task}
    (tasks : s.tasks = task :: rest) : ∀ call, task = .call call → call.keepsObserver = true := by
  rintro call rfl
  have made : Task.call call ∈ s.tasks := by
    rw [tasks]
    exact List.mem_cons_self
  exact (h.scripted.calls call made).head

theorem observer_begin {call : Call} (keeps : call.keepsObserver = true) :
    (s.begin call).device.observer = s.device.observer := by
  have begun := s.begins_begin call
  generalize s.begin call = next at begun
  cases begun with
  | configures _ detached =>
    rcases detached with same | ⟨rfl, -⟩
    · exact same
    · cases keeps
  | records => rw [device_record]; rfl
  | attaches => cases keeps
  | _ => rfl

theorem observer_perform {task : Task}
    (keeps : ∀ call, task = .call call → call.keepsObserver = true) :
    (s.perform task).device.observer = s.device.observer := by
  cases task with
  | call call => exact observer_begin (keeps call rfl)
  | mark => rw [device_mark]
  | retarget p value approach => exact (s.device.listeners_retarget p value approach).1
  | clearOverrides =>
    simp only [perform, device_announce]
    rfl
  | advance now =>
    rw [device_advance]
    exact (s.device.listeners_advance now).1
  | settle now step rounds limit =>
    simp only [perform]
    split <;> rfl
  | tell id notice => simp only [perform, device_tell]
  | _ => rfl

/-- A quiet task changes nothing but the script that it is of. -/
theorem perform_quiet {task : Task} (quiet : Quiet task) :
    (s.perform task).tasks = s.tasks ∧
      (s.perform task).device.changing = s.device.changing := by
  rcases quiet with ⟨notice, rfl⟩ | ⟨call, reads, rfl⟩
  · exact ⟨rfl, rfl⟩
  · have begun := s.begins_begin call
    rw [perform]
    generalize s.begin call = next at begun
    cases begun with
    | reads => exact ⟨rfl, rfl⟩
    | configures acts => rw [acts] at reads; cases reads
    | changes acts => rw [acts] at reads; cases reads
    | records acts => rw [acts] at reads; cases reads
    | _ => cases reads

/-- What is to be done after an observer was told something: first what it does itself. -/
theorem tasks_tell (id : ObserverId) (notice : Notice) :
    ∃ front, (s.tell id notice).tasks = front ++ s.tasks ∧ dueEdges front = [] ∧
      ((∀ observer script rest, s.observers[id]? = some observer →
        observer.scripts notice = some (script :: rest) →
        ∀ call ∈ script, call.onlyReads = true) → ∀ task ∈ front, Quiet task) := by
  rcases s.tell_cases id notice with same | noted | ⟨observer, script, rest, found, left, entered⟩
  · exact ⟨[], by rw [same]; rfl, rfl, fun _ => quiet_nil⟩
  · exact ⟨[], by rw [noted]; rfl, rfl, fun _ => quiet_nil⟩
  · refine ⟨script.map .call ++ [.leave notice], ?_, ?_, ?_⟩
    · rw [entered, List.append_assoc]
      rfl
    · rw [dueEdges_append, dueEdges_script]
      rfl
    · intro reads task mem
      rcases List.mem_append.mp mem with mem | mem
      · obtain ⟨call, made, rfl⟩ := List.mem_map.mp mem
        exact .inr ⟨call, reads observer script rest found left call made, rfl⟩
      · cases List.mem_singleton.mp mem
        exact .inl ⟨notice, rfl⟩

theorem edge?_of_tasks {task : Task} {rest : List Task} (tasks : s.tasks = task :: rest)
    (free : task.edge? = none) : s.edge? id = none := by
  rw [edge?, tasks]
  cases task with
  | tell told notice =>
    simp only [Task.edge?, ite_eq_right_iff, reduceCtorEq, imp_false] at free
    exact if_neg fun both => free both.2
  | _ => rfl

theorem edge?_tell {notice : Notice} {rest : List Task} (tasks : s.tasks = .tell id notice :: rest)
    (edge : notice.isEdge = true) : s.edge? id = some notice := by
  rw [edge?, tasks]
  exact if_pos ⟨rfl, edge⟩

theorem edge?_ofMark {changing : Bool} {back : List Task}
    (tasks : s.tasks = .tell id (.ofMark changing) :: back) :
    s.edge? id = some (.ofMark changing) := by
  apply edge?_tell tasks
  cases changing <;> rfl

/-- The observer is told of a change that there is not, and has to be told of the rest yet. -/
theorem phase_step_of_greeting {back : List Task}
    (tasks : s.tasks = .tell id .changing :: .tell id .stabilized :: back)
    (due : dueEdges back = []) (still : s.device.changing = false) (attaching : first = 2)
    (reads : ∀ observer script rest, s.observers[id]? = some observer →
      observer.changing = some (script :: rest) → ∀ call ∈ script, call.onlyReads = true) :
    Phase first id s.step [.changing] := by
  rw [step_of_tasks tasks]
  obtain ⟨front, after, -, quiet⟩ :=
    tasks_tell (s := { s with tasks := .tell id .stabilized :: back }) id .changing
  have mark : ({ s with tasks := .tell id .stabilized :: back }.perform
      (.tell id .changing)).device.changing = false := by
    rw [perform, device_tell]
    exact still
  refine .due front back ?_ (quiet reads) due ?_ (.inr ?_)
  · rw [mark]
    exact after
  · rw [mark]
    exact .cons_cons (by decide) (.singleton _)
  · rw [attaching]
    exact Nat.lt_succ_self 1

/-- Telling an observer something changes neither the mark nor what is due to be told of it. -/
theorem step_of_tell {notice : Notice} {back : List Task}
    (tasks : s.tasks = .tell id notice :: back) (due : dueEdges back = []) :
    dueEdges s.step.tasks = [] ∧ s.step.device.changing = s.device.changing := by
  rw [step_of_tasks tasks, perform, dueEdges_tell, device_tell]
  exact ⟨due, rfl⟩

/-- The observer is told of the mark that is due. -/
theorem phase_step_of_due {back : List Task}
    (tasks : s.tasks = .tell id (.ofMark s.device.changing) :: back) (due : dueEdges back = [])
    (chain : (Notice.ofMark s.device.changing :: told).IsChain (· ≠ ·)) :
    Phase first id s.step (.ofMark s.device.changing :: told) := by
  obtain ⟨free, same⟩ := step_of_tell tasks due
  refine .told free chain ?_
  rw [same]
  rfl

/-- The observer goes on reading before it is told of the mark. -/
theorem phase_step_of_quiet {task : Task} {front back : List Task}
    (tasks : s.tasks = task :: (front ++ .tell id (.ofMark s.device.changing) :: back))
    (quiet : ∀ next ∈ task :: front, Quiet next) (due : dueEdges back = [])
    (chain : (Notice.ofMark s.device.changing :: told).IsChain (· ≠ ·))
    (soon : told.length < first) : Phase first id s.step told := by
  rw [step_of_tasks tasks]
  obtain ⟨after, mark⟩ := perform_quiet (s := { s with
    tasks := front ++ .tell id (.ofMark s.device.changing) :: back })
    (quiet task List.mem_cons_self)
  refine .due front back ?_ (fun task mem => quiet task (List.mem_cons_of_mem _ mem)) due ?_
    (.inr soon)
  · rw [after, mark]
  · rw [mark]
    exact chain

theorem phase_step (h : Attended first id s told) :
    Phase first id s.step ((s.edge? id).toList ++ told) := by
  cases h.phase with
  | greeting back tasks due still none attaching reads =>
    rw [edge?_tell tasks rfl, none]
    exact phase_step_of_greeting tasks due still attaching reads
  | due front back tasks quiet due chain soon =>
    cases front with
    | nil =>
      rw [edge?_ofMark tasks]
      exact phase_step_of_due tasks due chain
    | cons task front =>
      have free : task.edge? = none := by
        rcases quiet task List.mem_cons_self with ⟨notice, rfl⟩ | ⟨call, -, rfl⟩ <;> rfl
      rw [edge?_of_tasks tasks free]
      rcases soon with soon | soon
      · cases soon
      · exact phase_step_of_quiet tasks quiet due chain soon
  | told due chain last =>
    cases tasks : s.tasks with
    | nil =>
      rw [step_of_no_tasks tasks, edge?, tasks]
      exact .told due chain last
    | cons task rest =>
      rw [tasks] at due
      obtain ⟨free, due⟩ := free_of_dueEdges due
      rw [edge?_of_tasks tasks free, step_of_tasks tasks]
      exact told_perform (s := { s with tasks := rest }) h.observer (h.attached.keeps tasks) due
        chain last

theorem Attached.step (h : Attached id s) : Attached id s.step := by
  refine ⟨h.scripted.step Call.hereditary_throughout, ?_⟩
  cases tasks : s.tasks with
  | nil =>
    rw [step_of_no_tasks tasks]
    exact h.observer
  | cons task rest =>
    rw [step_of_tasks tasks, observer_perform (h.keeps tasks)]
    exact h.observer

theorem Attended.step (h : Attended first id s told) :
    Attended first id s.step ((s.edge? id).toList ++ told) :=
  ⟨h.attached.step.scripted, h.attached.step.observer, phase_step h⟩

theorem Attended.ask (h : Attended first id s told) (idle : s.tasks = []) {call : Call}
    (keeps : call.Throughout Call.keepsObserver) : Attended first id (s.ask call) told := by
  refine ⟨h.scripted.ask keeps, h.observer, ?_⟩
  cases h.phase with
  | greeting _ tasks =>
    rw [idle] at tasks
    cases tasks
  | due front _ tasks =>
    rw [idle] at tasks
    cases front <;> cases tasks
  | told _ chain last => exact .told rfl chain last

/-- How many notices of the mark an observer is told while it is being attached. -/
def greetings (s : Session) : Nat := if s.device.changing then 1 else 2

/-- An observer has been attached to a session that has nothing else to do. Who listened before
    does not any more. -/
theorem attached_attach {observer : Observer Script} (idle : s.tasks = [])
    (scripts : observer.All (·.Throughout Call.keepsObserver))
    (sinks : ∀ id left, s.device.sink = some id → s.sinks[id]? = some left →
      AllCalls (·.Throughout Call.keepsObserver) left) :
    Attached s.observers.length (s.attach observer) := by
  refine ⟨?_, rfl⟩
  let alone := { s with device := { s.device with observer := none } }
  have scripted : alone.Scripted (·.Throughout Call.keepsObserver)
      (·.Throughout Call.keepsObserver) := by
    refine ⟨?_, ?_, sinks⟩
    · intro call mem
      rw [show alone.tasks = [] from idle] at mem
      cases mem
    · rintro id listener (attached | ⟨notice, mem⟩)
      · cases attached
      · rw [show alone.tasks = [] from idle] at mem
        cases mem
  exact scripted.attach scripts

theorem attended_attach {observer : Observer Script} (idle : s.tasks = [])
    (scripts : observer.All (·.Throughout Call.keepsObserver))
    (sinks : ∀ id left, s.device.sink = some id → s.sinks[id]? = some left →
      AllCalls (·.Throughout Call.keepsObserver) left)
    (reads : s.device.changing = false → ∀ script rest,
      observer.changing = some (script :: rest) → ∀ call ∈ script, call.onlyReads = true) :
    Attended s.greetings s.observers.length (s.attach observer) [] := by
  obtain ⟨scripted, attached⟩ := attached_attach idle scripts sinks
  refine ⟨scripted, attached, ?_⟩
  unfold greetings
  cases changing : s.device.changing with
  | true =>
    refine .due [] [.tell s.observers.length .targetChanged, .answer .done] ?_ quiet_nil rfl ?_
      (.inl rfl)
    · simp [attach, first, idle, changing, Notice.ofMark]
    · exact .singleton _
  | false =>
    refine .greeting [.tell s.observers.length .targetChanged, .answer .done] ?_ rfl changing rfl
      rfl ?_
    · simp [attach, first, idle, changing]
    · intro listener script rest found left
      change (s.observers ++ [observer])[s.observers.length]? = some listener at found
      rw [List.getElem?_concat_length] at found
      cases found
      exact reads changing script rest left

theorem edges_cons (id : ObserverId) (s : Session) (past : List Session) :
    edges id (s :: past) = (s.edge? id).toList ++ edges id past := by
  rw [edges, List.filterMap_cons]
  cases s.edge? id <;> rfl

theorem History.attended {origin : Session} {past : List Session}
    (run : History (·.Throughout Call.keepsObserver) origin past s)
    (h : Attended first id origin []) : Attended first id s (edges id past) := by
  induction run with
  | start => exact h
  | step _ _ _ _ ih =>
    rw [edges_cons]
    exact ih.step
  | @ask past s call _ idle keeps ih =>
    have none : s.edge? id = none := by
      rw [edge?, idle]
    rw [edges_cons, none]
    exact ih.ask idle keeps

/-- From the phase of an observer, what it was told of the mark. -/
theorem Attended.alternates (h : Attended first id s told) :
    told.IsChain (· ≠ ·) ∧
      (first ≤ told.length → s.edge? id = none →
        (s.device.changing = true ↔ told.head? = some .changing)) := by
  cases h.phase with
  | greeting _ _ _ _ none attaching =>
    rw [none, attaching]
    exact ⟨.nil, nofun⟩
  | due front back tasks _ _ chain soon =>
    refine ⟨chain.tail, ?_⟩
    intro long free
    rcases soon with rfl | soon
    · rw [edge?_ofMark tasks] at free
      cases free
    · omega
  | told _ chain last =>
    refine ⟨chain, ?_⟩
    intro _ _
    rw [last, Option.some.injEq, Notice.ofMark_eq_changing]

/-- An observer that is attached and stays so is told by turns that the device is changing
    and that it has stabilized, whatever it and the sinks do in their scripts, if they leave
    it attached and, while it is being attached to a device at rest, it only reads when told
    of a change. Once it has been told what there is to tell while it is being attached, the
    mark is what it was told last, unless the next step tells it. -/
theorem notices_alternate {observer : Observer Script} {past : List Session} {origin : Session}
    (run : History (·.Throughout Call.keepsObserver) (origin.ask (.attach observer)) past s)
    (scripts : observer.All (·.Throughout Call.keepsObserver))
    (sinks : ∀ id left, origin.device.sink = some id → origin.sinks[id]? = some left →
      AllCalls (·.Throughout Call.keepsObserver) left)
    (reads : origin.device.changing = false → ∀ script rest,
      observer.changing = some (script :: rest) → ∀ call ∈ script, call.onlyReads = true) :
    let told := edges origin.observers.length past
    told.IsChain (· ≠ ·) ∧
      (origin.greetings ≤ told.length → s.edge? origin.observers.length = none →
        (s.device.changing = true ↔ told.head? = some .changing)) := by
  intro told
  rcases run.after_step rfl with ⟨rfl, rfl⟩ | ⟨later, rfl, after⟩
  · refine ⟨.nil, ?_⟩
    intro long
    have none : origin.greetings ≤ 0 := long
    unfold greetings at none
    split at none <;> cases none
  · have attended : Attended origin.greetings origin.observers.length
        (origin.ask (.attach observer)).step [] :=
      attended_attach (s := { origin.ask (.attach observer) with tasks := [] }) rfl scripts sinks
        reads
    have all : told = edges origin.observers.length later := by
      simp only [told, edges, List.filterMap_append]
      exact List.append_nil _
    rw [all]
    exact (after.attended attended).alternates

/-- An observer that reads when it is told of a change, and changes a target as soon as it is
    told that the device has stabilized. -/
def restless : Observer Script where
  changing := some [[.read (.condition .light)]]
  stabilized := some [[.setTarget (.condition .light) (.scalar 1) .step]]

/-- It is told of a third notice before it has answered the second. -/
theorem notices_restless :
    let start := unused.ask (.attach restless)
    edges 0 (start.trail 8) = [.changing, .stabilized, .changing] ∧
      (edges 0 (start.trail 8)).IsChain (· ≠ ·) ∧
      ((step^[8] start).device.changing = true ↔
        (edges 0 (start.trail 8)).head? = some .changing) := by
  intro start
  have told : edges 0 (start.trail 8) = [.changing, .stabilized, .changing] := by decide +kernel
  have busy : ∀ k < 8, (step^[k] start).tasks ≠ [] := by decide +kernel
  have free : (step^[8] start).edge? 0 = none := by decide +kernel
  have begun : History (·.Throughout Call.keepsObserver) start [] start := .start
  have run := begun.trail 8 busy
  rw [List.append_nil] at run
  have scripts : restless.All (·.Throughout Call.keepsObserver) := by
    apply Observer.all_of_left
    intro script mem call made
    rcases List.mem_cons.mp mem with rfl | mem
    · cases List.mem_singleton.mp made
      exact Call.throughout_of_test rfl rfl
    · cases List.mem_singleton.mp mem
      cases List.mem_singleton.mp made
      exact Call.throughout_of_test rfl rfl
  have reads : ∀ script rest, restless.changing = some (script :: rest) →
      ∀ call ∈ script, call.onlyReads = true := by
    rintro script rest left call made
    cases left
    cases List.mem_singleton.mp made
    rfl
  obtain ⟨chain, last⟩ := notices_alternate run scripts nofun fun _ => reads
  refine ⟨told, chain, last ?_ free⟩
  change 2 ≤ (edges 0 (start.trail 8)).length
  rw [told]
  decide

end Session

end Sensorium
