import Sensorium.Proofs.Session.Clock
import Sensorium.Proofs.Session.Endless
import Sensorium.Proofs.Session.Staying

/-!
# A device that nobody touches

A device that was just made stands still, and as long as nobody sets a target or overrides a
sensor it should go on to do so, however much time passes and whoever looks at it. It does if the
magnetic field and all conditions with which its surroundings start are finite, and only then
(`uneventful_iff`). These are not checked when the device is made, and surroundings that start from
an infinite value, or from one that is no number, are never found at rest: at the first moment to
which the device is moved it is marked, as if something were on its way.
-/

namespace Sensorium

/-- The magnetic field and all conditions with which the surroundings start are finite. -/
structure Settings.FiniteStart (settings : Settings) : Prop where
  field : settings.magneticField.isFinite = true
  conditions : ∀ c, (settings.conditions.get c).isFinite = true

/-- A call that lets time pass, reads, or changes who listens; and whoever is to listen only
    reads. -/
def Call.Waits : Call → Prop
  | .advance _ | .settle _ _ | .detach => True
  | .attach observer => observer.All (·.onlyReads = true)
  | call => call.onlyReads = true

theorem Call.hereditary_waits : Hereditary Call.Waits (·.onlyReads = true) where
  script call reads := by
    cases call <;> first | exact reads | cases reads
  attach _ reads := reads
  attachSink _ waits := nomatch waits

/-- A call that waits makes no changes. -/
theorem Session.plan_of_waits (s : Session) {call : Call} (waits : call.Waits) :
    s.plan call = [] := by
  cases call <;> first | rfl | cases waits

/-! ## Devices -/

namespace Device

variable {d e : Device}

/-- What a device reports depends on where it is and on its gauges. -/
theorem SameMotion.sameReports (h : d.SameMotion e)
    (gauges : ∀ sensor, e.board.gauge sensor = d.board.gauge sensor) : d.SameReports e := by
  refine ⟨value_congr h.body h.surroundings, ?_⟩
  intro sensor
  obtain ⟨_, -, before⟩ := d.read_eq sensor
  obtain ⟨_, -, after⟩ := e.read_eq sensor
  rw [before, after]
  simp only [reading, shown, gaugeAfter, Board.override?, gauges, h.changing,
    measured_congr h.body h.surroundings]
  rfl

theorem Staying.congr (h : d.Staying) (same : d.SameMotion e) : e.Staying := by
  obtain ⟨body, surroundings, ⟨settled, calm⟩, changing, position, field, conditions, still⟩ := h
  rw [← same.body] at body settled position still
  rw [← same.surroundings] at surroundings calm field conditions
  exact ⟨body, surroundings, ⟨settled, calm⟩, same.changing.trans changing, position, field,
    conditions, still⟩

/-- A device that starts with finite numbers stays at rest. -/
theorem staying_start {settings : Settings} (faultless : settings.fault? = none)
    (finite : settings.FiniteStart) : (start settings).Staying where
  body := faultless
  surroundings := faultless
  settled := settled_start settings
  changing := rfl
  position := show (Vec3.zero : Vec3 Single).isFinite = true by decide
  field := finite.field
  conditions c := by
    change ((settings.conditions.map (Track.resting 0)).get c).target.isFinite = true
    rw [Conditions.get_map]
    exact finite.conditions c
  still := by
    apply Vec3.isZero_of_eqv
    change (Rotation.identity * Rotation.identity.inverse).imaginary.eqv .zero = true
    decide +kernel

end Device

/-! ## Notices -/

/-- The notice of the mark that a task is to tell an observer. -/
def Task.edgeTo? (id : ObserverId) : Task → Option Notice
  | .tell told notice => if told = id ∧ notice.isEdge then some notice else none
  | _ => none

/-- The notices of the mark that are still to be told to an observer. -/
def dueTo (id : ObserverId) (tasks : List Task) : List Notice := tasks.filterMap (Task.edgeTo? id)

/-- Where no notice of the mark is due, none is due to anybody. -/
theorem dueTo_of_dueEdges {tasks : List Task} (none : dueEdges tasks = []) (id : ObserverId) :
    dueTo id tasks = [] := by
  rw [dueEdges, List.filterMap_eq_nil_iff] at none
  rw [dueTo, List.filterMap_eq_nil_iff]
  intro task mem
  have free := none task mem
  cases task with
  | tell told notice =>
    simp only [Task.edge?, ite_eq_right_iff, reduceCtorEq, imp_false] at free
    exact if_neg fun both => free both.2
  | _ => rfl

namespace Session

variable {s : Session} {past : List Session} {task : Task} {rest : List Task} {id : ObserverId}

theorem dueTo_append (before after : List Task) :
    dueTo id (before ++ after) = dueTo id before ++ dueTo id after :=
  List.filterMap_append

theorem edge?_eq (tasks : s.tasks = task :: rest) : s.edge? id = task.edgeTo? id := by
  rw [edge?, tasks]
  cases task <;> rfl

theorem dueTo_cons (tasks : s.tasks = task :: rest) :
    dueTo id s.tasks = (s.edge? id).toList ++ dueTo id rest := by
  rw [edge?_eq tasks, tasks, dueTo, List.filterMap_cons]
  cases task.edgeTo? id <;> rfl

/-- What an observer has been told of the mark and what it is still to be told, the last of it
    first. -/
def notices (id : ObserverId) (past : List Session) (s : Session) : List Notice :=
  (dueTo id s.tasks).reverse ++ edges id past

/-- A step from which nothing new is due to be told. -/
theorem notices_step (tasks : s.tasks = task :: rest)
    (same : dueTo id s.step.tasks = dueTo id rest) :
    notices id (s :: past) s.step = notices id past s := by
  rw [notices, notices, same, edges_cons, dueTo_cons tasks, List.reverse_append,
    List.append_assoc]
  cases s.edge? id <;> rfl

theorem observers_announce (due : Option Notice) : (s.announce due).observers = s.observers := by
  rcases s.announce_cases due with ⟨-, same⟩ | ⟨notice, id, -, -, told⟩
  · rw [same]
  · rw [told]
    rfl

/-- Nobody is there after a task who was not before, unless somebody is attached. -/
theorem length_observers_perform (none : ∀ observer, task ≠ .call (.attach observer)) :
    (s.perform task).observers.length = s.observers.length := by
  cases task with
  | call call =>
    have begun := s.begins_begin call
    rw [perform]
    generalize s.begin call = next at begun
    cases begun with
    | reads | configures | changes | advances | settles | attachesSink => rfl
    | @records _ id event answer =>
      rcases (s.carryOut (s.plan call) answer).record_cases id event with
        noted | ⟨script, later, -, entered⟩
      · rw [noted]
        rfl
      · rw [entered]
        rfl
    | @attaches observer => exact (none observer rfl).elim
  | mark | clearOverrides | advance => simp only [perform, observers_announce]
  | settle now step rounds limit =>
    simp only [perform]
    split <;> rfl
  | tell id notice =>
    rw [perform]
    rcases s.tell_cases id notice with same | noted | ⟨observer, script, later, -, -, entered⟩
    · rw [same]
    · rw [noted]
      rfl
    · rw [entered]
      exact List.length_set
  | retarget | override | leave | resume | answer => rfl

/-- When what is due to be told of the mark stays the same, so does what is due to one observer. -/
theorem dueTo_of_leadsTo {tasks : List Task} (leads : s.LeadsTo task tasks)
    (same : dueEdges tasks = dueEdges s.tasks) : dueTo id tasks = dueTo id s.tasks := by
  obtain ⟨before, changes, after, rfl, -, -⟩ := leads
  rw [dueEdges_append] at same
  rw [dueTo_append, dueTo_of_dueEdges (List.append_left_eq_self.mp same), List.nil_append]

/-- Whoever is attached to a device at rest is told of a change that there is not. -/
theorem dueTo_attach (still : s.device.changing = false) (observer : Observer Script)
    (id : ObserverId) :
    dueTo id (s.attach observer).tasks =
      if s.observers.length = id then .changing :: .stabilized :: dueTo id s.tasks
      else dueTo id s.tasks := by
  simp only [attach, first, still, Bool.false_eq_true, if_false, List.cons_append,
    List.nil_append, dueTo, List.filterMap_cons, Task.edgeTo?, Notice.isEdge, and_true, and_false]
  by_cases mine : s.observers.length = id
  · simp only [if_pos mine]
  · simp only [if_neg mine]

/-! ## Steps -/

/-- The next step lets time pass. -/
def ticks (s : Session) : Prop := ∃ now, s.moment? = some now ∧ s.device.time ≤ now

theorem moment?_of_tasks {now : Nanos} (tasks : s.tasks = .advance now :: rest) :
    s.moment? = some now := by
  rw [moment?, tasks]

/-- In a run that began with the device `first`, nobody has touched it: it is unmarked, reports
    what it did then, and is to stay at rest if it was to then. Observers have been told, and are
    still to be told, of no change but those of which they are told when they are attached. -/
structure Untouched (first : Device) (past : List Session) (s : Session) : Prop where
  scripted : s.Scripted Call.Waits (·.onlyReads = true)
  apart : ∀ task ∈ s.tasks, task.partOfChange = false
  still : s.device.changing = false
  same : first.SameReports s.device
  staying : first.Staying → s.device.Staying
  told : ∀ id, notices id past s <:+ [.stabilized, .changing]
  strangers : ∀ id, s.observers.length ≤ id → notices id past s = []

/-- While the device is unmarked, a reading counts nothing. So nothing of the device matters that a
    task may change which is part of no change and does not move it. -/
theorem sameReports_perform (apart : task.partOfChange = false)
    (waits : ∀ now, task ≠ .advance now) (still : s.device.changing = false) :
    s.device.SameMotion (s.perform task).device ∧
      s.device.SameReports (s.perform task).device := by
  have stays : task.moves = false := by
    cases task <;> first | rfl | exact (waits _ rfl).elim | cases apart
  have motion := s.sameMotion_perform stays
  refine ⟨motion, motion.sameReports ?_⟩
  intro sensor
  cases task with
  | call call =>
    obtain ⟨board, observer, sink, trace, after, device⟩ := s.device_begin call
    have kept : s.device.gaugeAfter sensor = s.device.board.gauge sensor := by
      simp [Device.gaugeAfter, still]
    rw [perform, device]
    change board.gauge sensor = _
    rw [after sensor, kept, ite_self]
  | advance now => exact (waits now rfl).elim
  | settle now step rounds limit =>
    simp only [perform]
    split <;> rfl
  | tell id notice => rw [perform, device_tell]
  | leave | resume | answer => rfl
  | mark | retarget | clearOverrides | override => cases apart

namespace Untouched

variable {first : Device} (h : s.Untouched first past) (tasks : s.tasks = task :: rest)
  (calm : s.ticks → first.Staying)
include h

/-- A moment to which the device is moved leaves it as it was, and no notice of it is due. -/
theorem advance {now : Nanos} (given : s.moment? = some now) (calm : s.ticks → first.Staying) :
    (s.device.advance now).1.changing = false ∧ s.device.SameReports (s.device.advance now).1 ∧
      (s.device.Staying → (s.device.advance now).1.Staying) ∧ (s.device.advance now).2 = none := by
  by_cases past : now < s.device.time
  · rw [Device.advance, if_pos past]
    exact ⟨h.still, .refl _, id, rfl⟩
  · have staying := h.staying (calm ⟨now, given, Int.not_lt.mp past⟩)
    obtain ⟨later, same, silent⟩ := staying.advance now
    exact ⟨later.changing, same, fun _ => later, silent⟩

include tasks

theorem head : task.partOfChange = false := by
  apply h.apart task
  rw [tasks]
  exact List.mem_cons_self

include calm

theorem device_step : s.step.device.changing = false ∧ s.device.SameReports s.step.device ∧
    (s.device.Staying → s.step.device.Staying) := by
  rw [step_of_tasks tasks]
  by_cases moves : ∃ now, task = .advance now
  · obtain ⟨now, rfl⟩ := moves
    rw [device_advance]
    obtain ⟨still, same, staying, -⟩ := h.advance (moment?_of_tasks tasks) calm
    exact ⟨still, same, staying⟩
  · obtain ⟨motion, same⟩ := sameReports_perform (s := { s with tasks := rest }) (h.head tasks)
      (fun now this => moves ⟨now, this⟩) h.still
    exact ⟨motion.changing.trans h.still, same, fun staying => staying.congr motion⟩

omit calm in
theorem apart_step : ∀ next ∈ s.step.tasks, next.partOfChange = false := by
  intro next mem
  rw [step_of_tasks tasks] at mem
  have listed {other : Task} (mem : other ∈ task :: rest) : other ∈ s.tasks := by
    rw [tasks]
    exact mem
  rcases (leadsTo_perform { s with tasks := rest } task).mem mem with
    mem | apart | ⟨call, change, rfl, planned, -⟩
  · exact h.apart next (listed (List.mem_cons_of_mem _ mem))
  · exact apart
  · have waits := h.scripted.calls call (listed List.mem_cons_self)
    rw [plan_of_waits _ waits] at planned
    cases planned

/-- Nobody new is told anything, unless somebody is attached, who is greeted. -/
theorem notices_step_cases (id : ObserverId) :
    (notices id (s :: past) s.step = notices id past s ∧
        s.step.observers.length = s.observers.length) ∨
      s.step.observers.length = s.observers.length + 1 ∧
        notices id (s :: past) s.step =
          if s.observers.length = id then [.stabilized, .changing] else notices id past s := by
  by_cases attaches : ∃ observer, task = .call (.attach observer)
  · right
    obtain ⟨observer, rfl⟩ := attaches
    have greeted := dueTo_attach (s := { s with tasks := rest }) h.still observer id
    have step : s.step = { s with tasks := rest }.attach observer := step_of_tasks tasks
    refine ⟨?_, ?_⟩
    · rw [step]
      exact List.length_append
    · by_cases mine : s.observers.length = id
      · -- nobody with this number has been told anything before
        rw [if_pos mine] at greeted ⊢
        have before := h.strangers id (Nat.le_of_eq mine)
        rw [notices, List.append_eq_nil_iff, List.reverse_eq_nil_iff, dueTo_cons tasks,
          List.append_eq_nil_iff] at before
        obtain ⟨⟨none, nothing⟩, never⟩ := before
        rw [notices, step, greeted, edges_cons, none, never]
        change (_ :: _ :: dueTo id rest).reverse ++ _ = _
        rw [nothing]
        rfl
      · rw [if_neg mine] at greeted ⊢
        apply notices_step tasks
        rw [step]
        exact greeted
  · left
    have silent : ∀ now, task = .advance now → (s.device.advance now).2 = none := by
      rintro now rfl
      exact (h.advance (moment?_of_tasks tasks) calm).2.2.2
    have none (observer : Observer Script) (this : task = .call (.attach observer)) : False :=
      attaches ⟨observer, this⟩
    have unmarked : task ≠ .mark := by
      rintro rfl
      cases h.head tasks
    have due := dueEdges_perform { s with tasks := rest } unmarked silent none
    have observers := length_observers_perform (s := { s with tasks := rest }) none
    rw [← step_of_tasks tasks] at due observers
    refine ⟨notices_step tasks ?_, observers⟩
    have leads := leadsTo_perform { s with tasks := rest } task
    rw [← step_of_tasks tasks] at leads
    exact dueTo_of_leadsTo leads due

theorem step : s.step.Untouched first (s :: past) := by
  obtain ⟨still, same, staying⟩ := h.device_step tasks calm
  refine {
    scripted := h.scripted.step Call.hereditary_waits
    apart := h.apart_step tasks
    still
    same := h.same.trans same
    staying := fun first => staying (h.staying first)
    told := ?_
    strangers := ?_ }
  · intro id
    rcases h.notices_step_cases tasks calm id with ⟨kept, -⟩ | ⟨-, greeted⟩
    · rw [kept]
      exact h.told id
    · rw [greeted]
      split
      · exact List.suffix_rfl
      · exact h.told id
  · intro id bound
    rcases h.notices_step_cases tasks calm id with ⟨kept, observers⟩ | ⟨observers, greeted⟩
    · rw [kept]
      exact h.strangers id (observers ▸ bound)
    · rw [observers] at bound
      rw [greeted, if_neg (Nat.ne_of_lt bound)]
      exact h.strangers id (Nat.le_of_lt bound)

end Untouched

theorem Untouched.ask {first : Device} (h : s.Untouched first past) (idle : s.tasks = [])
    {call : Call} (waits : call.Waits) : (s.ask call).Untouched first (s :: past) := by
  have kept (id : ObserverId) : notices id (s :: past) (s.ask call) = notices id past s := by
    have none : s.edge? id = none := by rw [edge?, idle]
    rw [notices, notices, idle, edges_cons, none]
    rfl
  refine {
    scripted := h.scripted.ask waits
    apart := ?_
    still := h.still
    same := h.same
    staying := h.staying
    told := fun id => kept id ▸ h.told id
    strangers := fun id bound => (kept id).trans (h.strangers id bound) }
  intro task mem
  rw [List.mem_singleton.mp mem]
  rfl

/-! ## Runs -/

/-- In a run that began with the device `first`, nothing has happened: it was never marked, always
    reported the same, and was found at rest whenever it was moved to a moment, of which no notice
    was due. Everybody who has been told of the mark was told so while being attached: that it
    was changing, and then that it had stabilized. -/
structure Uneventful (first : Device) (past : List Session) (s : Session) : Prop where
  still : ∀ t ∈ s :: past, t.device.changing = false ∧ first.SameReports t.device
  stable : ∀ t ∈ past, ∀ now, t.moment? = some now → t.device.time ≤ now →
    (t.device.body.advance now).2 = .stable ∧ (t.device.surroundings.advance now).2 = .stable
  silent : ∀ t ∈ past, ∀ now, t.moment? = some now → (t.device.advance now).2 = none
  greeted : ∀ id, edges id past <:+ [.stabilized, .changing]

variable {origin : Session} {settings : Settings}

theorem untouched_start (started : Device.start? settings = .ok origin.device)
    (idle : origin.tasks = []) : origin.Untouched origin.device [] := by
  obtain ⟨device, -⟩ := Device.finite_of_start? started
  have none (id : ObserverId) : notices id [] origin = [] := by
    rw [notices, idle]
    rfl
  refine {
    scripted := ⟨?_, ?_, ?_⟩
    apart := ?_
    still := by rw [device]; rfl
    same := .refl _
    staying := id
    told := fun id => none id ▸ List.nil_suffix
    strangers := fun id _ => none id }
  · rw [idle]
    nofun
  · rintro id observer (attached | ⟨notice, mem⟩)
    · rw [device] at attached
      cases attached
    · rw [idle] at mem
      cases mem
  · rw [device]
    nofun
  · rw [idle]
    nofun

theorem Untouched.uneventful_start {first : Device} (h : s.Untouched first []) :
    s.Uneventful first [] where
  still t mem := by
    rw [List.mem_singleton.mp mem]
    exact ⟨h.still, h.same⟩
  stable t mem := by cases mem
  silent t mem := by cases mem
  greeted _ := List.nil_suffix

theorem Untouched.uneventful_step {first : Device} (h : s.Untouched first past)
    (before : s.Uneventful first past) (tasks : s.tasks = task :: rest)
    (calm : s.ticks → first.Staying) : s.step.Uneventful first (s :: past) := by
  have after := h.step tasks calm
  constructor
  case still => exact List.forall_mem_cons.mpr ⟨⟨after.still, after.same⟩, before.still⟩
  case stable =>
    refine List.forall_mem_cons.mpr ⟨?_, before.stable⟩
    intro now given due
    exact (h.staying (calm ⟨now, given, due⟩)).stable now
  case silent =>
    refine List.forall_mem_cons.mpr ⟨?_, before.silent⟩
    intro now given
    exact (h.advance given calm).2.2.2
  case greeted => exact fun id => (List.suffix_append _ _).trans (after.told id)

theorem Uneventful.ask {first : Device} (h : s.Uneventful first past) (idle : s.tasks = [])
    (call : Call) : (s.ask call).Uneventful first (s :: past) := by
  have waits (now : Nanos) : s.moment? ≠ some now := by
    rw [moment?, idle]
    exact (Option.some_ne_none now).symm
  have none (id : ObserverId) : s.edge? id = none := by rw [edge?, idle]
  constructor
  case still =>
    exact List.forall_mem_cons.mpr ⟨h.still s List.mem_cons_self, h.still⟩
  case stable =>
    exact List.forall_mem_cons.mpr ⟨fun now given => (waits now given).elim, h.stable⟩
  case silent =>
    exact List.forall_mem_cons.mpr ⟨fun now given => (waits now given).elim, h.silent⟩
  case greeted =>
    intro id
    rw [edges_cons, none]
    exact h.greeted id

/-- If time passes only when the first device is to stay at rest, nothing happens. -/
theorem History.uneventful (run : History Call.Waits origin past s)
    (started : Device.start? settings = .ok origin.device) (idle : origin.tasks = [])
    (calm : ∀ t ∈ past, t.ticks → origin.device.Staying) :
    s.Untouched origin.device past ∧ s.Uneventful origin.device past := by
  induction run with
  | start =>
    have untouched := untouched_start started idle
    exact ⟨untouched, untouched.uneventful_start⟩
  | @step past s task rest _ tasks ih =>
    obtain ⟨here, before⟩ := List.forall_mem_cons.mp calm
    obtain ⟨untouched, uneventful⟩ := ih before
    exact ⟨untouched.step tasks here, untouched.uneventful_step uneventful tasks here⟩
  | @ask past s call _ idle waits ih =>
    obtain ⟨untouched, uneventful⟩ := ih (List.forall_mem_cons.mp calm).2
    exact ⟨untouched.ask idle waits, uneventful.ask idle call⟩

/-- Surroundings with the targets that they were started with are found at rest only if those are
    finite. -/
theorem finiteStart_of_stable {d : Device} {now : Nanos}
    (same : (Device.start settings).SameReports d)
    (stable : (d.surroundings.advance now).2 = .stable) : settings.FiniteStart := by
  obtain ⟨field, conditions⟩ :=
    Surroundings.isFinite_of_atRest (Surroundings.atRest_of_stable stable)
  constructor
  case field =>
    have target : d.surroundings.field.target = settings.magneticField :=
      Value.vector.inj (same.values .magneticField .target)
    rw [← target]
    exact field
  case conditions =>
    intro c
    have target : (d.surroundings.conditions.get c).target =
        ((settings.conditions.map (Track.resting 0)).get c).target :=
      Value.scalar.inj (same.values (.condition c) .target)
    rw [Conditions.get_map] at target
    change _ = settings.conditions.get c at target
    rw [← target]
    exact conditions c

/-- A new device that nobody touches, but to let time pass and to listen or look, goes on as it
    started: unmarked, at rest whenever it is moved to a moment, with the same values, the same
    measurements under the same numbers, and without a notice to anybody but in greeting. It does so
    exactly if no time passes, or its surroundings started from finite numbers. -/
theorem uneventful_iff (started : Device.start? settings = .ok origin.device)
    (idle : origin.tasks = []) (run : History Call.Waits origin past s) :
    s.Uneventful origin.device past ↔ ((∃ t ∈ past, t.ticks) → settings.FiniteStart) := by
  obtain ⟨device, -⟩ := Device.finite_of_start? started
  have faultless := (Device.sound_of_start? started).body
  rw [device] at faultless
  constructor
  · rintro uneventful ⟨t, mem, now, given, due⟩
    obtain ⟨-, same⟩ := uneventful.still t (List.mem_cons_of_mem _ mem)
    rw [device] at same
    exact finiteStart_of_stable same (uneventful.stable t mem now given due).2
  · intro finite
    refine (run.uneventful started idle ?_).2
    intro t mem ticks
    rw [device]
    exact Device.staying_start faultless (finite ⟨t, mem, ticks⟩)

/-- A new device is looked at whenever a notice is told, and all time passes. -/
theorem uneventful_watchful :
    let attached := step^[11] (unused.ask (.attach watchful))
    let later := step^[3] (attached.ask (.advance 1000000000))
    let last := later.ask (.advance Nanos.greatest)
    ∃ past, History Call.Waits unused past (step^[3] last) ∧ (∃ t ∈ past, t.ticks) ∧
      (step^[3] last).Uneventful unused.device past := by
  intro attached later last
  have finite : Settings.FiniteStart {} := by
    refine ⟨by decide, ?_⟩
    intro c
    cases c <;> decide
  have reads : watchful.All (·.onlyReads = true) := by
    apply Observer.all_of_left
    change ∀ script ∈ watchful.left, ∀ call ∈ script, call.onlyReads = true
    decide
  have begun : History Call.Waits unused [] unused := .start
  have first := (begun.ask (.attach watchful) rfl reads).trail 11 (by decide +kernel)
  have second := (first.ask (.advance 1000000000) (by decide +kernel) trivial).trail 3
    (by decide +kernel)
  have third := (second.ask (.advance Nanos.greatest) (by decide +kernel) trivial).trail 3
    (by decide +kernel)
  refine ⟨_, third, ?_, (uneventful_iff start?_unused rfl third).mpr fun _ => finite⟩
  exact ⟨step^[1] last, List.mem_append_left _ (mem_trail.mpr ⟨1, by decide, rfl⟩),
    Nanos.greatest, by decide +kernel, by decide +kernel⟩

/-- Settings with nothing near the device, at an infinite distance. -/
def boundless : Settings where
  conditions :=
    { temperature := 25.0
      proximity := ⟨0x7f800000⟩
      light := 0
      pressure := 1013.25
      humidity := 0 }

/-- A device with these settings is made, and at moment zero, where it is already, somebody who only
    listens is told that it is changing. -/
theorem changing_boundless :
    let origin : Session := { unused with device := .start boundless }
    let attached := step^[7] (origin.ask (.attach attentive))
    let moved := step^[4] (attached.ask (.advance 0))
    Device.start? boundless = .ok origin.device ∧
      ∃ past, History Call.Waits origin past moved ∧ ¬ moved.Uneventful origin.device past ∧
        edges 0 past = [.changing, .stabilized, .changing] ∧ moved.tasks = [] ∧
        moved.device.changing = true := by
  intro origin attached moved
  have started : Device.start? boundless = .ok origin.device := by
    have faultless : boundless.fault? = none := by decide
    rw [Device.start?, faultless]
  have reads : attentive.All (·.onlyReads = true) := by
    apply Observer.all_of_left
    change ∀ script ∈ attentive.left, ∀ call ∈ script, call.onlyReads = true
    decide
  have begun : History Call.Waits origin [] origin := .start
  have first := (begun.ask (.attach attentive) rfl reads).trail 7 (by decide +kernel)
  have second := (first.ask (.advance 0) (by decide +kernel) trivial).trail 4 (by decide +kernel)
  have marked : moved.device.changing = true := by decide +kernel
  refine ⟨started, _, second, ?_, by decide +kernel, by decide +kernel, marked⟩
  intro uneventful
  have still := (uneventful.still moved List.mem_cons_self).1
  rw [marked] at still
  cases still

end Session

end Sensorium
