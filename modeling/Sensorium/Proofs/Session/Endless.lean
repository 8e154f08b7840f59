import Sensorium.Proofs.Session.Callbacks
import Sensorium.Proofs.Session.Notices

/-!
# Motion without end

A body with a velocity to reach that is not zero never comes to rest, and neither does one whose
tremor is not to end. So once such a target has been set, the device stays marked, and nobody is
told that it has stabilized, until the parameter, or the one that shares its motion, has a new
target. Time, other targets, overrides and readings make no difference, and neither does what
those do who listen.

While the target is being set it matters what an observer does that is told of the change to
come: if it only reads, the mark is still set when the target changes.
-/

namespace Sensorium

/-- Targets with which a body never comes to rest: velocities, and bounds of the tremor, of which
    a component is not zero. -/
structure Parameter.Perpetual (p : Parameter) (value : Value) : Prop where
  parameter : p = .velocity ∨ p = .ambientMotion
  component : ∃ x ∈ value.toList, x.eqv 0 = false

/-! ## Bodies and devices -/

theorem Vec3.eqv_zero_of_component {v : Vec3 Single} (component : ∃ x ∈ v.toList, x.eqv 0 = false) :
    v.eqv .zero = false := by
  obtain ⟨x, mem, other⟩ := component
  simp only [Vec3.toList, List.mem_cons, List.not_mem_nil, or_false] at mem
  simp only [Vec3.eqv, Vec3.zero, Vec3.all, Bool.and_eq_false_iff]
  rcases mem with rfl | rfl | rfl
  · exact .inl (.inl other)
  · exact .inl (.inr other)
  · exact .inr other

namespace Body

variable {b : Body}

/-- A body that is pulled to a position has the target velocity zero, so this one is not. -/
theorem not_atRest_of_velocity (moving : (b.velocityAs .target).eqv .zero = false) :
    b.atRest = false := by
  have aim : b.translationAtRest = false := by
    unfold translationAtRest
    cases found : b.motion.aim with
    | position target =>
      have still : b.velocityAs .target = .zero := by simp only [velocityAs, found]
      have zero : (Vec3.zero : Vec3 Single).eqv .zero = true := by decide
      rw [still, zero] at moving
      cases moving
    | velocity target =>
      have goal : b.velocityAs .target = target := by simp only [velocityAs, found]
      rw [goal] at moving
      simp only [moving, Bool.false_and]
  rw [atRest, aim, Bool.false_and, Bool.false_and]

theorem not_atRest_of_tremor (trembling : b.tremor.target.eqv 0 = false) : b.atRest = false := by
  rw [atRest, tremorAtRest, trembling, Bool.false_and, Bool.and_false]

end Body

namespace Device

variable {d e : Device} {p : Parameter} {value : Value}

theorem not_atRest (perpetual : p.Perpetual (d.value p .target)) : d.body.atRest = false := by
  obtain ⟨rfl | rfl, component⟩ := perpetual
  · exact Body.not_atRest_of_velocity (Vec3.eqv_zero_of_component component)
  · obtain ⟨x, mem, other⟩ := component
    rw [List.mem_singleton.mp mem] at other
    exact Body.not_atRest_of_tremor other

theorem value_retarget (q : Parameter) (approach : Approach) (p : Parameter) (aspect : Aspect) :
    (d.retarget q value approach).value p aspect =
      (d.make (.target q value approach)).value p aspect := by
  apply value_congr <;> cases q <;> rfl

/-- The target is read off what the parameter moves. -/
theorem target_congr (perpetual : p.Perpetual value) (motion : e.body.motion = d.body.motion)
    (tremor : e.body.tremor = d.body.tremor) : e.value p .target = d.value p .target := by
  rcases perpetual.parameter with rfl | rfl
  · simp only [Device.value, Body.velocityAs, motion]
  · simp only [Device.value, Body.tremorAs, tremor]

/-- The device is marked, and a parameter has this target. -/
structure Driven (d : Device) (p : Parameter) (value : Value) : Prop where
  target : d.value p .target = value
  changing : d.changing = true

theorem Driven.congr (h : d.Driven p value) (same : d.SameMotion e) : e.Driven p value := by
  refine ⟨?_, same.changing.trans h.changing⟩
  rw [value_congr same.body same.surroundings]
  exact h.target

/-- With a target that lasts, time does not bring a device to rest. -/
theorem Driven.advance (h : d.Driven p value) (perpetual : p.Perpetual value) (now : Nanos) :
    (d.advance now).1.Driven p value ∧ (d.advance now).2 = none := by
  by_cases past : now < d.time
  · rw [Device.advance, if_pos past]
    exact ⟨h, rfl⟩
  · have target : { d with body := { d.body with now } }.value p .target = value := by
      rw [← h.target]
      exact target_congr perpetual rfl rfl
    have moving := not_atRest (target.symm ▸ perpetual)
    have body : d.body.advance now = ({ d.body with now }, .changing) := by
      simp only [Body.advance, moving, Bool.false_eq_true, if_false]
    have later : d.advance now =
        ({ d with
            body := { d.body with now }
            surroundings := (d.surroundings.advance now).1
            time := now }, none) := by
      simp only [Device.advance, if_neg past, body, reduceCtorEq, false_and, if_false,
        markChanging, h.changing, if_true]
    rw [later]
    refine ⟨⟨?_, h.changing⟩, rfl⟩
    rw [← target]
    exact target_congr perpetual rfl rfl

/-- A new target of another parameter leaves this one as it is. -/
theorem Driven.retarget (h : d.Driven p value) {q : Parameter} (other : p.group ≠ q.group)
    (goal : Value) (approach : Approach) : (d.retarget q goal approach).Driven p value := by
  refine ⟨?_, ?_⟩
  · rw [value_retarget, target_make_other d other]
    exact h.target
  · rw [retarget_eq]
    exact h.changing

/-- A marked device has the target that was set. -/
theorem driven_retarget (perpetual : p.Perpetual value) (kind : value.kind = p.kind)
    (changing : d.changing = true) (approach : Approach) :
    (d.retarget p value approach).Driven p value := by
  have angles : p ≠ .rotation := by
    rintro rfl
    rcases perpetual.parameter with same | same <;> cases same
  refine ⟨?_, ?_⟩
  · rw [value_retarget, target_make kind angles]
  · rw [retarget_eq]
    exact changing

end Device

namespace Session

variable {s : Session} {p : Parameter} {value : Value} {approach : Approach} {others : List Task}

/-! ## Who is told what -/

/-- An observer that is told something next only reads then. -/
def discreet (s : Session) : Bool :=
  match s.tasks with
  | .tell id notice :: _ =>
    match s.observers[id]?.bind (·.scripts notice) with
    | some (script :: _) => script.all Call.onlyReads
    | _ => true
  | _ => true

theorem reads_of_discreet {id : ObserverId} {notice : Notice} {rest : List Task}
    (discreet : s.discreet = true) (tasks : s.tasks = .tell id notice :: rest) :
    ∀ observer script later, s.observers[id]? = some observer →
      observer.scripts notice = some (script :: later) →
      ∀ call ∈ script, call.onlyReads = true := by
  intro observer script later found left
  simp only [Session.discreet, tasks, found, Option.bind_some, left] at discreet
  exact List.all_eq_true.mp discreet

/-- Tasks that move nothing and set no target, and lead to no others as long as observers only
    read. -/
def Mild (task : Task) : Prop :=
  Quiet task ∨ (∃ id notice, task = .tell id notice) ∨ task = .clearOverrides ∨
    ∃ answer, task = .answer answer

theorem mild_tell (id : ObserverId) (notice : Notice) :
    ∀ task ∈ [Task.tell id notice], Mild task := by
  intro task mem
  rw [List.mem_singleton.mp mem]
  exact .inr (.inl ⟨id, notice, rfl⟩)

/-- A notice that is due is mild. -/
theorem mild_announce (s : Session) (due : Option Notice) :
    ∃ front, (s.announce due).tasks = front ++ s.tasks ∧ ∀ task ∈ front, Mild task := by
  rcases s.announce_cases due with ⟨-, same⟩ | ⟨notice, id, -, -, told⟩
  · exact ⟨[], by rw [same]; rfl, nofun⟩
  · exact ⟨[.tell id notice], by rw [told]; rfl, mild_tell id notice⟩

/-- A mild task leads to mild ones. -/
theorem mild_step {task : Task} {rest : List Task} (tasks : s.tasks = task :: rest)
    (mild : Mild task) (discreet : s.discreet = true) :
    (∃ front, s.step.tasks = front ++ rest ∧ ∀ next ∈ front, Mild next) ∧
      s.device.SameMotion s.step.device := by
  rw [step_of_tasks tasks]
  rcases mild with quiet | ⟨id, notice, rfl⟩ | rfl | ⟨answer, rfl⟩
  · have still : task.moves = false := by
      rcases quiet with ⟨notice, rfl⟩ | ⟨call, -, rfl⟩ <;> rfl
    have done := perform_quiet (s := { s with tasks := rest }) quiet
    exact ⟨⟨[], done.1, nofun⟩, sameMotion_perform { s with tasks := rest } still⟩
  · refine ⟨?_, sameMotion_perform { s with tasks := rest } rfl⟩
    obtain ⟨front, next, -, quiet⟩ := tasks_tell (s := { s with tasks := rest }) id notice
    have reads := reads_of_discreet discreet tasks
    exact ⟨front, next, fun task mem => .inl (quiet reads task mem)⟩
  · refine ⟨?_, sameMotion_perform { s with tasks := rest } rfl⟩
    exact mild_announce { s with device := s.device.clearOverrides, tasks := rest } _
  · exact ⟨⟨[], rfl, nofun⟩, sameMotion_perform { s with tasks := rest } rfl⟩

/-- While mild tasks come first, they do so after a step. -/
theorem mild_step_front {front back : List Task} (busy : front ≠ [])
    (mild : ∀ task ∈ front, Mild task) (tasks : s.tasks = front ++ back)
    (discreet : s.discreet = true) :
    ∃ left, (∀ task ∈ left, Mild task) ∧ s.step.tasks = left ++ back ∧
      s.device.SameMotion s.step.device := by
  cases front with
  | nil => exact (busy rfl).elim
  | cons task front =>
    obtain ⟨⟨before, next, calm⟩, same⟩ := mild_step tasks (mild task List.mem_cons_self) discreet
    refine ⟨before ++ front, ?_, ?_, same⟩
    · intro other mem
      rcases List.mem_append.mp mem with mem | mem
      · exact calm other mem
      · exact mild other (List.mem_cons_of_mem _ mem)
    · rw [next, List.append_assoc]
      rfl

/-- Nobody is to be told that the device has stabilized; or this is done first, as soon as those
    who were told something before have read, and the device is not marked. -/
inductive Punctual (s : Session) : Prop
  | silent (none : .stabilized ∉ dueEdges s.tasks)
  | due (id : ObserverId) (front back : List Task) (mild : ∀ task ∈ front, Mild task)
      (tasks : s.tasks = front ++ .tell id .stabilized :: back)
      (none : .stabilized ∉ dueEdges back) (still : s.device.changing = false)

/-- When the mark has changed, this is told next. -/
theorem punctual_announce {before : Device} {due : Option Notice}
    (announces : before.Announces s.device due) (none : .stabilized ∉ dueEdges s.tasks) :
    (s.announce due).Punctual := by
  rcases s.announce_cases due with ⟨-, same⟩ | ⟨notice, id, rfl, -, told⟩
  · rw [same]
    exact .silent none
  · rw [told]
    rcases announces with ⟨nothing, -⟩ | ⟨mark, -⟩
    · cases nothing
    · cases mark
      cases still : s.device.changing with
      | false => exact .due id [] s.tasks nofun rfl none still
      | true =>
        refine .silent ?_
        change Notice.stabilized ∉ Notice.changing :: dueEdges s.tasks
        exact fun mem => none (List.mem_of_ne_of_mem (by decide) mem)

/-- Whoever is attached is greeted at once. -/
theorem punctual_attach (none : .stabilized ∉ dueEdges s.tasks) (observer : Observer Script) :
    (s.attach observer).Punctual := by
  cases mark : s.device.changing with
  | true =>
    refine .silent ?_
    simp only [attach, first, mark, if_true]
    change Notice.stabilized ∉ Notice.changing :: dueEdges s.tasks
    exact fun mem => none (List.mem_of_ne_of_mem (by decide) mem)
  | false =>
    refine .due s.observers.length [.tell s.observers.length .changing]
      (.tell s.observers.length .targetChanged :: .answer .done :: s.tasks)
      (mild_tell _ _) ?_ none mark
    simp only [attach, first, mark]
    rfl

/-- A task may make it due to tell that the device has stabilized, which is then done next. -/
theorem punctual_perform (task : Task) (none : .stabilized ∉ dueEdges s.tasks) :
    (s.perform task).Punctual := by
  have silent (same : dueEdges (s.perform task).tasks = dueEdges s.tasks) :
      (s.perform task).Punctual := by
    refine .silent ?_
    rw [same]
    exact none
  cases task with
  | call call =>
    by_cases attaches : ∃ observer, call = .attach observer
    · obtain ⟨observer, rfl⟩ := attaches
      exact punctual_attach none observer
    · apply silent (s.dueEdges_perform (by simp) (by simp) ?_)
      rintro observer ⟨⟩
      exact attaches ⟨observer, rfl⟩
  | mark =>
    exact punctual_announce (s := { s with device := s.device.markChanging.1 })
      s.device.announces_markChanging none
  | advance now =>
    exact punctual_announce (s := { s with device := (s.device.advance now).1 })
      (s.device.announces_advance now) none
  | _ => exact silent (s.dueEdges_perform (by simp) (by simp) (by simp))

/-- As long as the device is marked, observers may do anything. -/
theorem Punctual.step (h : s.Punctual) (allowed : s.discreet = true ∨ s.device.changing = true) :
    s.step.Punctual := by
  cases h with
  | silent none =>
    cases tasks : s.tasks with
    | nil =>
      rw [step_of_no_tasks tasks]
      exact .silent none
    | cons task rest =>
      rw [step_of_tasks tasks]
      apply punctual_perform (s := { s with tasks := rest })
      rw [tasks] at none
      exact fun mem => none (dueEdges_append [task] rest ▸ List.mem_append_right _ mem)
  | due id front back mild tasks none still =>
    have discreet : s.discreet = true := by
      rcases allowed with discreet | changing
      · exact discreet
      · rw [still] at changing
        cases changing
    by_cases told : front = []
    · rw [told] at tasks
      rw [step_of_tasks tasks]
      exact punctual_perform (s := { s with tasks := back }) _ none
    · obtain ⟨left, mild, next, same⟩ := mild_step_front told mild tasks discreet
      exact .due id left back mild next none (same.changing.trans still)

theorem History.punctual {asked : Call → Prop} {origin : Session} {past : List Session}
    (run : History asked origin past s) (idle : origin.tasks = [])
    (discreet : ∀ t ∈ past, t.discreet = true) : s.Punctual := by
  induction run with
  | start =>
    refine .silent ?_
    rw [idle]
    exact List.not_mem_nil
  | step _ _ _ _ ih =>
    refine (ih fun t mem => discreet t (List.mem_cons_of_mem _ mem)).step (.inl ?_)
    exact discreet _ List.mem_cons_self
  | ask call => exact .silent List.not_mem_nil

/-! ## While a target lasts -/

/-- The next step sets the target of a parameter, or of one that shares its motion. -/
def redirects (p : Parameter) (s : Session) : Bool :=
  match s.tasks with
  | .retarget q _ _ :: _ => q.group = p.group
  | _ => false

/-- The parameter has this target, the device is marked and would be so at any moment to which it
    were moved, and nobody is to be told that it has stabilized. -/
structure Endless (p : Parameter) (value : Value) (s : Session) : Prop where
  target : s.device.value p .target = value
  changing : s.device.changing = true
  stays : ∀ now, (s.device.advance now).1.changing = true ∧ (s.device.advance now).2 = none
  silent : ∀ id, Task.tell id .stabilized ∉ s.tasks

theorem endless_of_driven (driven : s.device.Driven p value) (perpetual : p.Perpetual value)
    (punctual : s.Punctual) : s.Endless p value where
  target := driven.target
  changing := driven.changing
  stays now := ⟨(driven.advance perpetual now).1.changing, (driven.advance perpetual now).2⟩
  silent id mem := by
    cases punctual with
    | silent none => exact none (List.mem_filterMap.mpr ⟨_, mem, rfl⟩)
    | due id front back mild tasks none still =>
      rw [driven.changing] at still
      cases still

/-- A step leaves the device in motion, unless it sets the target anew. -/
theorem driven_step (driven : s.device.Driven p value) (perpetual : p.Perpetual value)
    (kept : s.redirects p = false) : s.step.device.Driven p value := by
  cases tasks : s.tasks with
  | nil =>
    rw [step_of_no_tasks tasks]
    exact driven
  | cons task rest =>
    rw [step_of_tasks tasks]
    by_cases moves : task.moves = true
    · cases task with
      | mark =>
        rw [device_mark]
        exact ⟨driven.target, rfl⟩
      | retarget q goal approach =>
        have other : p.group ≠ q.group := by
          intro same
          simp only [redirects, tasks, same, decide_true] at kept
          cases kept
        exact driven.retarget other goal approach
      | advance now =>
        rw [device_advance]
        exact (driven.advance perpetual now).1
      | _ => cases moves
    · exact driven.congr (sameMotion_perform { s with tasks := rest } (Bool.eq_false_iff.mpr moves))

/-- In a run, the device is in motion until its target is set anew. -/
theorem History.driven {asked : Call → Prop} {origin : Session} {past : List Session}
    (run : History asked origin past s) (driven : origin.device.Driven p value)
    (punctual : origin.Punctual) (perpetual : p.Perpetual value)
    (kept : ∀ t ∈ past, t.redirects p = false) : s.device.Driven p value ∧ s.Punctual := by
  induction run with
  | start => exact ⟨driven, punctual⟩
  | step _ _ _ _ ih =>
    obtain ⟨driven, punctual⟩ := ih fun t mem => kept t (List.mem_cons_of_mem _ mem)
    exact ⟨driven_step driven perpetual (kept _ List.mem_cons_self),
      punctual.step (.inr driven.changing)⟩
  | ask call _ _ _ ih =>
    obtain ⟨driven, -⟩ := ih fun t mem => kept t (List.mem_cons_of_mem _ mem)
    exact ⟨driven.congr ⟨rfl, rfl, rfl⟩, .silent List.not_mem_nil⟩

/-! ## Setting the target -/

/-- What is left to do of a call that sets a target, in the midst of others, when the device has
    been marked and those who were to be told have been. -/
def setting (p : Parameter) (value : Value) (approach : Approach) (others : List Task) :
    List Task :=
  .retarget p (value.conform p.kind) approach :: .clearOverrides :: .answer .done :: others

/-- How far the call has got before its target is set. Before the device is marked, a sink may do
    anything. -/
inductive Underway (p : Parameter) (value : Value) (approach : Approach) (others : List Task)
    (s : Session) : Prop
  | asked (tasks : s.tasks = .call (.setTarget p value approach) :: others)
  | recorded (front : List Task)
      (tasks : s.tasks = front ++ .mark :: setting p value approach others)
  | marked (front : List Task) (mild : ∀ task ∈ front, Mild task)
      (tasks : s.tasks = front ++ setting p value approach others)
      (changing : s.device.changing = true)

/-- The target has been set, and the call has yet to return. -/
structure Returning (p : Parameter) (value : Value) (others : List Task) (s : Session) : Prop where
  tasks : ∃ front, (∀ task ∈ front, Mild task) ∧ s.tasks = front ++ others
  driven : s.device.Driven p (value.conform p.kind)

theorem underway_of_asked (tasks : s.tasks = .call (.setTarget p value approach) :: others) :
    Underway p value approach others s.step := by
  rw [step_of_tasks tasks, perform]
  have makes : (Call.setTarget p value approach).change? =
      some (.target p (value.conform p.kind) approach) := rfl
  rcases begin_of_change? (s := { s with tasks := others }) makes with
    begun | ⟨id, event, -, begun⟩
  · rw [begun]
    exact .recorded [] rfl
  · rw [begun]
    rcases ({ s with tasks := others }.carryOut [.target p (value.conform p.kind) approach]
      .done).record_cases id event with noted | ⟨script, later, -, entered⟩
    · rw [noted]
      exact .recorded [] rfl
    · rw [entered]
      refine .recorded (script.map .call ++ [.resume]) ?_
      rw [List.append_assoc]
      rfl

theorem underway_of_recorded {front : List Task}
    (tasks : s.tasks = front ++ .mark :: setting p value approach others) :
    Underway p value approach others s.step := by
  cases front with
  | nil =>
    obtain ⟨front, next, mild⟩ := mild_announce
      { s with
        device := s.device.markChanging.1
        tasks := setting p value approach others } s.device.markChanging.2
    rw [step_of_tasks tasks]
    refine .marked front mild next ?_
    rw [device_mark]
  | cons task front =>
    -- whatever a script of the sink leads to comes before the mark
    let alone := { s with tasks := task :: front }
    have above : s = alone.above (.mark :: setting p value approach others) := by
      simp only [alone, Session.above, ← tasks]
    rw [above, step_above (List.cons_ne_nil task front)]
    exact .recorded alone.step.tasks rfl

theorem returning_of_setting (perpetual : p.Perpetual (value.conform p.kind))
    (tasks : s.tasks = setting p value approach others) (changing : s.device.changing = true) :
    Returning p value others s.step := by
  rw [step_of_tasks tasks]
  refine ⟨⟨[.clearOverrides, .answer .done], ?_, rfl⟩,
    Device.driven_retarget perpetual (value.kind_conform p.kind) changing approach⟩
  intro task mem
  rcases List.mem_cons.mp mem with rfl | mem
  · exact .inr (.inr (.inl rfl))
  · rw [List.mem_singleton.mp mem]
    exact .inr (.inr (.inr ⟨.done, rfl⟩))

/-- A step takes the call on its way, or sets the target. -/
theorem Underway.step (h : Underway p value approach others s)
    (perpetual : p.Perpetual (value.conform p.kind)) (discreet : s.discreet = true) :
    Underway p value approach others s.step ∨
      s.tasks = setting p value approach others ∧ Returning p value others s.step := by
  cases h with
  | asked tasks => exact .inl (underway_of_asked tasks)
  | recorded front tasks => exact .inl (underway_of_recorded tasks)
  | marked front mild tasks changing =>
    by_cases told : front = []
    · rw [told] at tasks
      exact .inr ⟨tasks, returning_of_setting perpetual tasks changing⟩
    · obtain ⟨left, mild, next, same⟩ := mild_step_front told mild tasks discreet
      exact .inl (.marked left mild next (same.changing.trans changing))

theorem Returning.step (h : Returning p value others s) (discreet : s.discreet = true)
    (busy : ∃ front, front ≠ [] ∧ s.tasks = front ++ others) :
    Returning p value others s.step := by
  obtain ⟨⟨front, mild, tasks⟩, driven⟩ := h
  obtain ⟨left, some, same⟩ := busy
  rw [← List.append_cancel_right (tasks.symm.trans same)] at some
  obtain ⟨left, mild, next, same⟩ := mild_step_front some mild tasks discreet
  exact ⟨⟨left, mild, next⟩, driven.congr same⟩

/-- The call has not returned before its target is set. -/
theorem Underway.tasks_ne (h : Underway p value approach others s) : s.tasks ≠ others := by
  have longer (front rest : List Task) {task : Task}
      (tasks : s.tasks = front ++ task :: (rest ++ others)) : s.tasks ≠ others := by
    intro returned
    have length := congrArg List.length (returned.symm.trans tasks)
    simp only [List.length_append, List.length_cons] at length
    omega
  cases h with
  | asked tasks => exact longer [] [] tasks
  | recorded front tasks => exact longer front [_, _, _] tasks
  | marked front mild tasks => exact longer front [_, _] tasks

section

variable (tasks : s.tasks = .call (.setTarget p value approach) :: others)
  (perpetual : p.Perpetual (value.conform p.kind)) {count : Nat}
  (returned : s.Returns others count) (discreet : ∀ t ∈ s.trail count, t.discreet = true)
include tasks perpetual returned discreet

/-- On its way, the call is underway until a step sets the target, and returning from then on. -/
theorem underway_or_returning {k : Nat} (bound : k ≤ count) :
    Underway p value approach others (step^[k] s) ∨
      ∃ set < k, (step^[set] s).tasks = setting p value approach others ∧
        ∀ j, set < j → j ≤ k → Returning p value others (step^[j] s) := by
  induction k with
  | zero => exact .inl (.asked tasks)
  | succ k ih =>
    have reads := discreet _ (mem_trail.mpr ⟨k, bound, rfl⟩)
    rcases ih (Nat.le_of_lt bound) with underway | ⟨set, earlier, sets, returning⟩
    · rw [Function.iterate_succ_apply']
      rcases underway.step perpetual reads with underway | ⟨sets, returning⟩
      · exact .inl underway
      · refine .inr ⟨k, Nat.lt_succ_self k, sets, ?_⟩
        intro j after upTo
        obtain rfl := Nat.le_antisymm upTo after
        rw [Function.iterate_succ_apply']
        exact returning
    · refine .inr ⟨set, Nat.lt_succ_of_lt earlier, sets, ?_⟩
      intro j after upTo
      rcases Nat.lt_or_eq_of_le upTo with upTo | rfl
      · exact returning j after (Nat.le_of_lt_succ upTo)
      · rw [Function.iterate_succ_apply']
        exact (returning k earlier (Nat.le_refl k)).step reads (returned.busy k bound)

/-- At some point on its way the call sets the target. -/
theorem exists_setting :
    ∃ set < count, (step^[set] s).tasks = setting p value approach others ∧
      ∀ j, set < j → j ≤ count → Returning p value others (step^[j] s) := by
  rcases underway_or_returning tasks perpetual returned discreet (Nat.le_refl count) with
    underway | set
  · exact (underway.tasks_ne returned.tasks).elim
  · exact set

end

/-- A call that gives the body a velocity to reach that is not zero, or a tremor that is not to
    end, returns, and from the step on that sets the target the device is in motion until it is set
    anew: it is marked, no moment to which it is moved brings it to rest, and nobody is told that it
    has stabilized, not even while being attached. The call may be made at any point of a run. Sinks
    may do anything, and so may observers once the call has returned; up to then they only read
    when they are told something. -/
theorem never_stabilizes {asked : Call → Prop} {origin : Session} {past : List Session}
    (run : History asked origin past s) (idle : origin.tasks = [])
    (tasks : s.tasks = .call (.setTarget p value approach) :: others)
    (perpetual : p.Perpetual (value.conform p.kind)) :
    ∃ count, s.Returns others count ∧
      ((∀ t ∈ s.trail count ++ past, t.discreet = true) →
        (∃ set < count, (step^[set] s).tasks = setting p value approach others ∧
          ∀ k, set < k → k ≤ count → (step^[k] s).Endless p (value.conform p.kind)) ∧
        ∀ later t, History asked (step^[count] s) later t →
          (∀ u ∈ later, u.redirects p = false) → t.Endless p (value.conform p.kind)) := by
  obtain ⟨count, returned, -⟩ := returns tasks
  refine ⟨count, returned, ?_⟩
  intro discreet
  have punctual (k : Nat) (bound : k ≤ count) : (step^[k] s).Punctual := by
    have busy (j : Nat) (earlier : j < k) : (step^[j] s).tasks ≠ [] :=
      returned.tasks_ne_nil (Nat.lt_of_lt_of_le earlier bound)
    refine (run.trail k busy).punctual idle ?_
    intro t mem
    apply discreet t
    rcases List.mem_append.mp mem with mem | mem
    · obtain ⟨j, earlier, rfl⟩ := mem_trail.mp mem
      exact List.mem_append_left _ (mem_trail.mpr ⟨j, Nat.lt_of_lt_of_le earlier bound, rfl⟩)
    · exact List.mem_append_right _ mem
  obtain ⟨set, earlier, sets, returning⟩ := exists_setting tasks perpetual returned
    fun t mem => discreet t (List.mem_append_left _ mem)
  refine ⟨⟨set, earlier, sets, ?_⟩, ?_⟩
  · intro k after bound
    exact endless_of_driven (returning k after bound).driven perpetual (punctual k bound)
  · intro later t after kept
    have here := returning count earlier (Nat.le_refl count)
    obtain ⟨driven, still⟩ :=
      after.driven here.driven (punctual count (Nat.le_refl count)) perpetual kept
    exact endless_of_driven driven perpetual still

/-- An observer that reads whenever it is told something. -/
def watchful : Observer Script where
  changing := some [[.getAll], [.survey .gyroscope]]
  stabilized := some [[.pose]]
  targetChanged := some [[.readAll], [.get .velocity .target]]

/-- A new device that is watched is to move up. -/
def rising : Session :=
  (step^[11] (unused.ask (.attach watchful))).ask
    (.setTarget .velocity (.vector ⟨0, 1, 0⟩) .smooth)

/-- It still does when a second has passed, its tremor is to end, and all time has passed. -/
theorem never_stabilizes_rising :
    let still := (step^[11] rising).ask (.advance 1000000000)
    let calm := (step^[3] still).ask (.setTarget .ambientMotion (.scalar 0) .smooth)
    let late := (step^[6] calm).ask (.advance Nanos.greatest)
    (step^[3] late).tasks = [] ∧ (step^[3] late).device.time = Nanos.greatest ∧
      (step^[3] late).Endless .velocity (.vector ⟨0, 1, 0⟩) := by
  intro still calm late
  have perpetual : Parameter.velocity.Perpetual (.vector ⟨0, 1, 0⟩) :=
    ⟨.inl rfl, 1, by decide, by decide⟩
  have begun : History (fun _ => True) unused [] unused := .start
  have attached := (begun.ask (.attach watchful) rfl trivial).trail 11 (by decide +kernel)
  have run := attached.ask (.setTarget .velocity (.vector ⟨0, 1, 0⟩) .smooth)
    (by decide +kernel) trivial
  obtain ⟨count, returned, endless⟩ := never_stabilizes run rfl rfl perpetual
  have busy : ∀ k < 11, (step^[k] rising).tasks ≠ [] := by decide +kernel
  have done : rising.Returns [] 11 := by
    refine ⟨by decide +kernel, ?_⟩
    intro k bound
    exact ⟨_, busy k bound, (List.append_nil _).symm⟩
  obtain rfl := returned.unique done
  have after : History (fun _ => True) (step^[11] rising) [] (step^[11] rising) := .start
  have first := (after.ask (.advance 1000000000) (by decide +kernel) trivial).trail 3
    (by decide +kernel)
  have second := (first.ask (.setTarget .ambientMotion (.scalar 0) .smooth) (by decide +kernel)
    trivial).trail 6 (by decide +kernel)
  have third := (second.ask (.advance Nanos.greatest) (by decide +kernel) trivial).trail 3
    (by decide +kernel)
  exact ⟨by decide +kernel, by decide +kernel,
    (endless (by decide +kernel)).2 _ _ third (by decide +kernel)⟩

end Session

end Sensorium
