import Sensorium.Proofs.Session.Answers
import Sensorium.Proofs.Session.Reachable

/-!
# Calls carry out their plans

What a call is to change is laid down when it begins: `Session.plan`. Between its changes observers
and sinks may work off scripts, with calls that have plans of their own. A script is worked off one
level deeper than what it was begun in, so the changes that a call makes itself are those that are
made at its own level. Until it returns these are the changes of its plan, in their order and no
others: `Session.returns_made`.
-/

namespace Sensorium

namespace Task

/-- True for the tasks by which a call goes on at its own level. -/
def goesOn : Task → Bool
  | .call _ | .leave _ | .resume => false
  | _ => true

/-- The change that a task makes. -/
def change? : Task → Option Change
  | .retarget p value approach => some (.target p value approach)
  | .override sensor value => some (.override sensor value)
  | _ => none

end Task

theorem goesOn_changes (changes : List Change) (answer : Answer) :
    ∀ task ∈ changes.flatMap Change.tasks ++ [.answer answer], task.goesOn = true := by
  intro task mem
  rcases List.mem_append.mp mem with mem | mem
  · have silent := silent_changes changes task mem
    cases task <;> first | rfl | cases silent
  · rw [List.mem_singleton.mp mem]
    rfl

/-- The tasks of some changes make just these. -/
theorem change?_changes (changes : List Change) (answer : Answer) :
    (changes.flatMap Change.tasks ++ [Task.answer answer]).filterMap Task.change? = changes := by
  induction changes with
  | nil => rfl
  | cons change changes ih =>
    rw [List.flatMap_cons, List.append_assoc, List.filterMap_append, ih]
    cases change <;> rfl

/-! ## What a plan holds -/

theorem Event.changes_ne_nil_iff {event : Event} {p : Parameter} :
    event.changes p ≠ [] ↔ event.current.isSome = true ∨ event.target.isSome = true := by
  unfold changes currentAs targetAs
  cases event.current <;> cases event.target <;> simp

/-- Playing back an event sets targets of the parameter that it is about, if it has a payload. -/
theorem Event.target_mem_plan_iff {event : Event} {p : Parameter} :
    (∃ value approach, .target p value approach ∈ event.plan) ↔
      event.parameter? = some p ∧ (event.current.isSome = true ∨ event.target.isSome = true) := by
  rw [← changes_ne_nil_iff (p := p), plan]
  cases about : event.parameter? with
  | none => simp
  | some q =>
    constructor
    · rintro ⟨value, approach, mem⟩
      obtain ⟨given, listed, same⟩ := List.mem_map.mp mem
      cases same
      exact ⟨rfl, List.ne_nil_of_mem listed⟩
    · rintro ⟨same, some⟩
      cases same
      obtain ⟨⟨value, approach⟩, listed⟩ := List.exists_mem_of_ne_nil _ some
      exact ⟨value, approach, List.mem_map_of_mem listed⟩

/-- Loading a state sets targets of position and velocity in any case, and otherwise of the
    parameters that its events are about, if they have a payload. -/
theorem SavedState.target_mem_plan_iff {state : SavedState} {p : Parameter} :
    (∃ value approach, .target p value approach ∈ state.plan) ↔
      p = .position ∨ p = .velocity ∨ ∃ event ∈ state.events, event.parameter? = some p ∧
        (event.current.isSome = true ∨ event.target.isSome = true) := by
  constructor
  · rintro ⟨value, approach, mem⟩
    rcases List.mem_append.mp mem with mem | mem
    · rcases List.mem_append.mp mem with mem | mem
      · obtain ⟨event, listed, mem⟩ := List.mem_flatMap.mp mem
        unfold immediate at mem
        split at mem
        · cases mem
        · cases mem
        · exact .inr (.inr ⟨event, listed, Event.target_mem_plan_iff.mp ⟨value, approach, mem⟩⟩)
      · rcases List.mem_cons.mp mem with same | mem
        · cases same
          exact .inl rfl
        · cases List.mem_singleton.mp mem
          exact .inr (.inl rfl)
    · split at mem
      · cases List.mem_singleton.mp mem
        exact .inl rfl
      · cases List.mem_singleton.mp mem
        exact .inr (.inl rfl)
  · intro set
    by_cases motion : p = .position ∨ p = .velocity
    · rcases motion with rfl | rfl
      · exact ⟨_, .step, List.mem_append_left _ (List.mem_append_right _ List.mem_cons_self)⟩
      · exact ⟨_, .step, List.mem_append_left _
          (List.mem_append_right _ (List.mem_cons_of_mem _ List.mem_cons_self))⟩
    · obtain ⟨apart, apart'⟩ := not_or.mp motion
      obtain ⟨event, listed, about, payload⟩ := (set.resolve_left apart).resolve_left apart'
      obtain ⟨value, approach, mem⟩ := Event.target_mem_plan_iff.mpr ⟨about, payload⟩
      have now : immediate event = event.plan := by
        unfold immediate
        split
        · rename_i place
          rw [about] at place
          exact (apart (Option.some.inj place)).elim
        · rename_i place
          rw [about] at place
          exact (apart' (Option.some.inj place)).elim
        · rfl
      rw [← now] at mem
      exact ⟨value, approach,
        List.mem_append_left _ (List.mem_append_left _ (List.mem_flatMap.mpr ⟨event, listed, mem⟩))⟩

/-- Loading a snapshot sets the targets that it holds. -/
theorem Snapshot.target_mem_plan_iff {snapshot : Snapshot} {p : Parameter} :
    (∃ value approach, .target p value approach ∈ snapshot.plan) ↔
      ∃ value, (p, value) ∈ Parameter.all.zip snapshot.targets := by
  constructor
  · rintro ⟨value, approach, mem⟩
    rcases List.mem_append.mp mem with mem | mem
    · obtain ⟨⟨q, given⟩, listed, same⟩ := List.mem_map.mp mem
      cases same
      exact ⟨value, listed⟩
    · obtain ⟨⟨sensor, entry⟩, listed, made⟩ := List.mem_filterMap.mp mem
      obtain ⟨given, -, same⟩ := Option.map_eq_some_iff.mp made
      cases same
  · rintro ⟨value, listed⟩
    exact ⟨value, .step, List.mem_append_left _ (List.mem_map.mpr ⟨(p, value), listed, rfl⟩)⟩

namespace Session

/-- A call sets targets of a parameter: the one that it gives, those of an event that it plays back,
    those of a snapshot that it loads, or those of a state. Of position and velocity a state always
    sets some. -/
inductive Retargets (s : Session) (p : Parameter) : Call → Prop
  | given (value : Value) (approach : Approach) : Retargets s p (.setTarget p value approach)
  | played {event : Event} (about : event.parameter? = some p)
      (payload : event.current.isSome = true ∨ event.target.isSome = true) :
      Retargets s p (.replay event)
  | loaded {source : SnapshotSource} {cut : Option Nat} {snapshot : Snapshot}
      {rest : List UInt8} {value : Value}
      (decoded : Snapshot.decode (s.bytesOf source cut) = .ok (snapshot, rest))
      (listed : (p, value) ∈ Parameter.all.zip snapshot.targets) :
      Retargets s p (.loadSnapshot source cut)
  | placed (source : StateSource) (motion : p = .position ∨ p = .velocity) :
      Retargets s p (.loadState source)
  | restored {source : StateSource} {event : Event} (saved : event ∈ (s.stateOf source).events)
      (about : event.parameter? = some p)
      (payload : event.current.isSome = true ∨ event.target.isSome = true) :
      Retargets s p (.loadState source)

section

variable {s : Session} {call : Call}

theorem target_mem_plan_iff {p : Parameter} :
    (∃ value approach, .target p value approach ∈ s.plan call) ↔ s.Retargets p call := by
  constructor
  · intro planned
    cases call with
    | setTarget q given approach =>
      obtain ⟨value, approach, mem⟩ := planned
      cases List.mem_singleton.mp mem
      exact .given given approach
    | override sensor given =>
      obtain ⟨value, approach, mem⟩ := planned
      cases List.mem_singleton.mp mem
    | replay event =>
      obtain ⟨about, payload⟩ := Event.target_mem_plan_iff.mp planned
      exact .played about payload
    | loadState source =>
      rcases SavedState.target_mem_plan_iff.mp planned with
        rfl | rfl | ⟨event, saved, about, payload⟩
      · exact .placed source (.inl rfl)
      · exact .placed source (.inr rfl)
      · exact .restored saved about payload
    | loadSnapshot source cut =>
      simp only [plan] at planned
      split at planned
      · obtain ⟨value, approach, mem⟩ := planned
        cases mem
      · rename_i decoded
        obtain ⟨value, listed⟩ := Snapshot.target_mem_plan_iff.mp planned
        exact .loaded decoded listed
    | _ =>
      obtain ⟨value, approach, mem⟩ := planned
      cases mem
  · intro set
    cases set with
    | given value approach => exact ⟨_, approach, List.mem_singleton_self _⟩
    | played about payload => exact Event.target_mem_plan_iff.mpr ⟨about, payload⟩
    | placed source motion =>
      apply SavedState.target_mem_plan_iff.mpr
      rcases motion with place | speed
      · exact .inl place
      · exact .inr (.inl speed)
    | restored saved about payload =>
      exact SavedState.target_mem_plan_iff.mpr (.inr (.inr ⟨_, saved, about, payload⟩))
    | loaded decoded listed =>
      simp only [plan, decoded]
      exact Snapshot.target_mem_plan_iff.mpr ⟨_, listed⟩

theorem override_mem_plan_iff {sensor : Sensor} {value : Value} :
    .override sensor value ∈ s.plan call ↔ s.Overrides sensor call value := by
  refine ⟨overrides_of_mem_plan, ?_⟩
  intro overrides
  cases overrides with
  | given value => exact List.mem_singleton_self _
  | loaded decoded listed =>
    simp only [plan, decoded]
    exact List.mem_append_right _ (List.mem_filterMap.mpr ⟨_, listed, rfl⟩)

end

/-! ## One step -/

/-- What a task leads to at its own level makes these changes. A script may come before it. -/
inductive Unfolds (s : Session) (changes : List Change) (t : Session) : Prop
  | stays (front : List Task) (tasks : t.tasks = front ++ s.tasks) (around : t.outer = s.outer)
      (goesOn : ∀ task ∈ front, task.goesOn = true)
      (made : front.filterMap Task.change? = changes)
  | enters (script : Script) (back : Task) (front : List Task)
      (tasks : t.tasks = script.map .call ++ back :: (front ++ s.tasks))
      (around : t.outer = s.answers :: s.outer) (ends : back.returns = true)
      (goesOn : ∀ task ∈ front, task.goesOn = true)
      (made : front.filterMap Task.change? = changes)

variable (s : Session)

theorem unfolds_nothing {t : Session} (tasks : t.tasks = s.tasks) (around : t.outer = s.outer) :
    s.Unfolds [] t :=
  .stays [] tasks around (List.forall_mem_nil _) rfl

theorem unfolds_carryOut (changes : List Change) (answer : Answer) :
    s.Unfolds changes (s.carryOut changes answer) :=
  .stays _ rfl rfl (goesOn_changes changes answer) (change?_changes changes answer)

theorem unfolds_setTarget (p : Parameter) (value : Value) (approach : Approach) :
    s.Unfolds [.target p (value.conform p.kind) approach] (s.setTarget p value approach) := by
  cases attached : s.device.sink with
  | none =>
    simp only [setTarget, attached]
    exact s.unfolds_carryOut _ .done
  | some id =>
    simp only [setTarget, attached]
    generalize value.conform p.kind = value
    rcases (s.carryOut [.target p value approach] .done).record_cases id
      (.ofTarget p value approach) with noted | ⟨script, rest, -, entered⟩
    · rw [noted]
      exact .stays _ rfl rfl (goesOn_changes _ .done) (change?_changes _ .done)
    · rw [entered]
      exact .enters script .resume _ rfl rfl rfl (goesOn_changes _ .done)
        (change?_changes _ .done)

theorem unfolds_loadSnapshot (source : SnapshotSource) (cut : Option Nat) :
    s.Unfolds (s.plan (.loadSnapshot source cut)) (s.loadSnapshot (s.bytesOf source cut)) := by
  cases decoded : Snapshot.decode (s.bytesOf source cut) with
  | error failure =>
    simp only [plan, loadSnapshot, decoded]
    exact s.unfolds_nothing rfl rfl
  | ok found =>
    simp only [plan, loadSnapshot, decoded]
    exact s.unfolds_carryOut _ _

theorem unfolds_attach (observer : Observer Script) : s.Unfolds [] (s.attach observer) := by
  unfold attach
  split
  · exact .stays _ rfl rfl (by simp [Task.goesOn]) rfl
  · exact .stays _ rfl rfl (by simp [Task.goesOn]) rfl

theorem unfolds_startTrace (path : String) : s.Unfolds [] (s.startTrace path) := by
  unfold startTrace
  split <;> exact s.unfolds_nothing rfl rfl

/-- A call that has begun has its plan before it. -/
theorem unfolds_begin (call : Call) : s.Unfolds (s.plan call) (s.begin call) := by
  cases call with
  | setTarget p value approach => exact s.unfolds_setTarget p value approach
  | override sensor value => exact s.unfolds_carryOut _ .done
  | loadSnapshot source cut => exact s.unfolds_loadSnapshot source cut
  | loadState source => exact s.unfolds_carryOut _ .done
  | replay event => exact s.unfolds_carryOut _ .done
  | attach observer => exact s.unfolds_attach observer
  | startTrace path => exact s.unfolds_startTrace path
  | advance now => exact .stays [.advance now, .answer .done] rfl rfl (by simp [Task.goesOn]) rfl
  | settle step limit =>
    exact .stays [.advance s.device.time, .settle s.device.time step 0 limit] rfl rfl
      (by simp [Task.goesOn]) rfl
  | readAll =>
    obtain ⟨board, after, read⟩ := s.readSensors_eq Sensor.all Sensor.nodup_all
    simp only [begin, read]
    exact s.unfolds_nothing rfl rfl
  | pose =>
    obtain ⟨files, pose⟩ := s.readPose_eq
    simp only [begin, pose]
    exact s.unfolds_nothing rfl rfl
  | survey sensor =>
    obtain ⟨board, after, read⟩ := s.readSensor_eq sensor
    obtain ⟨files, pose⟩ := { s with device := { s.device with board } }.readPose_eq
    simp only [begin, read, pose]
    exact s.unfolds_nothing rfl rfl
  | _ => exact s.unfolds_nothing rfl rfl

theorem unfolds_announce (device : Device) (due : Option Notice) :
    s.Unfolds [] ({ s with device }.announce due) := by
  rcases { s with device }.announce_cases due with ⟨-, same⟩ | ⟨notice, id, -, -, told⟩
  · rw [same]
    exact s.unfolds_nothing rfl rfl
  · rw [told]
    exact .stays [.tell id notice] rfl rfl (by simp [Task.goesOn]) rfl

/-- By all other tasks a call goes on, without any new changes. -/
theorem unfolds_perform {task : Task} (goesOn : task.goesOn = true) :
    s.Unfolds [] (s.perform task) := by
  cases task with
  | call call | leave notice | resume => cases goesOn
  | mark => exact s.unfolds_announce s.device.markChanging.1 _
  | clearOverrides => exact s.unfolds_announce s.device.clearOverrides _
  | advance now => exact s.unfolds_announce (s.device.advance now).1 _
  | retarget p value approach | override sensor value | answer answer =>
    exact s.unfolds_nothing rfl rfl
  | settle now step rounds limit =>
    simp only [perform]
    split
    · exact .stays [.advance (now + step), .settle (now + step) step (rounds + 1) limit] rfl rfl
        (by simp [Task.goesOn]) rfl
    · exact s.unfolds_nothing rfl rfl
  | tell id notice =>
    rcases s.tell_cases id notice with same | noted | ⟨observer, script, rest, -, -, entered⟩
    · simp only [perform, same]
      exact s.unfolds_nothing rfl rfl
    · simp only [perform, noted]
      exact s.unfolds_nothing rfl rfl
    · simp only [perform, entered]
      exact .enters script (.leave notice) [] rfl rfl rfl (List.forall_mem_nil _) rfl

/-! ## All steps of a call -/

/-- A call is going on in a script with others around it, and has some changes yet to make. -/
def Making (changes : List Change) (around : List (List Answer)) (tasks : List Task)
    (_ : List Answer) (outer : List (List Answer)) : Prop :=
  outer = around ∧ (∀ task ∈ tasks, task.goesOn = true) ∧
    tasks.filterMap Task.change? = changes

variable {s} {changes : List Change} {around : List (List Answer)}

/-- While a script is worked off, more of them are around it than around the call. -/
theorem length_of_interrupted {tasks : List Task} {answers : List Answer}
    {outer : List (List Answer)} (h : Interrupted (Making changes around) tasks answers outer) :
    around.length ≤ outer.length := by
  induction h with
  | here h => exact h.1 ▸ Nat.le_refl _
  | within front back inner inside ends below ih => exact Nat.le_succ_of_le ih

theorem Unfolds.making {t : Session} (h : s.Unfolds changes t) {later : List Change}
    (made : s.tasks.filterMap Task.change? = later)
    (goesOn : ∀ task ∈ s.tasks, task.goesOn = true) :
    Interrupted (Making (changes ++ later) s.outer) t.tasks t.answers t.outer := by
  have before {front : List Task} (more : ∀ task ∈ front, task.goesOn = true)
      (makes : front.filterMap Task.change? = changes) (answers : List Answer) :
      Making (changes ++ later) s.outer (front ++ s.tasks) answers s.outer :=
    ⟨rfl, List.forall_mem_append.mpr ⟨more, goesOn⟩, by rw [List.filterMap_append, makes, made]⟩
  cases h with
  | stays front tasks outer more makes =>
    rw [tasks, outer]
    exact .here (before more makes _)
  | enters script back front tasks outer ends more makes =>
    rw [tasks, outer]
    exact .within _ back _ (by simp [Task.returns]) ends (.here (before more makes _))

/-- The change that the next step makes, at some depth of scripts. -/
def makes? (depth : Nat) (s : Session) : Option Change :=
  if s.outer.length = depth then s.tasks.head?.bind Task.change? else none

/-- A step makes the change that is the next to be made, or none. -/
theorem making_step (busy : s.tasks ≠ [])
    (h : Interrupted (Making changes around) s.tasks s.answers s.outer) :
    ∃ later, changes = (s.makes? around.length).toList ++ later ∧
      Interrupted (Making later around) s.step.tasks s.step.answers s.step.outer := by
  generalize left_eq : s.tasks = left at h
  generalize here_eq : s.answers = answers at h
  generalize out_eq : s.outer = outer at h
  cases h with
  | within front back inner inside ends below =>
    have deeper := length_of_interrupted below
    refine ⟨changes, ?_, interrupted_step_of_within inside ends below left_eq out_eq⟩
    rw [makes?, if_neg]
    · rfl
    · rw [out_eq, List.length_cons]
      omega
  | here h =>
    obtain ⟨rfl, goesOn, made⟩ := h
    rw [← left_eq] at goesOn made
    cases found : s.tasks with
    | nil => exact (busy found).elim
    | cons task rest =>
      rw [found] at goesOn made
      obtain ⟨first, others⟩ := List.forall_mem_cons.mp goesOn
      have unfolds := ({ s with tasks := rest }.unfolds_perform first).making rfl others
      refine ⟨rest.filterMap Task.change?, ?_, ?_⟩
      · have next : s.makes? outer.length = task.change? := by
          rw [makes?, if_pos (congrArg List.length out_eq), found]
          rfl
        rw [next, ← made, List.filterMap_cons]
        cases task.change? <;> rfl
      · rw [step_of_tasks found, ← out_eq]
        exact unfolds

/-- The changes that are made in so many steps at the level of the first of them. -/
def made (s : Session) (count : Nat) : List Change := s.gather (makes? s.outer.length) count

theorem made_succ (s : Session) (count : Nat) :
    s.made (count + 1) = s.made count ++ ((step^[count] s).makes? s.outer.length).toList :=
  gather_succ _ s count

variable {call : Call}

/-- When a call has begun, what it has made and what it has yet to make are all of its plan. -/
theorem making_iterate (tasks : s.tasks = [.call call]) (count : Nat)
    (busy : ∀ k ≤ count, (step^[k] s).tasks ≠ []) :
    ∃ later, s.plan call = s.made (count + 1) ++ later ∧
      Interrupted (Making later s.outer) (step^[count + 1] s).tasks (step^[count + 1] s).answers
        (step^[count + 1] s).outer := by
  induction count with
  | zero =>
    have none : s.made 1 = [] := by
      rw [made_succ, Function.iterate_zero_apply, makes?, if_pos rfl, tasks]
      rfl
    have unfolds := ({ s with tasks := [] }.unfolds_begin call).making rfl
      (List.forall_mem_nil _)
    rw [List.filterMap_nil, List.append_nil] at unfolds
    refine ⟨s.plan call, by rw [none, List.nil_append], ?_⟩
    rw [Function.iterate_one, step_of_tasks tasks]
    exact unfolds
  | succ count ih =>
    obtain ⟨left, before, going⟩ := ih fun k bound => busy k (Nat.le_succ_of_le bound)
    obtain ⟨later, next, goes⟩ := making_step (busy (count + 1) (Nat.le_refl _)) going
    refine ⟨later, ?_, ?_⟩
    · rw [made_succ, before, next, List.append_assoc]
    · rw [Function.iterate_succ_apply']
      exact goes

/-- With nothing left to do, a call has made all of its plan. -/
theorem made_eq_plan (tasks : s.tasks = [.call call]) {count : Nat}
    (busy : ∀ k < count, (step^[k] s).tasks ≠ []) (idle : (step^[count] s).tasks = []) :
    s.made count = s.plan call := by
  cases count with
  | zero =>
    rw [Function.iterate_zero_apply, tasks] at idle
    cases idle
  | succ count =>
    obtain ⟨later, plan, goes⟩ :=
      making_iterate tasks count fun k bound => busy k (Nat.lt_succ_of_le bound)
    rw [idle] at goes
    obtain ⟨-, -, ended⟩ := goes.of_idle
    rw [plan, ← ended, List.filterMap_nil, List.append_nil]

/-- Other tasks to be done later make no difference to it. -/
theorem made_above {others : List Task} {count : Nat}
    (busy : ∀ k < count, (step^[k] s).tasks ≠ []) : (s.above others).made count = s.made count := by
  refine gather_above busy ?_
  intro u tasks
  rw [makes?, makes?, tasks_above, List.head?_append_of_ne_nil _ tasks]
  rfl

/-- A change that is made in so many steps is made by one of them. -/
theorem exists_of_mem_made {count : Nat} {change : Change} (mem : change ∈ s.made count) :
    ∃ k < count, ∃ task rest, (step^[k] s).tasks = task :: rest ∧ task.change? = some change := by
  obtain ⟨u, mem, makes⟩ := List.mem_filterMap.mp mem
  obtain ⟨k, bound, rfl⟩ := mem_trail.mp (List.mem_reverse.mp mem)
  refine ⟨k, bound, ?_⟩
  unfold makes? at makes
  split at makes
  · cases found : (step^[k] s).tasks with
    | nil => simp [found] at makes
    | cons task rest =>
      rw [found] at makes
      exact ⟨task, rest, rfl, makes⟩
  · cases makes

/-- Every call returns, also in the midst of others and whatever observers and sinks do. Until
    then it makes the changes of its plan, in their order and no others. -/
theorem returns_made {others : List Task} (found : s.tasks = .call call :: others) :
    ∃ count, s.Returns others count ∧ s.made count = s.plan call := by
  obtain ⟨count, returned, run, busy, same⟩ := returns found
  refine ⟨count, returned, ?_⟩
  generalize alone_eq : { s with tasks := [.call call] } = alone at run busy same
  have tasks : alone.tasks = [.call call] := by rw [← alone_eq]
  have idle : (step^[count] alone).tasks = [] := by rw [← run, tasks_run]
  have plan : alone.plan call = s.plan call := by rw [← alone_eq]; rfl
  rw [← plan, ← made_eq_plan tasks busy idle, same]
  exact made_above busy

/-- Before a call returns it comes to each change of its plan. -/
theorem exists_of_mem_plan {others : List Task} {change : Change}
    (found : s.tasks = .call call :: others) (planned : change ∈ s.plan call) :
    ∃ count, s.Returns others count ∧ ∃ k < count, ∃ task rest,
      (step^[k] s).tasks = task :: rest ∧ task.change? = some change := by
  obtain ⟨count, returned, made⟩ := returns_made found
  rw [← made] at planned
  exact ⟨count, returned, exists_of_mem_made planned⟩

end Session

end Sensorium
