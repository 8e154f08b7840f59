import Sensorium.Proofs.Session.Answers
import Sensorium.Proofs.Session.Bystanders
import Sensorium.Proofs.Session.Notices
import Sensorium.Proofs.Session.Retargeting

/-!
# What callbacks see

A call that sets a target or overrides a sensor lets others know in between: a sink before
anything has changed, an observer when the device has been marked, and again when a target has
been set and the overrides have been cleared. `Passage` says how far such a call has got, what
the device is like then and of what the observer has been told by then, as long as all who listen
only read; it is kept by every step, whatever the call is made in the midst of.
-/

namespace Sensorium

/-- The change that a call makes that sets one target or overrides one sensor. -/
def Call.change? : Call → Option Change
  | .setTarget p value approach => some (.target p (value.conform p.kind) approach)
  | .override sensor value => some (.override sensor (value.conform sensor.kind))
  | _ => none

/-- Whom a task tells of what. -/
def Task.tells? : Task → Option (ObserverId × Notice)
  | .tell id notice => some (id, notice)
  | _ => none

/-- The notice of which an observer is told by a task, or to which it has then reacted. -/
def Task.notice? : Task → Option Notice
  | .tell _ notice | .leave notice => some notice
  | _ => none

theorem notice?_changes (change : Change) (answer : Answer) :
    ∀ task ∈ change.tasks ++ [.answer answer], task.notice? = none ∧ task ≠ .resume := by
  intro task mem
  cases change with
  | target p value approach =>
    simp only [Change.tasks, List.cons_append, List.nil_append, List.mem_cons,
      List.not_mem_nil, or_false] at mem
    rcases mem with rfl | rfl | rfl | rfl <;> exact ⟨rfl, Task.noConfusion⟩
  | override sensor value =>
    simp only [Change.tasks, List.cons_append, List.nil_append, List.mem_cons,
      List.not_mem_nil, or_false] at mem
    rcases mem with rfl | rfl | rfl <;> exact ⟨rfl, Task.noConfusion⟩

/-! ## Devices that have been read -/

namespace Device

/-- Two devices that are the same to those who ask for parameters, overrides and the time. -/
structure SameView (d e : Device) : Prop where
  values : ∀ p aspect, e.value p aspect = d.value p aspect
  overrides : ∀ sensor, e.board.override? sensor = d.board.override? sensor
  time : e.time = d.time

/-- Two devices that differ at most in who listens to them, in the trace that is recorded and in
    how many measurements were counted. -/
def LooksLike (d e : Device) : Prop := ∃ extra, d.Beside extra e

namespace LooksLike

variable {d e : Device}

theorem refl (d : Device) : d.LooksLike d := by
  refine ⟨fun _ => 0, ⟨rfl, rfl, rfl⟩, rfl, ?_⟩
  intro sensor
  simp only [Gauge.ahead, UInt64.add_zero]

theorem read (h : d.LooksLike e) {call : Call} {board : Board}
    (after : e.BoardAfter call.sensors board) : d.LooksLike { e with board } := by
  obtain ⟨extra, beside⟩ := h
  exact ⟨_, beside.read_right after⟩

theorem marked (h : d.LooksLike e) : d.marked.LooksLike e.marked := by
  obtain ⟨extra, ⟨body, surroundings, -⟩, time, gauge⟩ := h
  exact ⟨extra, ⟨body, surroundings, rfl⟩, time, gauge⟩

/-- A change that is made of a marked device is the change made of the device itself. -/
theorem make (h : d.marked.LooksLike e) (change : Change) :
    (d.make change).LooksLike (e.make change) := by
  obtain ⟨extra, beside⟩ := h
  have made : d.marked.make change = d.make change := by
    cases change <;> rfl
  rw [← made]
  exact ⟨extra, beside.make change⟩

/-- A device that looks like a marked one is marked. -/
theorem marked_eq (h : d.marked.LooksLike e) : e.marked = e := by
  obtain ⟨extra, beside⟩ := h
  have changing : e.changing = true := beside.changing
  rw [Device.marked, ← changing]

theorem sameView (h : d.LooksLike e) : d.SameView e := by
  obtain ⟨extra, beside⟩ := h
  exact ⟨beside.value, beside.override?, beside.time⟩

end LooksLike

end Device

/-! ## What is told -/

namespace Device

/-- Notices addressed to the observer of a device; to nobody if there is none. -/
def addressed (d : Device) (notices : List Notice) : List (ObserverId × Notice) :=
  d.observer.toList.flatMap fun id => notices.map (id, ·)

theorem addressed_append (d : Device) (first second : List Notice) :
    d.addressed (first ++ second) = d.addressed first ++ d.addressed second := by
  rw [addressed, addressed, addressed]
  cases d.observer with
  | none => rfl
  | some id => simp only [Option.toList_some, List.flatMap_singleton, List.map_append]

theorem addressed_nil (d : Device) : d.addressed [] = [] := by
  rw [addressed]
  cases d.observer <;> rfl

end Device

namespace Session

/-- Whom the next step tells of what. -/
def tells? (s : Session) : Option (ObserverId × Notice) := s.tasks.head?.bind Task.tells?

/-- Who is told of what in so many steps, in order. -/
def told (s : Session) (count : Nat) : List (ObserverId × Notice) := s.gather tells? count

theorem tells?_of_tasks {s : Session} {task : Task} {rest : List Task}
    (found : s.tasks = task :: rest) : s.tells? = task.tells? := by
  rw [tells?, found]
  rfl

/-! ## Asides -/

/-- What is left of a script of calls that only read and that ends with a task; nothing if it is
    over or there was none. -/
inductive Aside (back : Task) : List Task → Prop
  | ended : Aside back []
  | script (calls : Script) (reads : ∀ call ∈ calls, call.onlyReads = true) :
      Aside back (calls.map .call ++ [back])

/-- What is left of telling an observer something, which then only reads. -/
inductive Hearing (notice : Notice) : List Task → Prop
  | due (id : ObserverId) : Hearing notice [.tell id notice]
  | aside {front : List Task} (h : Aside (.leave notice) front) : Hearing notice front

/-- An observer is told something next, or has not yet reacted to it in full. -/
def Telling (notice : Notice) (front : List Task) : Prop :=
  (∃ id rest, front = .tell id notice :: rest) ∨ .leave notice ∈ front

theorem Telling.mem {notice : Notice} {front : List Task} (h : Telling notice front) :
    ∃ task ∈ front, task.notice? = some notice := by
  rcases h with ⟨id, rest, rfl⟩ | mem
  · exact ⟨_, List.mem_cons_self, rfl⟩
  · exact ⟨_, mem, rfl⟩

theorem Aside.mem {back task : Task} {front : List Task} (h : Aside back front)
    (mem : task ∈ front) : task = back ∨ ∃ call, task = .call call := by
  cases h with
  | ended => cases mem
  | script calls reads =>
    rcases List.mem_append.mp mem with mem | mem
    · obtain ⟨call, -, rfl⟩ := List.mem_map.mp mem
      exact .inr ⟨call, rfl⟩
    · exact .inl (List.mem_singleton.mp mem)

/-- Nobody is told anything in an aside. -/
theorem Aside.tells?_eq_none {back task : Task} {front : List Task} (h : Aside back front)
    (ends : back.returns = true) (mem : task ∈ front) : task.tells? = none := by
  rcases h.mem mem with rfl | ⟨call, rfl⟩
  · cases task <;> first | rfl | cases ends
  · rfl

theorem Aside.silent {back : Task} {front : List Task} (h : Aside back front)
    (ends : back.returns = true) : front.filterMap Task.tells? = [] :=
  List.filterMap_eq_nil_iff.mpr fun _ mem => h.tells?_eq_none ends mem

theorem Hearing.mem {notice : Notice} {task : Task} {front : List Task} (h : Hearing notice front)
    (mem : task ∈ front) :
    (task.notice? = some notice ∨ task.notice? = none) ∧ task ≠ .resume := by
  cases h with
  | due id =>
    rw [List.mem_singleton.mp mem]
    exact ⟨.inl rfl, nofun⟩
  | aside h =>
    rcases h.mem mem with rfl | ⟨call, rfl⟩
    · exact ⟨.inl rfl, nofun⟩
    · exact ⟨.inr rfl, nofun⟩

/-- Nobody who listens makes a call that does not only read. -/
structure Unintrusive (s : Session) : Prop where
  observer : ∀ id observer, s.device.observer = some id → s.observers[id]? = some observer →
    observer.All (·.onlyReads = true)
  sink : ∀ id scripts, s.device.sink = some id → s.sinks[id]? = some scripts →
    AllCalls (·.onlyReads = true) scripts

variable {s : Session} {d : Device} {call : Call} {change : Change} {rest : List Task}

/-- A call that reads has been answered when it is begun. -/
theorem tasks_begin_reads (reads : call.onlyReads = true) (looks : d.LooksLike s.device) :
    (s.begin call).tasks = s.tasks ∧ d.LooksLike (s.begin call).device := by
  have begun := s.begins_begin call
  generalize s.begin call = next at begun
  cases begun with
  | reads _ after => exact ⟨rfl, looks.read after⟩
  | configures acts | changes acts | records acts =>
    rw [reads] at acts
    cases acts
  | _ => cases reads

/-- The calls of an aside are made one after the other. -/
theorem Aside.step {back : Task} {front : List Task} (h : Aside back front)
    (ends : back.returns = true) (busy : front ≠ []) (tasks : s.tasks = front ++ rest)
    (looks : d.LooksLike s.device) :
    s.tells? = none ∧
      ∃ left, Aside back left ∧ s.step.tasks = left ++ rest ∧ d.LooksLike s.step.device := by
  have silent : s.tells? = none := by
    cases front with
    | nil => exact (busy rfl).elim
    | cons task front =>
      rw [tells?_of_tasks tasks]
      exact h.tells?_eq_none ends List.mem_cons_self
  refine ⟨silent, ?_⟩
  cases h with
  | ended => exact (busy rfl).elim
  | script calls reads =>
    cases calls with
    | nil =>
      refine ⟨[], .ended, ?_⟩
      rw [step_of_tasks tasks]
      cases back with
      | leave notice => exact ⟨rfl, looks⟩
      | resume => exact ⟨rfl, looks⟩
      | _ => cases ends
    | cons call calls =>
      have others : ∀ other ∈ calls, other.onlyReads = true :=
        fun other mem => reads other (List.mem_cons_of_mem _ mem)
      refine ⟨calls.map .call ++ [back], .script calls others, ?_⟩
      rw [step_of_tasks tasks]
      exact tasks_begin_reads (s := { s with tasks := _ }) (reads call List.mem_cons_self) looks

/-- An observer is told something and only reads then. -/
theorem Hearing.step {asked : Call → Prop} {notice : Notice} {front : List Task}
    (scripted : s.Scripted asked (·.onlyReads = true)) (h : Hearing notice front)
    (busy : front ≠ []) (tasks : s.tasks = front ++ rest) (looks : d.LooksLike s.device) :
    ∃ left, Hearing notice left ∧ s.step.tasks = left ++ rest ∧ d.LooksLike s.step.device ∧
      front.filterMap Task.tells? = s.tells?.toList ++ left.filterMap Task.tells? := by
  cases h with
  | aside h =>
    obtain ⟨silent, left, aside, next, same⟩ := h.step rfl busy tasks looks
    refine ⟨left, .aside aside, next, same, ?_⟩
    rw [silent, h.silent rfl, aside.silent rfl]
    rfl
  | due id =>
    have tasks : s.tasks = .tell id notice :: rest := tasks
    have told : s.Hears id := .inr ⟨notice, by rw [tasks]; exact List.mem_cons_self⟩
    rw [tells?_of_tasks tasks, step_of_tasks tasks, perform]
    rcases { s with tasks := rest }.tell_cases id notice with
      same | noted | ⟨observer, script, later, found, left, entered⟩
    · rw [same]
      exact ⟨[], .aside .ended, rfl, looks, rfl⟩
    · rw [noted]
      exact ⟨[], .aside .ended, rfl, looks, rfl⟩
    · have reads : ∀ call ∈ script, call.onlyReads = true :=
        scripted.observers id observer told found notice _ left script List.mem_cons_self
      rw [entered]
      have aside : Aside (.leave notice) (script.map .call ++ [.leave notice]) :=
        .script script reads
      refine ⟨script.map .call ++ [.leave notice], .aside aside, ?_, looks, ?_⟩
      · simp only [enter, note, List.append_assoc, List.cons_append, List.nil_append]
      · rw [aside.silent rfl]
        rfl

/-- A notice that is due is what the observer is told next. -/
theorem hearing_announce (notice : Notice) (due : Option Notice)
    (only : ∀ other, due = some other → other = notice) :
    ∃ front, Hearing notice front ∧ (s.announce due).tasks = front ++ s.tasks ∧
      front.filterMap Task.tells? = s.device.addressed due.toList := by
  rcases s.announce_cases due with ⟨none, same⟩ | ⟨other, id, rfl, attached, told⟩
  · rw [same]
    refine ⟨[], .aside .ended, rfl, ?_⟩
    rcases none with rfl | none
    · exact s.device.addressed_nil.symm
    · rw [Device.addressed, none]
      rfl
  · rw [told, only other rfl, Device.addressed, attached]
    exact ⟨[.tell id notice], .due id, rfl, rfl⟩

/-! ## One step -/

/-- How far a call has got, in front of nothing else, that makes a change of a device, and of what
    others have been told by then. -/
inductive Passage (d : Device) (call : Call) (change : Change) (s : Session)
    (told : List (ObserverId × Notice)) : Prop
  | asked (tasks : s.tasks = [.call call]) (same : s.device = d) (none : told = [])
  /-- A sink has been handed the target, if there is one. -/
  | recorded (front : List Task) (aside : Aside .resume front)
      (tasks : s.tasks = front ++ (change.tasks ++ [.answer .done])) (looks : d.LooksLike s.device)
      (none : told = [])
  | marked (front : List Task) (hearing : Hearing .changing front)
      (tasks : s.tasks = front ++ (change.tasks.tail ++ [.answer .done]))
      (looks : d.marked.LooksLike s.device)
      (some : told ++ front.filterMap Task.tells? = d.addressed d.edge)
  /-- A target has been set, and the overrides have not been cleared. -/
  | retargeted {e : Device} {p : Parameter} {value : Value} {approach : Approach}
      (target : change = .target p value approach)
      (tasks : s.tasks = [.clearOverrides, .answer .done]) (looks : d.marked.LooksLike e)
      (device : s.device = e.retarget p value approach) (some : told = d.addressed d.edge)
  /-- The change has been made, of which nobody is told if it is no target. -/
  | made (front : List Task) (hearing : Hearing .targetChanged front)
      (target : front ≠ [] → ∃ p value approach, change = .target p value approach)
      (tasks : s.tasks = front ++ [.answer .done]) (looks : (d.make change).LooksLike s.device)
      (all : told ++ front.filterMap Task.tells? = d.addressed (d.notices change))
  | answered (tasks : s.tasks = []) (all : told = d.addressed (d.notices change))

/-- Beginning the call makes its change what is to be done, after a sink has been handed it. -/
theorem begin_of_change? (makes : call.change? = some change) :
    s.begin call = s.carryOut [change] .done ∨
      ∃ id event, s.device.sink = some id ∧
        s.begin call = (s.carryOut [change] .done).record id event := by
  cases call with
  | override sensor value =>
    cases makes
    exact .inl rfl
  | setTarget p value approach =>
    cases makes
    cases attached : s.device.sink with
    | none =>
      left
      simp only [begin, setTarget, attached]
    | some id =>
      right
      refine ⟨id, .ofTarget p (value.conform p.kind) approach, rfl, ?_⟩
      simp only [begin, setTarget, attached]
  | _ => cases makes

theorem passage_step_of_asked (makes : call.change? = some change) {asked : Call → Prop}
    (scripted : s.Scripted asked (·.onlyReads = true)) (tasks : s.tasks = [.call call])
    (same : s.device = d) : Passage d call change s.step [] := by
  have looks : d.LooksLike s.device := by
    rw [same]
    exact .refl d
  rw [step_of_tasks tasks, perform]
  rcases begin_of_change? (s := { s with tasks := [] }) makes with
    begun | ⟨id, event, attached, begun⟩
  · rw [begun]
    refine .recorded [] .ended ?_ looks rfl
    simp [carryOut, first]
  · rw [begun]
    rcases ({ s with tasks := [] }.carryOut [change] .done).record_cases id event with
      noted | ⟨script, later, found, entered⟩
    · rw [noted]
      refine .recorded [] .ended ?_ looks rfl
      simp [carryOut, first, note]
    · have reads : ∀ call ∈ script, call.onlyReads = true :=
        scripted.sinks id _ attached found script List.mem_cons_self
      rw [entered]
      refine .recorded _ (.script script reads) ?_ looks rfl
      simp [enter, carryOut, first, note]

theorem passage_step_of_marked (tasks : s.tasks = change.tasks.tail ++ [.answer .done])
    (looks : d.marked.LooksLike s.device) :
    s.tells? = none ∧ Passage d call change s.step (d.addressed d.edge) := by
  cases change with
  | target p value approach =>
    refine ⟨tells?_of_tasks tasks, ?_⟩
    rw [step_of_tasks tasks]
    exact .retargeted rfl rfl looks rfl rfl
  | override sensor value =>
    refine ⟨tells?_of_tasks tasks, ?_⟩
    rw [step_of_tasks tasks]
    have made := looks.make (.override sensor value)
    rw [Device.make, Device.make, looks.marked_eq] at made
    exact .made [] (.aside .ended) (fun busy => (busy rfl).elim) rfl made (List.append_nil _)

section

variable (observer : s.device.observer = d.observer)
include observer

theorem passage_step_of_recorded (tasks : s.tasks = change.tasks ++ [.answer .done])
    (looks : d.LooksLike s.device) :
    s.tells? = none ∧ Passage d call change s.step [] := by
  have mark : change.tasks ++ [.answer .done] =
      .mark :: (change.tasks.tail ++ [.answer .done]) := by
    cases change <;> rfl
  rw [mark] at tasks
  have due : s.device.markChanging.2.toList = d.edge := by
    obtain ⟨extra, beside⟩ := looks
    rw [s.device.markChanging_eq_marked.2, Device.edge, Device.edge, beside.changing]
  have only : ∀ other, s.device.markChanging.2 = some other → other = .changing := by
    intro other told
    rw [Device.markChanging_eq] at told
    split at told <;> cases told
    rfl
  obtain ⟨front, hearing, next, told⟩ := hearing_announce
    (s := { s with tasks := _, device := s.device.markChanging.1 }) .changing _ only
  refine ⟨tells?_of_tasks tasks, ?_⟩
  rw [step_of_tasks tasks]
  refine .marked front hearing next ?_ ?_
  · rw [device_mark]
    exact looks.marked
  · rw [List.nil_append, told, due, Device.markChanging_eq, Device.addressed, Device.addressed,
      ← observer]

theorem passage_step_of_retargeted {e : Device} {p : Parameter} {value : Value}
    {approach : Approach} (tasks : s.tasks = [.clearOverrides, .answer .done])
    (looks : d.marked.LooksLike e) (device : s.device = e.retarget p value approach) :
    s.tells? = none ∧ Passage d call (.target p value approach) s.step (d.addressed d.edge) := by
  obtain ⟨front, hearing, next, told⟩ := hearing_announce
    (s := { s with tasks := [.answer .done], device := s.device.clearOverrides })
    .targetChanged (some .targetChanged) (by rintro other ⟨⟩; rfl)
  have made := looks.make (.target p value approach)
  rw [Device.make, Device.make, looks.marked_eq, ← device] at made
  refine ⟨tells?_of_tasks tasks, ?_⟩
  rw [step_of_tasks tasks]
  refine .made front hearing (fun _ => ⟨p, value, approach, rfl⟩) next ?_ ?_
  · simp only [perform, device_announce]
    exact made
  · rw [told, Device.notices, Device.addressed_append]
    congr 1
    rw [Device.addressed, Device.addressed, ← observer]
    rfl

/-- A step goes on with the call, and with what others are told of it. -/
theorem Passage.step {told : List (ObserverId × Notice)} (makes : call.change? = some change)
    {asked : Call → Prop} (scripted : s.Scripted asked (·.onlyReads = true))
    (h : Passage d call change s told) :
    Passage d call change s.step (told ++ s.tells?.toList) := by
  cases h with
  | asked tasks same none =>
    rw [none, tells?_of_tasks tasks]
    exact passage_step_of_asked makes scripted tasks same
  | recorded front aside tasks looks none =>
    by_cases ended : front = []
    · rw [ended] at tasks
      obtain ⟨silent, passage⟩ := passage_step_of_recorded observer tasks looks
      rw [none, silent]
      exact passage
    · obtain ⟨silent, left, aside, next, looks⟩ := aside.step rfl ended tasks looks
      rw [none, silent]
      exact .recorded left aside next looks rfl
  | marked front hearing tasks looks some =>
    by_cases ended : front = []
    · rw [ended, List.filterMap_nil, List.append_nil] at some
      rw [ended] at tasks
      obtain ⟨silent, passage⟩ := passage_step_of_marked tasks looks
      rw [silent, some, Option.toList_none, List.append_nil]
      exact passage
    · obtain ⟨left, hearing, next, looks, same⟩ := hearing.step scripted ended tasks looks
      rw [same, ← List.append_assoc] at some
      exact .marked left hearing next looks some
  | retargeted target tasks looks device some =>
    subst target
    obtain ⟨silent, passage⟩ := passage_step_of_retargeted observer tasks looks device
    rw [silent, some, Option.toList_none, List.append_nil]
    exact passage
  | made front hearing target tasks looks all =>
    by_cases ended : front = []
    · rw [ended, List.filterMap_nil, List.append_nil] at all
      rw [ended] at tasks
      rw [tells?_of_tasks tasks, step_of_tasks tasks]
      exact .answered rfl ((List.append_nil _).trans all)
    · obtain ⟨left, hearing, next, looks, same⟩ := hearing.step scripted ended tasks looks
      rw [same, ← List.append_assoc] at all
      exact .made left hearing (fun _ => target ended) next looks all
  | answered tasks all =>
    rw [tells?, step_of_no_tasks tasks, tasks]
    exact .answered tasks ((List.append_nil _).trans all)

end

/-! ## What is seen on the way -/

/-- What those who listen find a device like while a call makes a change of it, if these are the
    tasks that the call still has to do: a sink finds it as it was, an observer that is told that
    it is changing finds nothing but the mark set, and one that is told that the target has
    changed finds the target as it is set and nothing overridden. -/
structure Shows (d : Device) (change : Change) (front : List Task) (e : Device) : Prop where
  recording : .resume ∈ front → d.SameView e ∧ e.changing = d.changing
  changing : Telling .changing front → d.SameView e ∧ e.changing = true
  targetChanged : Telling .targetChanged front →
    ∃ p value approach, change = .target p value approach ∧
      (p ≠ .rotation → e.value p .target = value) ∧
      (p = .rotation → e.body.turn.target = .ofEuler value.toVector) ∧
      (∀ sensor, e.board.override? sensor = none) ∧ e.changing = true

/-- The target that is set is of the kind of its parameter. -/
theorem kind_of_change? {p : Parameter} {value : Value} {approach : Approach}
    (makes : call.change? = some (.target p value approach)) : value.kind = p.kind := by
  cases call with
  | setTarget q given approach =>
    cases makes
    exact given.kind_conform _
  | _ => cases makes

/-- Tasks that tell nobody anything show nothing. -/
theorem shows_of_silent {e : Device} {front : List Task}
    (silent : ∀ task ∈ front, task.notice? = none ∧ task ≠ .resume) : Shows d change front e := by
  have untold (notice : Notice) (telling : Telling notice front) : False := by
    obtain ⟨task, mem, told⟩ := telling.mem
    rw [(silent task mem).1] at told
    cases told
  exact ⟨fun mem => ((silent _ mem).2 rfl).elim, fun telling => (untold _ telling).elim,
    fun telling => (untold _ telling).elim⟩

theorem shows_of_recorded {front : List Task} (aside : Aside .resume front)
    (looks : d.LooksLike s.device) :
    Shows d change (front ++ (change.tasks ++ [.answer .done])) s.device := by
  have untold (notice : Notice)
      (telling : Telling notice (front ++ (change.tasks ++ [.answer .done]))) : False := by
    obtain ⟨task, mem, told⟩ := telling.mem
    rcases List.mem_append.mp mem with mem | mem
    · rcases aside.mem mem with rfl | ⟨call, rfl⟩ <;> cases told
    · rw [(notice?_changes change .done task mem).1] at told
      cases told
  refine ⟨fun _ => ⟨looks.sameView, ?_⟩, fun telling => (untold _ telling).elim,
    fun telling => (untold _ telling).elim⟩
  obtain ⟨extra, beside⟩ := looks
  exact beside.changing

section

variable {notice other : Notice} {front back : List Task} (h : Hearing notice front)
  (silent : ∀ task ∈ back, task.notice? = none ∧ task ≠ .resume)
include h silent

/-- While an observer is told something, no sink is recording. -/
theorem Hearing.resume_not_mem : .resume ∉ front ++ back := by
  intro mem
  rcases List.mem_append.mp mem with mem | mem
  · exact (h.mem mem).2 rfl
  · exact (silent _ mem).2 rfl

/-- While an observer is told one thing, it is told no other. -/
theorem Hearing.only (telling : Telling other (front ++ back)) :
    other = notice ∧ front ≠ [] := by
  obtain ⟨task, mem, told⟩ := telling.mem
  rcases List.mem_append.mp mem with mem | mem
  · refine ⟨?_, List.ne_nil_of_mem mem⟩
    rcases (h.mem mem).1 with same | none
    · rw [same] at told
      exact (Option.some.inj told).symm
    · rw [none] at told
      cases told
  · rw [(silent task mem).1] at told
    cases told

end

theorem Passage.shows {told : List (ObserverId × Notice)} (makes : call.change? = some change)
    (h : Passage d call change s told) : Shows d change s.tasks s.device := by
  have quiet := notice?_changes change .done
  cases h with
  | asked tasks same none =>
    rw [tasks]
    apply shows_of_silent
    intro task mem
    rw [List.mem_singleton.mp mem]
    exact ⟨rfl, nofun⟩
  | recorded front aside tasks looks none =>
    rw [tasks]
    exact shows_of_recorded aside looks
  | marked front hearing tasks looks some =>
    have silent : ∀ task ∈ change.tasks.tail ++ [.answer .done],
        task.notice? = none ∧ task ≠ .resume := by
      intro task mem
      apply quiet task
      rcases List.mem_append.mp mem with mem | mem
      · exact List.mem_append_left _ (List.mem_of_mem_tail mem)
      · exact List.mem_append_right _ mem
    rw [tasks]
    refine ⟨fun mem => (hearing.resume_not_mem silent mem).elim, fun _ => ?_, ?_⟩
    · have seen := looks.sameView
      obtain ⟨extra, beside⟩ := looks
      exact ⟨⟨seen.values, seen.overrides, seen.time⟩, beside.changing⟩
    · intro telling
      cases (hearing.only silent telling).1
  | retargeted target tasks looks device some =>
    rw [tasks]
    apply shows_of_silent
    intro task mem
    rcases List.mem_cons.mp mem with rfl | mem
    · exact ⟨rfl, nofun⟩
    · rw [List.mem_singleton.mp mem]
      exact ⟨rfl, nofun⟩
  | made front hearing target tasks looks all =>
    have silent : ∀ task ∈ [Task.answer .done], task.notice? = none ∧ task ≠ .resume :=
      fun task mem => quiet task (List.mem_append_right _ mem)
    rw [tasks]
    refine ⟨fun mem => (hearing.resume_not_mem silent mem).elim, ?_, ?_⟩
    · intro telling
      cases (hearing.only silent telling).1
    · intro telling
      obtain ⟨p, value, approach, rfl⟩ := target (hearing.only silent telling).2
      obtain ⟨extra, beside⟩ := looks
      refine ⟨p, value, approach, rfl, ?_, ?_, ?_, ?_⟩
      · intro angles
        rw [beside.value]
        exact Device.target_make (kind_of_change? makes) angles
      · rintro rfl
        rw [beside.body]
        exact d.turn_make value approach
      · intro sensor
        rw [beside.override?]
        exact d.override?_make_target p value approach sensor
      · rw [beside.changing]
        exact d.changing_make _
  | answered tasks all =>
    rw [tasks]
    exact shows_of_silent nofun

/-! ## The whole call -/

/-- A call that only reads leaves the observer attached that is. -/
theorem keepsObserver_of_onlyReads (reads : call.onlyReads = true) : call.keepsObserver = true := by
  cases call <;> first | rfl | cases reads

/-- As long as only such calls are made and one that makes a change, the same observer is told. -/
theorem observer_step_of_change? {scripted : Call → Prop} (makes : call.change? = some change)
    (h : s.Scripted (fun other => other.onlyReads = true ∨ other = call) scripted) :
    s.step.device.observer = s.device.observer := by
  cases found : s.tasks with
  | nil => rw [step_of_no_tasks found]
  | cons task rest =>
    rw [step_of_tasks found]
    refine observer_perform ?_
    rintro other rfl
    have first : Task.call other ∈ s.tasks := by
      rw [found]
      exact List.mem_cons_self
    rcases h.calls other first with reads | rfl
    · exact keepsObserver_of_onlyReads reads
    · cases other <;> first | rfl | cases makes

/-- A call that sets a target or overrides a sensor attaches nobody. -/
theorem hereditary_change? (makes : call.change? = some change) :
    Hereditary (fun other => other.onlyReads = true ∨ other = call) (·.onlyReads = true) where
  script _ reads := .inl reads
  attach observer asked := by
    rcases asked with reads | rfl
    · cases reads
    · cases makes
  attachSink scripts asked := by
    rcases asked with reads | rfl
    · cases reads
    · cases makes

/-- When the call is the only one, it is somewhere on its way after any number of steps. -/
theorem passage_iterate (makes : call.change? = some change) (tasks : s.tasks = [.call call])
    (reads : s.Unintrusive) (count : Nat) :
    (step^[count] s).Scripted (fun other => other.onlyReads = true ∨ other = call)
        (·.onlyReads = true) ∧
      (step^[count] s).device.observer = s.device.observer ∧
      Passage s.device call change (step^[count] s) (s.told count) := by
  induction count with
  | zero =>
    refine ⟨⟨?_, ?_, reads.sink⟩, rfl, .asked tasks rfl rfl⟩
    · intro other mem
      rw [Function.iterate_zero_apply, tasks] at mem
      cases List.mem_singleton.mp mem
      exact .inr rfl
    · rintro id observer (attached | ⟨notice, mem⟩) found
      · exact reads.observer id observer attached found
      · rw [Function.iterate_zero_apply, tasks] at mem
        cases List.mem_singleton.mp mem
  | succ count ih =>
    obtain ⟨scripted, observer, passage⟩ := ih
    rw [Function.iterate_succ_apply', told, gather_succ]
    exact ⟨scripted.step (hereditary_change? makes),
      (observer_step_of_change? makes scripted).trans observer,
      passage.step observer makes scripted⟩

/-- When it has returned, all have been told what they are to be told. -/
theorem told_of_idle (makes : call.change? = some change) (tasks : s.tasks = [.call call])
    (reads : s.Unintrusive) {count : Nat} (idle : (step^[count] s).tasks = []) :
    s.told count = s.device.addressed (s.device.notices change) := by
  obtain ⟨-, -, passage⟩ := passage_iterate makes tasks reads count
  cases passage with
  | answered tasks all => exact all
  | asked tasks | retargeted target tasks =>
    rw [idle] at tasks
    cases tasks
  | recorded front aside tasks | marked front hearing tasks | made front hearing target tasks =>
    rw [idle] at tasks
    simp at tasks

/-- Other tasks to be done later make no difference to what is told. -/
theorem told_above {others : List Task} {count : Nat}
    (busy : ∀ k < count, (step^[k] s).tasks ≠ []) : (s.above others).told count = s.told count := by
  refine gather_above busy ?_
  intro u tasks
  rw [tells?, tells?, tasks_above, List.head?_append_of_ne_nil _ tasks]

/-- The event of a target is recorded before anything else is done. -/
theorem step_of_setTarget {p : Parameter} {value : Value} {approach : Approach} {id : SinkId}
    (tasks : s.tasks = .call (.setTarget p value approach) :: rest)
    (attached : s.device.sink = some id) :
    s.step.device = s.device ∧ s.step.log =
      .recorded (.ofTarget p (value.conform p.kind) approach) s.device.time :: s.log := by
  have begun : s.step = ({ s with tasks := rest }.carryOut
      [.target p (value.conform p.kind) approach] .done).record id
        (.ofTarget p (value.conform p.kind) approach) := by
    rw [step_of_tasks tasks]
    simp only [perform, begin, setTarget, attached]
  rw [begun]
  refine ⟨device_record .., ?_⟩
  rcases ({ s with tasks := rest }.carryOut [.target p (value.conform p.kind) approach]
      .done).record_cases id (.ofTarget p (value.conform p.kind) approach) with
    noted | ⟨script, later, -, entered⟩
  · rw [noted]
    rfl
  · rw [entered]
    rfl

/-- While a call sets a target or overrides a sensor, also in the midst of others, those who
    listen and only read find what is to be found at their stage of it. A sink is handed the
    target first, before anything has changed. Until the call returns the observer is told that
    the device is changing, if it was not before, and then that the target has changed, if one
    is set, and of nothing else. -/
theorem listeners_see (makes : call.change? = some change) (tasks : s.tasks = .call call :: rest)
    (reads : s.Unintrusive) :
    ∃ count, s.Returns rest count ∧
      (∀ k < count, ∃ front, (step^[k] s).tasks = front ++ rest ∧
        Shows s.device change front (step^[k] s).device ∧
        ∀ notice, Telling notice front → 0 < k) ∧
      s.told count = s.device.addressed (s.device.notices change) ∧
      ∀ p value approach id, call = .setTarget p value approach → s.device.sink = some id →
        s.step.device = s.device ∧ s.step.log =
          .recorded (.ofTarget p (value.conform p.kind) approach) s.device.time :: s.log := by
  obtain ⟨count, returned, run, busy, same⟩ := returns tasks
  let alone := { s with tasks := [.call call] }
  have unintrusive : alone.Unintrusive := ⟨reads.observer, reads.sink⟩
  refine ⟨count, returned, ?_, ?_, ?_⟩
  · intro k bound
    obtain ⟨-, -, passage⟩ := passage_iterate (s := alone) makes rfl unintrusive k
    have above : step^[k] s = (step^[k] alone).above rest := by
      conv_lhs => rw [same]
      exact iterate_above k fun j earlier => busy j (Nat.lt_trans earlier bound)
    rw [above]
    refine ⟨(step^[k] alone).tasks, rfl, passage.shows makes, ?_⟩
    intro notice telling
    by_contra first
    rw [Nat.eq_zero_of_not_pos first] at telling
    obtain ⟨task, mem, told⟩ := telling.mem
    cases List.mem_singleton.mp mem
    cases told
  · have idle : (step^[count] alone).tasks = [] := by
      rw [← run]
      exact alone.tasks_run
    have all := told_of_idle (s := alone) makes rfl unintrusive idle
    rw [same, told_above busy]
    exact all
  · rintro p value approach id rfl attached
    exact step_of_setTarget tasks attached

/-- An observer that looks at everything when it is told that the device is changing, and again
    when the target has changed. -/
def curious : Observer Script where
  changing := some [[.getAll, .read .gyroscope]]
  targetChanged := some [[.getAll, .summary]]

/-- A new device with this observer and a sink that looks at everything, of which a call is asked
    in the midst of another. -/
def visited : Session :=
  { unused with
    observers := [curious]
    sinks := [[[.getAll]]]
    device := { unused.device with observer := some 0, sink := some 0 }
    tasks := [.call (.setTarget .velocity (.vector ⟨1, 2, 0⟩) .smooth), .answer .done] }

theorem listeners_see_visited :
    let call := Call.setTarget .velocity (.vector ⟨1, 2, 0⟩) .smooth
    let change := Change.target .velocity (.vector ⟨1, 2, 0⟩) .smooth
    call.change? = some change ∧ visited.tasks = [.call call, .answer .done] ∧
      visited.Unintrusive ∧
      visited.device.addressed (visited.device.notices change) =
        [(0, .changing), (0, .targetChanged)] ∧
      ∃ count, visited.Returns [.answer .done] count ∧
        (∀ k < count, ∃ front, (step^[k] visited).tasks = front ++ [.answer .done] ∧
          Shows visited.device change front (step^[k] visited).device ∧
          ∀ notice, Telling notice front → 0 < k) ∧
        visited.told count = visited.device.addressed (visited.device.notices change) ∧
        ∀ p value approach id, call = .setTarget p value approach →
          visited.device.sink = some id →
          visited.step.device = visited.device ∧ visited.step.log =
            .recorded (.ofTarget p (value.conform p.kind) approach) visited.device.time ::
              visited.log := by
  intro call change
  have reads : visited.Unintrusive := by
    constructor
    · intro id observer attached found
      cases attached
      cases found
      apply Observer.all_of_left
      simp [AllCalls, Observer.left, curious, Call.onlyReads]
    · intro id scripts attached found
      cases attached
      cases found
      simp [AllCalls, Call.onlyReads]
  exact ⟨rfl, rfl, reads, rfl, listeners_see rfl rfl reads⟩

end Session

end Sensorium
