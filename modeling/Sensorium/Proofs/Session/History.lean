import Mathlib.Logic.Function.Iterate
import Sensorium.Proofs.Session.Steps

/-!
# Histories

A session takes one step after the other, and when there is nothing left to do a call may
be asked of it. `History` keeps all states that it has gone through on the way, so that
a property of a whole run can be stated, and be proved by induction on the run.

`Scripted` is the invariant that says which calls can ever be made: those asked from
outside, and those in the scripts of observers and sinks that listen.
-/

namespace Sensorium

namespace Session

/-- A session that was `origin` has gone through the states `past`, the latest first, and is
    now `s`. Every call that was asked of it when it had nothing to do is one of `asked`. -/
inductive History (asked : Call → Prop) (origin : Session) : List Session → Session → Prop
  | start : History asked origin [] origin
  | step {past s} (task : Task) (rest : List Task) : History asked origin past s →
      s.tasks = task :: rest → History asked origin (s :: past) s.step
  | ask {past s} (call : Call) : History asked origin past s →
      s.tasks = [] → asked call → History asked origin (s :: past) (s.ask call)

/-- A session with a device that was just made from settings without a fault. -/
structure Fresh (s : Session) : Prop where
  device : ∃ settings, Device.start? settings = .ok s.device
  idle : s.tasks = []

/-- A session with a device that was just made from the usual settings. -/
def unused : Session where
  device := .start {}
  files := ⟨[]⟩
  places := ⟨none, "/"⟩

theorem start?_unused : Device.start? {} = .ok unused.device := by
  have faultless : Settings.fault? {} = none := by decide
  rw [Device.start?, faultless]
  rfl

theorem fresh_unused : unused.Fresh := ⟨⟨{}, start?_unused⟩, rfl⟩

/-! ## Runs as histories -/

variable {asked : Call → Prop} {origin : Session}

/-- A history that begins with a step. -/
theorem History.after_step {past : List Session} {s : Session} {task : Task} {rest : List Task}
    (h : History asked origin past s) (found : origin.tasks = task :: rest) :
    past = [] ∧ s = origin ∨
      ∃ later, past = later ++ [origin] ∧ History asked origin.step later s := by
  induction h with
  | start => exact .inl ⟨rfl, rfl⟩
  | step next others run found ih =>
    right
    rcases ih with ⟨rfl, rfl⟩ | ⟨later, rfl, after⟩
    · exact ⟨[], rfl, .start⟩
    · exact ⟨_ :: later, rfl, after.step next others found⟩
  | ask call run idle allowed ih =>
    right
    rcases ih with ⟨rfl, rfl⟩ | ⟨later, rfl, after⟩
    · rw [idle] at found
      cases found
    · exact ⟨_ :: later, rfl, after.ask call idle allowed⟩

theorem History.run {past : List Session} {s : Session} (h : History asked origin past s) :
    ∃ later, History asked origin (later ++ past) s.run := by
  fun_induction Session.run s generalizing past with
  | case1 s none => exact ⟨[], h⟩
  | case2 s task rest found ih =>
    obtain ⟨later, h⟩ := ih (h.step task rest found)
    refine ⟨later ++ [s], ?_⟩
    rw [List.append_assoc]
    exact h

/-- Making calls one after the other is a history. -/
theorem History.respondAll {past : List Session} {s : Session}
    (h : History asked origin past s) (idle : s.tasks = []) (calls : List Call)
    (all : ∀ call ∈ calls, asked call) :
    ∃ later, History asked origin (later ++ past) (s.respondAll calls).1 ∧
      (s.respondAll calls).1.tasks = [] := by
  induction calls generalizing past s with
  | nil => exact ⟨[], h, idle⟩
  | cons call rest ih =>
    obtain ⟨later, done⟩ := (h.ask call idle (all call List.mem_cons_self)).run
    have idle : (s.ask call).run.tasks = [] := (s.ask call).tasks_run
    obtain ⟨latest, h, idle⟩ := ih done idle fun call h => all call (List.mem_cons_of_mem _ h)
    refine ⟨latest ++ (later ++ [s]), ?_, idle⟩
    rw [List.append_assoc, List.append_assoc]
    exact h

/-- The states that so many steps lead through, the latest first. -/
def trail (s : Session) : Nat → List Session
  | 0 => []
  | count + 1 => Session.step^[count] s :: s.trail count

theorem mem_trail {s t : Session} {count : Nat} :
    t ∈ s.trail count ↔ ∃ k < count, t = Session.step^[k] s := by
  induction count with
  | zero => exact ⟨nofun, nofun⟩
  | succ count ih =>
    rw [trail, List.mem_cons, ih]
    constructor
    · rintro (rfl | ⟨k, earlier, rfl⟩)
      · exact ⟨count, Nat.lt_succ_self count, rfl⟩
      · exact ⟨k, Nat.lt_succ_of_lt earlier, rfl⟩
    · rintro ⟨k, bound, rfl⟩
      rcases Nat.lt_succ_iff_lt_or_eq.mp bound with earlier | rfl
      · exact .inr ⟨k, earlier, rfl⟩
      · exact .inl rfl

/-- What is found in the states that so many steps lead through, the earliest first. -/
def gather {α : Type} (find : Session → Option α) (s : Session) (count : Nat) : List α :=
  (s.trail count).reverse.filterMap find

theorem gather_succ {α : Type} (find : Session → Option α) (s : Session) (count : Nat) :
    s.gather find (count + 1) =
      s.gather find count ++ (find (Session.step^[count] s)).toList := by
  rw [gather, trail, List.reverse_cons, List.filterMap_append]
  rfl

theorem History.trail {past : List Session} {s : Session} (h : History asked origin past s)
    (count : Nat) (busy : ∀ k < count, (Session.step^[k] s).tasks ≠ []) :
    History asked origin (s.trail count ++ past) (Session.step^[count] s) := by
  induction count with
  | zero => exact h
  | succ count ih =>
    have before := ih fun k bound => busy k (Nat.lt_succ_of_lt bound)
    rw [Function.iterate_succ_apply']
    cases found : (Session.step^[count] s).tasks with
    | nil => exact (busy count (Nat.lt_succ_self count) found).elim
    | cons task rest => exact before.step task rest found

/-- A run that is over after so many steps. -/
theorem run_eq_iterate {s : Session} (count : Nat) (h : (Session.step^[count] s).tasks = []) :
    s.run = Session.step^[count] s := by
  induction count generalizing s with
  | zero => exact run_of_no_tasks h
  | succ count ih =>
    rw [Function.iterate_succ_apply] at h ⊢
    cases found : s.tasks with
    | nil =>
      rw [step_of_no_tasks found] at h ⊢
      exact ih h
    | cons task rest =>
      rw [run_of_tasks found]
      exact ih h

end Session

/-! ## Which calls are made -/

/-- Every call in some scripts is one of these. -/
def AllCalls (these : Call → Prop) (scripts : List Script) : Prop :=
  ∀ script ∈ scripts, ∀ call ∈ script, these call

/-- Every call in the scripts that an observer has left is one of these. -/
def Observer.All (these : Call → Prop) (observer : Observer Script) : Prop :=
  ∀ notice scripts, observer.scripts notice = some scripts → AllCalls these scripts

theorem Observer.All.next {these : Call → Prop} {observer : Observer Script}
    (h : observer.All these) (notice : Notice) : (observer.next notice).All these := by
  have tail {slot : Option (List Script)}
      (h : ∀ scripts, slot = some scripts → AllCalls these scripts) (scripts : List Script)
      (left : slot.map List.tail = some scripts) : AllCalls these scripts := by
    obtain ⟨all, found, rfl⟩ := Option.map_eq_some_iff.mp left
    intro script mem
    exact h all found script (List.mem_of_mem_tail mem)
  intro kind scripts left
  have here := h kind
  cases notice <;> cases kind <;>
    first
    | exact here scripts left
    | exact tail here scripts left

/-- Calls that are asked from outside and calls in scripts, such that what is attached by one
    that is asked has only the latter. -/
structure Hereditary (asked scripted : Call → Prop) : Prop where
  script : ∀ call, scripted call → asked call
  attach : ∀ observer, asked (.attach observer) → observer.All scripted
  attachSink : ∀ scripts, asked (.attachSink scripts) → AllCalls scripted scripts

/-- All scripts that an observer has left. -/
def Observer.left (observer : Observer Script) : List Script :=
  observer.changing.getD [] ++ observer.stabilized.getD [] ++ observer.targetChanged.getD []

theorem Observer.all_of_left {these : Call → Prop} {observer : Observer Script}
    (h : AllCalls these observer.left) : observer.All these := by
  intro notice scripts found script mem
  apply h script
  unfold Observer.left
  cases notice with
  | changing =>
    change observer.changing = some scripts at found
    rw [found]
    exact List.mem_append_left _ (List.mem_append_left _ mem)
  | stabilized =>
    change observer.stabilized = some scripts at found
    rw [found]
    exact List.mem_append_left _ (List.mem_append_right _ mem)
  | targetChanged =>
    change observer.targetChanged = some scripts at found
    rw [found]
    exact List.mem_append_right _ mem

/-- The scripts of the observer or the sink that a call attaches. -/
def Call.scripts : Call → List Script
  | .attach observer => observer.left
  | .attachSink scripts => scripts
  | _ => []

/-- A call and all those in the scripts that it attaches, and so on, pass a test. -/
inductive Call.Throughout (test : Call → Bool) : Call → Prop
  | intro (call : Call) : test call = true →
      (∀ script ∈ call.scripts, ∀ inner ∈ script, inner.Throughout test) → call.Throughout test

namespace Call

variable {test : Call → Bool}

theorem Throughout.head {call : Call} (h : call.Throughout test) : test call = true := by
  cases h
  assumption

theorem Throughout.scripts {call : Call} (h : call.Throughout test) :
    AllCalls (·.Throughout test) call.scripts := by
  cases h
  assumption

/-- A call that attaches nothing has only itself to pass the test. -/
theorem throughout_of_test {call : Call} (none : call.scripts = []) (h : test call = true) :
    call.Throughout test := by
  refine .intro call h ?_
  rw [none]
  nofun

theorem hereditary_throughout : Hereditary (·.Throughout test) (·.Throughout test) where
  script _ h := h
  attach _ h := Observer.all_of_left h.scripts
  attachSink _ h := h.scripts

/-- Any call may be asked that attaches only what passes the test throughout. -/
theorem hereditary_scripts :
    Hereditary (fun call => AllCalls (·.Throughout test) call.scripts) (·.Throughout test) where
  script _ h := h.scripts
  attach _ h := Observer.all_of_left h
  attachSink _ h := h

end Call

namespace Session

/-- The observers that may still be told something. -/
def Hears (s : Session) (id : ObserverId) : Prop :=
  s.device.observer = some id ∨ ∃ notice, Task.tell id notice ∈ s.tasks

/-- Only calls of these two kinds are or will be made, until others are asked from outside. -/
structure Scripted (asked scripted : Call → Prop) (s : Session) : Prop where
  calls : ∀ call, Task.call call ∈ s.tasks → asked call
  observers : ∀ id observer, s.Hears id → s.observers[id]? = some observer → observer.All scripted
  sinks : ∀ id scripts, s.device.sink = some id → s.sinks[id]? = some scripts →
    AllCalls scripted scripts

namespace Scripted

variable {asked scripted : Call → Prop} {s : Session}

/-- With fewer calls to make and fewer listeners, no others are made. -/
theorem mono (h : s.Scripted asked scripted) {s' : Session}
    (calls : ∀ call, Task.call call ∈ s'.tasks → asked call)
    (hears : ∀ id, s'.Hears id → s.Hears id) (observers : s'.observers = s.observers)
    (sink : ∀ id, s'.device.sink = some id → s.device.sink = some id)
    (sinks : s'.sinks = s.sinks) : s'.Scripted asked scripted where
  calls := calls
  observers id observer heard found := by
    rw [observers] at found
    exact h.observers id observer (hears id heard) found
  sinks id scripts attached found := by
    rw [sinks] at found
    exact h.sinks id scripts (sink id attached) found

theorem tail {task : Task} {rest : List Task} (h : s.Scripted asked scripted)
    (found : s.tasks = task :: rest) : { s with tasks := rest }.Scripted asked scripted := by
  refine h.mono ?_ ?_ rfl (fun _ attached => attached) rfl
  · intro call mem
    apply h.calls call
    rw [found]
    exact List.mem_cons_of_mem _ mem
  · rintro id (attached | ⟨notice, mem⟩)
    · exact .inl attached
    · refine .inr ⟨notice, ?_⟩
      rw [found]
      exact List.mem_cons_of_mem _ mem

/-- What is changed of the device does not matter as long as the same listen, and neither
    does what is answered, noted, filed or saved. -/
theorem device (h : s.Scripted asked scripted) {device : Device} {files : FileTree}
    {snapshots : List (String × List UInt8)} {states : List (String × SavedState)}
    {answers : List Answer} {outer : List (List Answer)} {log : List Entry}
    (observer : device.observer = s.device.observer) (sink : device.sink = s.device.sink) :
    { s with device, files, snapshots, states, answers, outer, log }.Scripted asked scripted := by
  refine h.mono h.calls ?_ rfl ?_ rfl
  · rintro id (attached | told)
    · exact .inl (observer ▸ attached)
    · exact .inr told
  · intro id attached
    exact sink ▸ attached

/-- Tasks that neither begin a call nor tell an unheard observer something may be put first. -/
theorem first (h : s.Scripted asked scripted) {tasks : List Task}
    (calls : ∀ call, Task.call call ∈ tasks → asked call)
    (tells : ∀ id notice, Task.tell id notice ∈ tasks → s.Hears id) :
    (s.first tasks).Scripted asked scripted := by
  refine h.mono ?_ ?_ rfl (fun _ attached => attached) rfl
  · intro call mem
    rcases List.mem_append.mp mem with mem | mem
    · exact calls call mem
    · exact h.calls call mem
  · rintro id (attached | ⟨notice, mem⟩)
    · exact .inl attached
    · rcases List.mem_append.mp mem with mem | mem
      · exact tells id notice mem
      · exact .inr ⟨notice, mem⟩

theorem announce (h : s.Scripted asked scripted) (due : Option Notice) :
    (s.announce due).Scripted asked scripted := by
  rcases s.announce_cases due with ⟨-, same⟩ | ⟨notice, id, -, attached, told⟩
  · rw [same]
    exact h
  · rw [told]
    refine h.first ?_ ?_
    · intro call mem
      cases List.mem_singleton.mp mem
    · intro id' notice' mem
      cases List.mem_singleton.mp mem
      exact .inl attached

/-- A script may be taken up whose calls are all of the kind of scripts. -/
theorem enter (hereditary : Hereditary asked scripted) (h : s.Scripted asked scripted)
    {script : Script} (all : ∀ call ∈ script, scripted call) {back : Task}
    (ends : back = .resume ∨ ∃ notice, back = .leave notice) :
    (s.enter script back).Scripted asked scripted := by
  have new {task : Task} (mem : task ∈ (s.enter script back).tasks) :
      (∃ call ∈ script, task = .call call) ∨ task = back ∨ task ∈ s.tasks := by
    simp only [Session.enter, List.mem_append, List.mem_map, List.mem_cons] at mem
    rcases mem with ⟨call, mem, rfl⟩ | mem
    · exact .inl ⟨call, mem, rfl⟩
    · exact .inr mem
  refine h.mono ?_ ?_ rfl (fun _ attached => attached) rfl
  · intro call mem
    rcases new mem with ⟨_, mem, same⟩ | same | mem
    · cases same
      exact hereditary.script call (all call mem)
    · rcases ends with rfl | ⟨notice, rfl⟩ <;> cases same
    · exact h.calls call mem
  · rintro id (attached | ⟨notice, mem⟩)
    · exact .inl attached
    · rcases new mem with ⟨_, -, same⟩ | same | mem
      · cases same
      · rcases ends with rfl | ⟨notice, rfl⟩ <;> cases same
      · exact .inr ⟨notice, mem⟩

theorem tell (hereditary : Hereditary asked scripted) (h : s.Scripted asked scripted)
    {id : ObserverId} {notice : Notice}
    (all : ∀ observer, s.observers[id]? = some observer → observer.All scripted) :
    (s.tell id notice).Scripted asked scripted := by
  rcases s.tell_cases id notice with same | noted | ⟨observer, script, rest, found, left, entered⟩
  · rw [same]
    exact h
  · rw [noted]
    exact h.device rfl rfl
  · have mine := all observer found
    have moved : ({ s with observers := s.observers.set id (observer.next notice) }.note
        (.began notice)).Scripted asked scripted := by
      refine ⟨h.calls, ?_, h.sinks⟩
      intro id' observer' heard found'
      change (s.observers.set id (observer.next notice))[id']? = some observer' at found'
      by_cases same : id = id'
      · subst same
        obtain ⟨bound, -⟩ := List.getElem?_eq_some_iff.mp found
        rw [List.getElem?_set_self bound] at found'
        cases found'
        exact mine.next notice
      · rw [List.getElem?_set_ne same] at found'
        exact h.observers id' observer' heard found'
    rw [entered]
    exact enter hereditary moved (mine notice _ left script List.mem_cons_self)
      (.inr ⟨notice, rfl⟩)

theorem record (hereditary : Hereditary asked scripted) (h : s.Scripted asked scripted)
    {id : SinkId} (attached : s.device.sink = some id) (event : Event) :
    (s.record id event).Scripted asked scripted := by
  rcases s.record_cases id event with noted | ⟨script, rest, found, entered⟩
  · rw [noted]
    exact h.device rfl rfl
  · have mine := h.sinks id _ attached found
    have moved : ({ s with sinks := s.sinks.set id rest }.note
        (.recorded event s.device.time)).Scripted asked scripted := by
      refine ⟨h.calls, h.observers, ?_⟩
      intro id' scripts attached' found'
      change s.device.sink = some id' at attached'
      change (s.sinks.set id rest)[id']? = some scripts at found'
      rw [attached] at attached'
      cases attached'
      obtain ⟨bound, -⟩ := List.getElem?_eq_some_iff.mp found
      rw [List.getElem?_set_self bound] at found'
      cases found'
      intro script mem
      exact mine script (List.mem_cons_of_mem _ mem)
    rw [entered]
    exact enter hereditary moved (mine script List.mem_cons_self) (.inl rfl)

theorem carryOut (h : s.Scripted asked scripted) (changes : List Change) (answer : Answer) :
    (s.carryOut changes answer).Scripted asked scripted := by
  have inert {task : Task} (mem : task ∈ changes.flatMap Change.tasks ++ [.answer answer]) :
      (∀ call, task ≠ .call call) ∧ ∀ id notice, task ≠ .tell id notice := by
    rcases List.mem_append.mp mem with mem | mem
    · obtain ⟨change, -, mem⟩ := List.mem_flatMap.mp mem
      cases change <;> simp only [Change.tasks, List.mem_cons, List.not_mem_nil, or_false] at mem
      · rcases mem with rfl | rfl | rfl <;> exact ⟨nofun, nofun⟩
      · rcases mem with rfl | rfl <;> exact ⟨nofun, nofun⟩
    · cases List.mem_singleton.mp mem
      exact ⟨nofun, nofun⟩
  refine h.first ?_ ?_
  · intro call mem
    exact ((inert mem).1 call rfl).elim
  · intro id notice mem
    exact ((inert mem).2 id notice rfl).elim

theorem attach (h : s.Scripted asked scripted) {observer : Observer Script}
    (all : observer.All scripted) : (s.attach observer).Scripted asked scripted := by
  have new {task : Task} (mem : task ∈ (s.attach observer).tasks) :
      (∃ notice, task = .tell s.observers.length notice) ∨ task = .answer .done ∨
        task ∈ s.tasks := by
    rcases List.mem_append.mp mem with mem | mem
    · split at mem <;> simp only [List.cons_append, List.nil_append, List.mem_cons,
        List.not_mem_nil, or_false] at mem
      · rcases mem with rfl | rfl | rfl
        · exact .inl ⟨_, rfl⟩
        · exact .inl ⟨_, rfl⟩
        · exact .inr (.inl rfl)
      · rcases mem with rfl | rfl | rfl | rfl
        · exact .inl ⟨_, rfl⟩
        · exact .inl ⟨_, rfl⟩
        · exact .inl ⟨_, rfl⟩
        · exact .inr (.inl rfl)
    · exact .inr (.inr mem)
  refine ⟨?_, ?_, h.sinks⟩
  · intro call mem
    rcases new mem with ⟨_, same⟩ | same | mem
    · cases same
    · cases same
    · exact h.calls call mem
  · intro id observer' heard found
    change (s.observers ++ [observer])[id]? = some observer' at found
    by_cases fresh : id = s.observers.length
    · rw [fresh, List.getElem?_concat_length] at found
      cases found
      exact all
    · have old : s.Hears id := by
        rcases heard with attached | ⟨notice, mem⟩
        · cases attached
          exact (fresh rfl).elim
        · rcases new mem with ⟨_, same⟩ | same | mem
          · cases same
            exact (fresh rfl).elim
          · cases same
          · exact .inr ⟨notice, mem⟩
      obtain ⟨bound, -⟩ := List.getElem?_eq_some_iff.mp found
      rw [List.length_append, List.length_singleton] at bound
      rw [List.getElem?_append_left (Nat.lt_of_le_of_ne (Nat.le_of_lt_succ bound) fresh)] at found
      exact h.observers id observer' old found

theorem attachSink (h : s.Scripted asked scripted) {scripts : List Script}
    (all : AllCalls scripted scripts) : (s.attachSink scripts).Scripted asked scripted := by
  refine ⟨h.calls, ?_, ?_⟩
  · rintro id observer (attached | told) found
    · exact h.observers id observer (.inl attached) found
    · exact h.observers id observer (.inr told) found
  · intro id left attached found
    cases attached
    change (s.sinks ++ [scripts])[s.sinks.length]? = some left at found
    rw [List.getElem?_concat_length] at found
    cases found
    exact all

/-- Tasks that begin no call and tell nothing may be put first. -/
theorem plain (h : s.Scripted asked scripted) {tasks : List Task}
    (calls : ∀ call, Task.call call ∉ tasks) (tells : ∀ id notice, Task.tell id notice ∉ tasks) :
    (s.first tasks).Scripted asked scripted :=
  h.first (fun call mem => (calls call mem).elim) fun id notice mem => (tells id notice mem).elim

theorem reply (h : s.Scripted asked scripted) (answer : Answer) :
    (s.reply answer).Scripted asked scripted :=
  h.device rfl rfl

theorem begin (hereditary : Hereditary asked scripted) (h : s.Scripted asked scripted)
    {call : Call} (made : asked call) : (s.begin call).Scripted asked scripted := by
  have begun := s.begins_begin call
  generalize s.begin call = next at begun
  cases begun with
  | reads => exact h.device rfl rfl
  | configures _ detached silenced =>
    refine h.mono h.calls ?_ rfl ?_ rfl
    · rintro id (attached | told)
      · rcases detached with rfl | ⟨-, rfl⟩
        · exact .inl attached
        · cases attached
      · exact .inr told
    · intro id attached
      rcases silenced with rfl | rfl
      · exact attached
      · cases attached
  | changes => exact h.carryOut _ _
  | records _ attached => exact (h.carryOut _ _).record hereditary attached _
  | advances => exact h.plain (by simp) (by simp)
  | settles => exact h.plain (by simp) (by simp)
  | attaches => exact h.attach (hereditary.attach _ made)
  | attachesSink => exact (h.attachSink (hereditary.attachSink _ made)).reply _

theorem perform (hereditary : Hereditary asked scripted) (h : s.Scripted asked scripted)
    {task : Task} (made : ∀ call, task = .call call → asked call)
    (told : ∀ id notice, task = .tell id notice →
      ∀ observer, s.observers[id]? = some observer → observer.All scripted) :
    (s.perform task).Scripted asked scripted := by
  cases task with
  | call call => exact h.begin hereditary (made call rfl)
  | mark =>
    have marked : { s with device := s.device.markChanging.1 }.Scripted asked scripted := by
      rw [Device.markChanging_eq]
      exact h.device rfl rfl
    exact marked.announce _
  | retarget p value approach =>
    obtain ⟨observer, sink⟩ := s.device.listeners_retarget p value approach
    exact h.device observer sink
  | clearOverrides =>
    have cleared : { s with device := s.device.clearOverrides }.Scripted asked scripted :=
      h.device rfl rfl
    exact cleared.announce _
  | override sensor value => exact h.device rfl rfl
  | advance now =>
    obtain ⟨observer, sink⟩ := s.device.listeners_advance now
    have moved : { s with device := (s.device.advance now).1 }.Scripted asked scripted :=
      h.device observer sink
    exact moved.announce _
  | settle now step rounds limit =>
    simp only [Session.perform]
    split
    · exact h.plain (by simp) (by simp)
    · exact h.reply _
  | tell id notice => exact h.tell hereditary (told id notice rfl)
  | leave notice => exact h.device rfl rfl
  | resume => exact h.device rfl rfl
  | answer answer => exact h.reply answer

theorem step (hereditary : Hereditary asked scripted) (h : s.Scripted asked scripted) :
    s.step.Scripted asked scripted := by
  cases found : s.tasks with
  | nil =>
    rw [step_of_no_tasks found]
    exact h
  | cons task rest =>
    have first : task ∈ s.tasks := by
      rw [found]
      exact List.mem_cons_self
    rw [step_of_tasks found]
    refine (h.tail found).perform hereditary ?_ ?_
    · rintro call rfl
      exact h.calls call first
    · rintro id notice rfl observer listed
      exact h.observers id observer (.inr ⟨notice, first⟩) listed

theorem ask (h : s.Scripted asked scripted) {call : Call} (made : asked call) :
    (s.ask call).Scripted asked scripted := by
  refine h.mono ?_ ?_ rfl (fun _ attached => attached) rfl
  · intro call' mem
    cases List.mem_singleton.mp mem
    exact made
  · rintro id (attached | ⟨notice, mem⟩)
    · exact .inl attached
    · cases List.mem_singleton.mp mem

end Scripted

end Session

end Sensorium
