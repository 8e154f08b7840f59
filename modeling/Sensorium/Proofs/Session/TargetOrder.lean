import Sensorium.Proofs.Session.LoadOrder
import Sensorium.Proofs.Session.Playback

/-!
# Targets in any order

A new target depends on where the parameter is that is set, on the moment and on nothing else,
and moves only what the parameter moves. So at one moment targets of parameters that share
nothing may be set in any order. `Session.set` is what setting one of them comes to when nobody
who listens makes a call, with all that was noted left out; it does not say which target it was
except in the device. That swaps do not matter is `set_comm`, and `respondAll_goals_eq` takes
it to all orders: not even those who listen can tell.
-/

namespace Sensorium

/-- A target that is to be set. -/
structure Goal where
  parameter : Parameter
  value : Value
  approach : Approach
  deriving DecidableEq, Repr

namespace Goal

def call (x : Goal) : Call := .setTarget x.parameter x.value x.approach

def change (x : Goal) : Change :=
  .target x.parameter (x.value.conform x.parameter.kind) x.approach

/-- The event that is recorded of it. -/
def event (x : Goal) : Event :=
  .ofTarget x.parameter (x.value.conform x.parameter.kind) x.approach

def group (x : Goal) : Parameter := x.parameter.group

end Goal

/-- Both lists hold the same goals, and those of each group in the same order. -/
def SameByGroup (xs ys : List Goal) : Prop :=
  ∀ p, xs.filter (·.group = p) = ys.filter (·.group = p)

namespace Session

/-- What was noted, apart from the events that were recorded. -/
def heardOf (log : List Entry) : List Entry := log.filter fun entry => (recorded? entry).isNone

/-- What came of a call, without what was recorded. -/
def Response.heard (response : Response) : Response :=
  { response with log := heardOf response.log }

/-! ## Setting one target -/

/-- The observers when the one that is attached, which makes no calls, has been told
    something. -/
def attend (attached : Option ObserverId) (observers : List (Observer Script)) (notice : Notice) :
    List (Observer Script) :=
  match attached with
  | none => observers
  | some id =>
    match observers[id]? with
    | none => observers
    | some observer =>
      match observer.scripts notice with
      | some (_ :: _) => observers.set id (observer.next notice)
      | _ => observers

/-- The session when a target has been set, with nothing noted. -/
def set (s : Session) (x : Goal) : Session :=
  { s with
    device := s.device.make x.change
    observers := (s.device.notices x.change).foldl (attend s.device.observer) s.observers
    sinks := s.handed }

variable {s t : Session} {x y : Goal}

theorem observers_hear (s : Session) (notice : Notice) :
    (s.hear notice).observers = attend s.device.observer s.observers notice := by
  unfold hear attend
  cases attached : s.device.observer with
  | none => rfl
  | some id =>
    simp only []
    cases found : s.observers[id]? with
    | none => rfl
    | some observer =>
      simp only []
      cases left : observer.scripts notice with
      | none => rfl
      | some scripts => cases scripts <;> rfl

theorem observers_foldl_hear (s : Session) (notices : List Notice) :
    (notices.foldl hear s).observers = notices.foldl (attend s.device.observer) s.observers := by
  induction notices generalizing s with
  | nil => rfl
  | cons notice rest ih =>
    have kept : (s.hear notice).device = s.device := s.device_foldl_hear [notice]
    rw [List.foldl_cons, List.foldl_cons, ih, observers_hear, kept]

theorem cleared_make (s : Session) (change : Change) :
    (s.make change).cleared =
      { s.cleared with
        device := s.device.make change
        observers := (s.device.notices change).foldl (attend s.device.observer) s.observers } := by
  obtain ⟨observers, log, heard⟩ := s.foldl_hear_eq (s.device.notices change)
  rw [← observers_foldl_hear, make, heard]
  rfl

theorem run_ask_call (passive : s.Passive) (x : Goal) :
    (s.ask x.call).run =
      ({ s.cleared with sinks := s.handed, log := s.taken x.event }.make x.change).reply .done :=
  run_ask_setTarget passive x.parameter x.value x.approach

/-- Setting a target comes to that, up to what is noted. -/
theorem cleared_ask_call (passive : s.Passive) (x : Goal) :
    (s.ask x.call).run.cleared = s.cleared.set x := by
  rw [run_ask_call passive]
  exact cleared_make { s.cleared with sinks := s.handed, log := s.taken x.event } x.change

/-- Once the device is changing, the only notice of a new target is that it has changed. -/
theorem notices_make (d : Device) (x y : Goal) :
    (d.make x.change).notices y.change = [.targetChanged] := by
  simp only [Goal.change, Device.notices, Device.edge, Device.changing_make, if_true,
    List.nil_append]

/-- Targets of parameters that share nothing may change places. -/
theorem set_comm (s : Session) (other : x.group ≠ y.group) :
    (s.set x).set y = (s.set y).set x := by
  have device : (s.device.make x.change).make y.change = (s.device.make y.change).make x.change :=
    s.device.make_comm other _ _ _ _
  -- who listens is told the same of either, and again of the other
  have notices : s.device.notices x.change = s.device.notices y.change := rfl
  simp only [set, handed, notices_make, device, notices, Device.observer_make, Device.sink_make]

theorem Passive.call (passive : s.Passive) (x : Goal) : (s.respond x.call).1.Passive :=
  passive.respond rfl

/-- Setting one target after the other. -/
theorem cleared_respondAll (passive : s.Passive) (xs : List Goal) :
    (s.respondAll (xs.map Goal.call)).1.cleared = xs.foldl set s.cleared := by
  induction xs generalizing s with
  | nil => rfl
  | cons x rest ih =>
    rw [List.foldl_cons, ← cleared_ask_call passive]
    exact ih (passive.call x)

/-! ## What is heard of it -/

/-- Whoever listens to two sessions has heard the same and will hear the same of a new target. -/
structure SameAudience (s t : Session) : Prop where
  observers : t.observers = s.observers
  observer : t.device.observer = s.device.observer
  changing : t.device.changing = s.device.changing
  time : t.device.time = s.device.time
  heard : heardOf t.log = heardOf s.log

namespace SameAudience

theorem refl (s : Session) : s.SameAudience s := ⟨rfl, rfl, rfl, rfl, rfl⟩

theorem hear (h : s.SameAudience t) (notice : Notice) :
    (s.hear notice).SameAudience (t.hear notice) := by
  obtain ⟨observers, observer, changing, time, heard⟩ := h
  have noted (entries : List Entry) :
      heardOf (entries ++ t.log) = heardOf (entries ++ s.log) := by
    simp only [heardOf, List.filter_append] at heard ⊢
    rw [heard]
  unfold Session.hear
  rw [observer, observers]
  split
  · exact ⟨observers, observer, changing, time, heard⟩
  · split
    · exact ⟨observers, observer, changing, time, heard⟩
    · split
      · exact ⟨observers, observer, changing, time, heard⟩
      · exact ⟨observers, observer, changing, time, noted [.began notice]⟩
      · exact ⟨rfl, observer, changing, time, noted [.ended notice [], .began notice]⟩

theorem foldl_hear (h : s.SameAudience t) (notices : List Notice) :
    (notices.foldl Session.hear s).SameAudience (notices.foldl Session.hear t) := by
  induction notices generalizing s t with
  | nil => exact h
  | cons notice rest ih => exact ih (h.hear notice)

/-- No one who listens hears which target it is that has changed. -/
theorem make (h : s.SameAudience t) (x y : Goal) :
    (s.make x.change).SameAudience (t.make y.change) := by
  have notices : t.device.notices y.change = s.device.notices x.change := by
    simp only [Goal.change, Device.notices, Device.edge, h.changing]
  have told := h.foldl_hear (s.device.notices x.change)
  simp only [Session.make, notices]
  refine ⟨told.observers, ?_, ?_, ?_, told.heard⟩
  · change (t.device.make y.change).observer = (s.device.make x.change).observer
    rw [Device.observer_make, Device.observer_make, h.observer]
  · change (t.device.make y.change).changing = (s.device.make x.change).changing
    rw [Device.changing_make, Device.changing_make]
  · change (t.device.make y.change).time = (s.device.make x.change).time
    rw [Device.time_make, Device.time_make, h.time]

/-- What comes of setting a target does not tell which one it was. -/
theorem respond (h : s.SameAudience t) (passive : s.Passive) (passive' : t.Passive)
    (x y : Goal) :
    (s.respond x.call).1.SameAudience (t.respond y.call).1 ∧
      (s.respond x.call).2.heard = (t.respond y.call).2.heard := by
  have silent (u : Session) (event : Event) : heardOf (u.taken event) = [] := by
    unfold taken
    split <;> rfl
  have asked : (s.ask x.call).run.SameAudience (t.ask y.call).run := by
    have before : { s.cleared with sinks := s.handed, log := s.taken x.event }.SameAudience
        { t.cleared with sinks := t.handed, log := t.taken y.event } :=
      ⟨h.observers, h.observer, h.changing, h.time, (silent t _).trans (silent s _).symm⟩
    have after := before.make x y
    rw [run_ask_call passive, run_ask_call passive']
    exact ⟨after.observers, after.observer, after.changing, after.time, after.heard⟩
  refine ⟨asked, ?_⟩
  have answers (u : Session) (passive : u.Passive) (z : Goal) :
      (u.ask z.call).run.answers.headD .done = .done := by
    rw [run_ask_call passive]
    rfl
  have told : heardOf (s.ask x.call).run.log.reverse =
      heardOf (t.ask y.call).run.log.reverse := by
    rw [heardOf, heardOf, List.filter_reverse, List.filter_reverse]
    exact congrArg List.reverse asked.heard.symm
  simp only [Session.respond, Response.heard, answers s passive x, answers t passive' y,
    asked.changing, asked.time, told]

/-- The same is heard of as many targets, whichever they are. -/
theorem respondAll (h : s.SameAudience t) (passive : s.Passive) (passive' : t.Passive)
    {xs ys : List Goal} (long : xs.length = ys.length) :
    (s.respondAll (xs.map Goal.call)).2.map Response.heard =
      (t.respondAll (ys.map Goal.call)).2.map Response.heard := by
  induction xs generalizing s t ys with
  | nil =>
    cases ys with
    | nil => rfl
    | cons => cases long
  | cons x xs ih =>
    cases ys with
    | nil => cases long
    | cons y ys =>
      obtain ⟨after, heard⟩ := h.respond passive passive' x y
      have rest := ih after (passive.call x) (passive'.call y) (Nat.succ.inj long)
      simp only [List.map_cons, Session.respondAll, heard, rest]

end SameAudience

/-! ## Setting them in any order -/

/-- What comes of calls depends on nothing that was noted before. -/
theorem respondAll_of_cleared (same : t.cleared = s.cleared) (calls : List Call) :
    (t.respondAll calls).2 = (s.respondAll calls).2 ∧
      (t.respondAll calls).1.cleared = (s.respondAll calls).1.cleared := by
  cases calls with
  | nil => exact ⟨rfl, same⟩
  | cons call rest =>
    have asked : t.ask call = s.ask call :=
      congrArg (fun u : Session => { u with tasks := [.call call] }) same
    simp only [respondAll, respond, asked, and_self]

/-- Goals that are the same in each group may be made in any order: the device is the same,
    and so is everything else but what was recorded, those who listen have heard the same after
    every call, and whatever is asked then, the same comes of it. -/
theorem respondAll_goals_eq (passive : s.Passive) {xs ys : List Goal}
    (same : SameByGroup xs ys) :
    let first := s.respondAll (xs.map Goal.call)
    let second := s.respondAll (ys.map Goal.call)
    second.1.device = first.1.device ∧ second.1.cleared = first.1.cleared ∧
      second.2.map Response.heard = first.2.map Response.heard ∧
      ∀ calls, (second.1.respondAll calls).2 = (first.1.respondAll calls).2 ∧
        (second.1.respondAll calls).1.cleared = (first.1.respondAll calls).1.cleared := by
  intro first second
  have folded : xs.foldl set s.cleared = ys.foldl set s.cleared := by
    apply foldl_eq_of_filter_eq Goal.group
    · intro x _ y _ other u
      exact u.set_comm other
    · exact same
  have cleared : second.1.cleared = first.1.cleared := by
    rw [cleared_respondAll passive, cleared_respondAll passive, folded]
  have long : ys.length = xs.length := (perm_of_filter_eq Goal.group same).symm.length_eq
  have device : second.1.cleared.device = first.1.cleared.device := by rw [cleared]
  refine ⟨device, cleared, ?_, respondAll_of_cleared cleared⟩
  exact (SameAudience.refl s).respondAll passive passive long

/-- A new device with an observer that only listens and a sink that only records. -/
def attended : Session :=
  { watched with sinks := [[[]]], device := { watched.device with sink := some 0 } }

theorem passive_attended : attended.Passive where
  observer := observerPassive_watched
  sink := passive_taped.sink

/-- The device is moved, pushed and turned, and the light is changed twice. -/
def someGoals : List Goal :=
  [⟨.condition .light, .scalar 1, .smooth⟩, ⟨.position, .vector ⟨1, 2, 1⟩, .step⟩,
    ⟨.condition .light, .scalar 2, .smooth⟩, ⟨.velocity, .vector ⟨0, 1, 0⟩, .smooth⟩,
    ⟨.rotation, .vector ⟨0, 1, 0⟩, .smooth⟩]

/-- The same, with the changes of the light still in the same order, and the push after the
    move. -/
def otherGoals : List Goal :=
  [⟨.rotation, .vector ⟨0, 1, 0⟩, .smooth⟩, ⟨.position, .vector ⟨1, 2, 1⟩, .step⟩,
    ⟨.velocity, .vector ⟨0, 1, 0⟩, .smooth⟩, ⟨.condition .light, .scalar 1, .smooth⟩,
    ⟨.condition .light, .scalar 2, .smooth⟩]

theorem respondAll_goals_attended :
    attended.Passive ∧ SameByGroup someGoals otherGoals ∧
      let first := attended.respondAll (someGoals.map Goal.call)
      let second := attended.respondAll (otherGoals.map Goal.call)
      second.1.device = first.1.device ∧ second.1.cleared = first.1.cleared ∧
        second.2.map Response.heard = first.2.map Response.heard ∧
        ∀ calls, (second.1.respondAll calls).2 = (first.1.respondAll calls).2 ∧
          (second.1.respondAll calls).1.cleared = (first.1.respondAll calls).1.cleared := by
  have same : SameByGroup someGoals otherGoals := by
    intro p
    cases p with
    | condition c => cases c <;> decide
    | _ => decide
  exact ⟨passive_attended, same, respondAll_goals_eq passive_attended same⟩

end Session

end Sensorium
