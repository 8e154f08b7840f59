import Sensorium.Proofs.Session.SaveLoad

/-!
# Loading a full state forgets what was before

A new target is approached from the present value, so it depends on what a device has gone
through, unless the value was put in place before. A saved state that puts every parameter in
place does so before the last approach of each, and puts the body in its place before all that
moves it. What a device is like when such a state has been loaded depends on nothing but its
settings and the moment: `Device.Agree` says of one parameter after the other that what it moves
is the same in two devices, and once it is, it stays so.
-/

namespace Sensorium

/-! ## Where things are now

What a target is approached from depends on the settings, the moment and the track alone.
-/

theorem Body.eq_of_parts {b c : Body} (settings : c.settings = b.settings) (now : c.now = b.now)
    (motion : c.motion = b.motion) (turn : c.turn = b.turn) (tremor : c.tremor = b.tremor) :
    c = b := by
  cases b
  cases c
  cases settings
  cases now
  cases motion
  cases turn
  cases tremor
  rfl

theorem Conditions.ext_get {α : Type} {items others : Conditions α}
    (h : ∀ c, items.get c = others.get c) : items = others := by
  obtain ⟨t, p, l, r, m⟩ := items
  obtain ⟨t', p', l', r', m'⟩ := others
  obtain rfl : t = t' := h .temperature
  obtain rfl : p = p' := h .proximity
  obtain rfl : l = l' := h .light
  obtain rfl : r = r' := h .pressure
  obtain rfl : m = m' := h .humidity
  rfl

theorem Surroundings.eq_of_parts {s t : Surroundings} (settings : t.settings = s.settings)
    (now : t.now = s.now) (field : t.field = s.field)
    (conditions : ∀ c, t.conditions.get c = s.conditions.get c) : t = s := by
  have conditions : t.conditions = s.conditions := Conditions.ext_get conditions
  cases s
  cases t
  cases settings
  cases now
  cases field
  cases conditions
  rfl

namespace Body

variable {b c : Body} (settings : c.settings = b.settings) (now : c.now = b.now)
include settings now

theorem translation_congr (motion : c.motion = b.motion) : c.translation = b.translation := by
  unfold translation frequency
  rw [settings, now, motion]

theorem rotation_congr (turn : c.turn = b.turn) : c.rotation = b.rotation := by
  unfold rotation turnAhead turnProgress frequency
  rw [settings, now, turn]

theorem tremorBound_congr (tremor : c.tremor = b.tremor) : c.tremorBound = b.tremorBound := by
  unfold tremorBound frequency
  rw [settings, now, tremor]

end Body

theorem Surroundings.remaining_congr {s t : Surroundings} (settings : t.settings = s.settings)
    (now : t.now = s.now) : t.remaining = s.remaining := by
  funext since
  unfold remaining
  rw [settings, now]

/-! ## Devices that agree -/

namespace Device

/-- Two devices whose bodies and surroundings have the same settings and are at the same
    moment. -/
structure Contemporary (d e : Device) : Prop where
  body : e.body.settings = d.body.settings
  bodyNow : e.body.now = d.body.now
  surroundings : e.surroundings.settings = d.surroundings.settings
  surroundingsNow : e.surroundings.now = d.surroundings.now

/-- What a parameter moves is the same in two devices. Position and velocity share one motion. -/
def Agree (d e : Device) : Parameter → Prop
  | .position | .velocity => e.body.motion = d.body.motion
  | .rotation => e.body.turn = d.body.turn
  | .magneticField => e.surroundings.field = d.surroundings.field
  | .condition c => e.surroundings.conditions.get c = d.surroundings.conditions.get c
  | .ambientMotion => e.body.tremor = d.body.tremor

variable {d e : Device}

theorem agree_group (p : Parameter) : d.Agree e p.group ↔ d.Agree e p := by
  cases p <;> exact Iff.rfl

/-- A new target of a parameter leaves alone what others move that share nothing with it. -/
theorem agree_make_other {p q : Parameter} (other : p.group ≠ q.group) (value : Value)
    (approach : Approach) :
    (d.make (.target q value approach)).Agree (e.make (.target q value approach)) p ↔
      d.Agree e p := by
  cases p <;> cases q
  case condition.condition c c' =>
    have apart : c ≠ c' := by
      rintro rfl
      exact other rfl
    simp only [Agree, make, marked, retarget, clearOverrides, Surroundings.setCondition,
      Conditions.get_set, if_neg apart]
  all_goals first | exact (other rfl).elim | exact Iff.rfl | cases approach <;> exact Iff.rfl

namespace Contemporary

variable (same : d.Contemporary e)
include same

theorem make (change : Change) : (d.make change).Contemporary (e.make change) := by
  obtain ⟨body, bodyNow, surroundings, surroundingsNow⟩ := same
  cases change with
  | override sensor value => exact ⟨body, bodyNow, surroundings, surroundingsNow⟩
  | target p value approach =>
    cases p with
    | position => cases approach <;> exact ⟨body, bodyNow, surroundings, surroundingsNow⟩
    | _ => exact ⟨body, bodyNow, surroundings, surroundingsNow⟩

theorem makeAll (changes : List Change) :
    (d.makeAll changes).Contemporary (e.makeAll changes) := by
  induction changes generalizing d e with
  | nil => exact same
  | cons change rest ih => exact ih (same.make change)

/-- A new target starts from where the parameter is, which is the same in both. -/
theorem agree_make_self {q : Parameter} (agree : d.Agree e q) (value : Value)
    (approach : Approach) :
    (d.make (.target q value approach)).Agree (e.make (.target q value approach)) q := by
  cases q with
  | position =>
    have here := Body.translation_congr same.body same.bodyNow agree
    cases approach with
    | step =>
      change Motion.resting e.body.now value.toVector = .resting d.body.now value.toVector
      rw [same.bodyNow]
    | smooth =>
      change Motion.mk e.body.now e.body.translation.position e.body.translation.velocity _ =
        Motion.mk d.body.now d.body.translation.position d.body.translation.velocity _
      rw [same.bodyNow, here]
  | velocity =>
    have here := Body.translation_congr same.body same.bodyNow agree
    change (e.body.setVelocity value.toVector approach).motion =
      (d.body.setVelocity value.toVector approach).motion
    simp only [Body.setVelocity, same.bodyNow, here]
  | rotation =>
    have here := Body.rotation_congr same.body same.bodyNow agree
    change Track.retarget e.body.now e.body.rotation _ approach =
      .retarget d.body.now d.body.rotation _ approach
    rw [same.bodyNow, here]
  | ambientMotion =>
    have here := Body.tremorBound_congr same.body same.bodyNow agree
    change Track.retarget e.body.now e.body.tremorBound _ approach =
      .retarget d.body.now d.body.tremorBound _ approach
    rw [same.bodyNow, here]
  | magneticField =>
    have left := Surroundings.remaining_congr same.surroundings same.surroundingsNow
    have track : e.surroundings.field = d.surroundings.field := agree
    change Track.retarget e.surroundings.now (e.surroundings.vectorAt e.surroundings.field) _
      approach = .retarget d.surroundings.now (d.surroundings.vectorAt d.surroundings.field) _
      approach
    unfold Surroundings.vectorAt
    rw [same.surroundingsNow, track, left]
  | condition c =>
    have left := Surroundings.remaining_congr same.surroundings same.surroundingsNow
    have track : e.surroundings.conditions.get c = d.surroundings.conditions.get c := agree
    simp only [Agree, Device.make, marked, retarget, clearOverrides, Surroundings.setCondition,
      Conditions.get_set, if_true, Surroundings.scalarAt, same.surroundingsNow, track, left]

/-- A parameter that is put in place is where it is put, whatever was before. Only the motion
    that goes with a velocity starts from where the body is. -/
theorem agree_make_step {q : Parameter} (placed : q ≠ .velocity) (value : Value) :
    (d.make (.target q value .step)).Agree (e.make (.target q value .step)) q := by
  cases q with
  | velocity => exact (placed rfl).elim
  | position =>
    change Motion.resting e.body.now value.toVector = .resting d.body.now value.toVector
    rw [same.bodyNow]
  | rotation | ambientMotion =>
    change Track.resting e.body.now _ = .resting d.body.now _
    rw [same.bodyNow]
  | magneticField =>
    change Track.resting e.surroundings.now _ = .resting d.surroundings.now _
    rw [same.surroundingsNow]
  | condition c =>
    simp only [Agree, Device.make, marked, retarget, clearOverrides, Surroundings.setCondition,
      Conditions.get_set, if_true, Track.retarget, same.surroundingsNow]

theorem agree_make {p : Parameter} (agree : d.Agree e p) (change : Change) :
    (d.make change).Agree (e.make change) p := by
  cases change with
  | override sensor value => cases p <;> exact agree
  | target q value approach =>
    by_cases shared : p.group = q.group
    · rw [← agree_group, shared, agree_group]
      rw [← agree_group, shared, agree_group] at agree
      exact same.agree_make_self agree value approach
    · exact (agree_make_other shared value approach).mpr agree

theorem agree_makeAll {p : Parameter} (agree : d.Agree e p) (changes : List Change) :
    (d.makeAll changes).Agree (e.makeAll changes) p := by
  induction changes generalizing d e with
  | nil => exact agree
  | cons change rest ih => exact ih (same.make change) (same.agree_make agree change)

/-- Devices agree on a parameter after changes one of which puts it in place. -/
theorem agree_of_step {p : Parameter} (placed : p ≠ .velocity) {value : Value}
    {changes : List Change} (mem : .target p value .step ∈ changes) :
    (d.makeAll changes).Agree (e.makeAll changes) p := by
  obtain ⟨before, after, rfl⟩ := List.append_of_mem mem
  rw [makeAll_append, makeAll_append]
  have same := same.makeAll before
  exact (same.make _).agree_makeAll (same.agree_make_step placed value) after

/-- Devices that agree on everything have the same body and the same surroundings. -/
theorem eq_of_agree (agree : ∀ p, d.Agree e p) :
    e.body = d.body ∧ e.surroundings = d.surroundings := by
  constructor
  · exact Body.eq_of_parts same.body same.bodyNow (agree .position) (agree .rotation)
      (agree .ambientMotion)
  · exact Surroundings.eq_of_parts same.surroundings same.surroundingsNow (agree .magneticField)
      fun c => agree (.condition c)

end Contemporary

end Device

/-! ## Plans that put everything in place -/

namespace SavedState

variable {state : SavedState}

/-- A value in the first slot of an event puts the parameter that it is about in place. -/
theorem step_mem_plan {p : Parameter} (alone : p ≠ .position ∧ p ≠ .velocity) {event : Event}
    (mem : event ∈ state.events) (about : event.parameter? = some p) {payload : Payload}
    (given : event.current = some payload) :
    .target p (.ofList p.kind payload) .step ∈ state.plan := by
  have immediate : immediate event = event.plan := by
    unfold immediate
    rw [about]
    cases p with
    | position => exact (alone.1 rfl).elim
    | velocity => exact (alone.2 rfl).elim
    | _ => rfl
  have put : (Value.ofList p.kind payload, Approach.step) ∈ event.changes p := by
    rw [Event.changes, Event.currentAs, given]
    exact List.mem_cons_self
  apply List.mem_append_left
  apply List.mem_append_left
  refine List.mem_flatMap.mpr ⟨event, mem, ?_⟩
  rw [immediate, Event.plan, about]
  exact List.mem_map.mpr ⟨_, put, rfl⟩

/-- The body is always put in some place. -/
theorem position_mem_plan (state : SavedState) :
    ∃ value, .target .position value .step ∈ state.plan :=
  ⟨_, List.mem_append_left _ (List.mem_append_right _ List.mem_cons_self)⟩

/-- The last thing that is done is to set a target. -/
theorem plan_eq_concat (state : SavedState) :
    ∃ before p value approach, state.plan = before ++ [.target p value approach] := by
  simp only [plan]
  by_cases still : (state.lastVector .velocity Event.targetAs).eqv .zero = true
  · rw [if_pos still]
    exact ⟨_, _, _, _, rfl⟩
  · rw [if_neg still]
    exact ⟨_, _, _, _, rfl⟩

end SavedState

/-- The events put every parameter in place; the body is put in its place anyway. -/
def SavedState.Full (state : SavedState) : Prop :=
  ∀ p, p ≠ .position → p ≠ .velocity →
    ∃ event ∈ state.events, event.parameter? = some p ∧ event.current ≠ none

namespace Device

variable {d e : Device}

/-- The state of any device is full. -/
theorem full_savedState (d : Device) : d.savedState.Full := by
  intro p _ _
  have listed : p ∈ Parameter.all := List.mem_of_getElem? p.getElem_all_index
  refine ⟨.ofValues p (d.value p .still) (d.value p .target), ?_, ?_, nofun⟩
  · exact List.mem_map.mpr ⟨p, listed, rfl⟩
  · exact Event.parameter?_ofValues p _ _

/-- Loading a full state leaves two devices of one moment with the same body and the same
    surroundings. -/
theorem Contemporary.eq_of_full (same : d.Contemporary e) {state : SavedState}
    (full : state.Full) :
    (e.makeAll state.plan).body = (d.makeAll state.plan).body ∧
      (e.makeAll state.plan).surroundings = (d.makeAll state.plan).surroundings := by
  apply (same.makeAll state.plan).eq_of_agree
  have motion : (d.makeAll state.plan).Agree (e.makeAll state.plan) .position := by
    obtain ⟨value, mem⟩ := state.position_mem_plan
    have placed : Parameter.position ≠ .velocity := nofun
    exact same.agree_of_step placed mem
  intro p
  by_cases position : p = .position
  · rw [position]
    exact motion
  · by_cases velocity : p = .velocity
    · rw [velocity]
      exact motion
    · obtain ⟨event, mem, about, given⟩ := full p position velocity
      obtain ⟨payload, given⟩ := Option.ne_none_iff_exists'.mp given
      exact same.agree_of_step velocity
        (SavedState.step_mem_plan ⟨position, velocity⟩ mem about given)

/-- A device that has just loaded a state overrides nothing and is changing. -/
theorem makeAll_plan_settles (d : Device) (state : SavedState) :
    (∀ sensor, (d.makeAll state.plan).board.override? sensor = none) ∧
      (d.makeAll state.plan).changing = true := by
  obtain ⟨before, p, value, approach, last⟩ := state.plan_eq_concat
  rw [last, makeAll_append]
  exact ⟨override?_make_target _ p value approach,
    changing_make (d.makeAll before) (.target p value approach)⟩

end Device

/-! ## Moments -/

theorem Body.now_advance (b : Body) (now : Nanos) : (b.advance now).1.now = now := by
  simp only [advance]
  split <;> rfl

theorem Surroundings.settings_advance (s : Surroundings) (now : Nanos) :
    (s.advance now).1.settings = s.settings ∧ (s.advance now).1.now = now := by
  simp only [advance]
  split <;> exact ⟨rfl, rfl⟩

theorem Device.time_advance (d : Device) {now : Nanos} (later : d.time ≤ now) :
    (d.advance now).1.time = now := by
  rcases d.advance_cases now with ⟨past, -⟩ | ⟨-, stable | ⟨body, surroundings, -, moving⟩⟩
  · exact (Int.not_lt.mpr later past).elim
  · rw [stable]
  · rw [moving]

/-- The device was made from these settings, and all of it is at the moment of the device. -/
structure Device.From (settings : Settings) (d : Device) : Prop where
  body : d.body.settings = settings
  bodyNow : d.body.now = d.time
  surroundings : d.surroundings.settings = settings
  surroundingsNow : d.surroundings.now = d.time

namespace Device

variable {settings : Settings} {d e : Device}

theorem From.contemporary (h : d.From settings) (h' : e.From settings) (time : e.time = d.time) :
    d.Contemporary e where
  body := h'.body.trans h.body.symm
  bodyNow := by rw [h'.bodyNow, h.bodyNow, time]
  surroundings := h'.surroundings.trans h.surroundings.symm
  surroundingsNow := by rw [h'.surroundingsNow, h.surroundingsNow, time]

theorem from_of_start? (started : start? settings = .ok d) : d.From settings := by
  obtain ⟨rfl, -⟩ := finite_of_start? started
  exact ⟨rfl, rfl, rfl, rfl⟩

theorem From.retarget (h : d.From settings) (p : Parameter) (value : Value)
    (approach : Approach) : (d.retarget p value approach).From settings := by
  obtain ⟨body, bodyNow, surroundings, surroundingsNow⟩ := h
  cases p with
  | position => cases approach <;> exact ⟨body, bodyNow, surroundings, surroundingsNow⟩
  | _ => exact ⟨body, bodyNow, surroundings, surroundingsNow⟩

theorem From.advance (h : d.From settings) (now : Nanos) : (d.advance now).1.From settings := by
  have body := (Device.settings_advance d.body now).trans h.body
  have bodyNow := d.body.now_advance now
  obtain ⟨surroundings, surroundingsNow⟩ := d.surroundings.settings_advance now
  rw [h.surroundings] at surroundings
  unfold Device.advance
  split
  · exact h
  · simp only [markChanging_eq]
    split
    · split <;> exact ⟨body, bodyNow, surroundings, surroundingsNow⟩
    · exact ⟨body, bodyNow, surroundings, surroundingsNow⟩

end Device

namespace Session

variable {settings : Settings} {s t : Session}

theorem from_perform (h : s.device.From settings) (task : Task) :
    (s.perform task).device.From settings := by
  have kept {d : Device} (body : d.body = s.device.body)
      (surroundings : d.surroundings = s.device.surroundings) (time : d.time = s.device.time) :
      d.From settings := by
    constructor
    · rw [body, h.body]
    · rw [body, time, h.bodyNow]
    · rw [surroundings, h.surroundings]
    · rw [surroundings, time, h.surroundingsNow]
  cases task with
  | call call =>
    obtain ⟨board, observer, sink, trace, -, device⟩ := s.device_begin call
    rw [perform, device]
    exact kept rfl rfl rfl
  | mark =>
    rw [device_mark]
    exact kept rfl rfl rfl
  | retarget p value approach => exact h.retarget p value approach
  | advance now =>
    rw [device_advance]
    exact h.advance now
  | clearOverrides =>
    simp only [perform, device_announce]
    exact kept rfl rfl rfl
  | settle now step rounds limit =>
    simp only [perform]
    split <;> exact h
  | tell id notice =>
    rw [perform, device_tell]
    exact h
  | override sensor value => exact kept rfl rfl rfl
  | leave notice | resume | answer answer => exact h

/-- Whatever is asked, a device is the one that was made from its settings. -/
theorem History.madeFrom {asked : Call → Prop} {origin : Session} {past : List Session}
    (run : History asked origin past s) (started : Device.start? settings = .ok origin.device) :
    s.device.From settings := by
  induction run with
  | start => exact Device.from_of_start? started
  | @step past s task rest run found ih =>
    rw [step_of_tasks found]
    exact from_perform (s := { s with tasks := rest }) ih task
  | ask _ _ _ _ ih => exact ih

/-- Some history leads to the session, from a device that was just made from these settings. -/
def ReachableFrom (settings : Settings) (s : Session) : Prop :=
  ∃ origin past, Device.start? settings = .ok origin.device ∧ origin.tasks = [] ∧
    History (fun _ => True) origin past s

theorem ReachableFrom.device (h : s.ReachableFrom settings) : s.device.From settings := by
  obtain ⟨origin, past, started, -, run⟩ := h
  exact run.madeFrom started

/-- Two sessions with devices made from the same settings, at the same moment, are left with
    the same body and the same surroundings by loading a full state, whatever was asked of
    either before. No sensor is overridden any more, and both devices are changing. -/
theorem respond_loadState_forgets (first : s.ReachableFrom settings)
    (second : t.ReachableFrom settings) (time : t.device.time = s.device.time)
    (passive : s.ObserverPassive) (passive' : t.ObserverPassive) {state : SavedState}
    (full : state.Full) :
    let d := (s.respond (.loadState (.state state))).1.device
    let e := (t.respond (.loadState (.state state))).1.device
    e.body = d.body ∧ e.surroundings = d.surroundings ∧
      (∀ sensor, d.board.override? sensor = none ∧ e.board.override? sensor = none) ∧
      d.changing = true ∧ e.changing = true := by
  intro d e
  have hd : d = s.device.makeAll state.plan := (respond_of_carryOut passive rfl).1
  have he : e = t.device.makeAll state.plan := (respond_of_carryOut passive' rfl).1
  obtain ⟨body, surroundings⟩ :=
    (first.device.contemporary second.device time).eq_of_full full
  obtain ⟨cleared, changing⟩ := s.device.makeAll_plan_settles state
  obtain ⟨cleared', changing'⟩ := t.device.makeAll_plan_settles state
  rw [hd, he]
  exact ⟨body, surroundings, fun sensor => ⟨cleared sensor, cleared' sensor⟩, changing, changing'⟩

theorem device_respond_advance (passive : s.ObserverPassive) (now : Nanos) :
    (s.respond (.advance now)).1.device = (s.device.advance now).1 :=
  congrArg Session.device (run_ask_advance passive now)

/-- A new device that has waited for a second. -/
def waiting : Session := (unused.respondAll [.advance 1000000000]).1

/-- What a new device is set to, after light has been told to get brighter. -/
def brightening : SavedState where
  time := 0
  events := .ofTarget (.condition .light) (.scalar 2) .smooth :: unused.device.savedState.events

theorem full_brightening : brightening.Full := by
  intro p position velocity
  obtain ⟨event, mem, about⟩ := unused.device.full_savedState p position velocity
  exact ⟨event, List.mem_cons_of_mem _ mem, about⟩

theorem reachableFrom_respondAll (calls : List Call) :
    (unused.respondAll calls).1.ReachableFrom {} := by
  have begins : History (fun _ => True) unused [] unused := .start
  obtain ⟨past, run, -⟩ := begins.respondAll fresh_unused.idle calls fun _ _ => trivial
  exact ⟨unused, past ++ [], start?_unused, fresh_unused.idle, run⟩

/-- What was overridden and how fast the body drifted is forgotten. -/
theorem respond_loadState_forgets_drifting :
    drifting.ReachableFrom {} ∧ waiting.ReachableFrom {} ∧
      waiting.device.time = drifting.device.time ∧ drifting.ObserverPassive ∧
      waiting.ObserverPassive ∧ brightening.Full ∧
      let d := (drifting.respond (.loadState (.state brightening))).1.device
      let e := (waiting.respond (.loadState (.state brightening))).1.device
      e.body = d.body ∧ e.surroundings = d.surroundings ∧
        (∀ sensor, d.board.override? sensor = none ∧ e.board.override? sensor = none) ∧
        d.changing = true ∧ e.changing = true := by
  have first : drifting.ReachableFrom {} := reachableFrom_respondAll _
  have second : waiting.ReachableFrom {} := reachableFrom_respondAll _
  have waited : waiting.device = (unused.device.advance 1000000000).1 :=
    device_respond_advance passive_unused.observer 1000000000
  have time : waiting.device.time = drifting.device.time := by
    have second : (0 : Nanos) ≤ 1000000000 := by decide
    have pushed : (unused.device.make
        (.target .velocity (.vector ⟨1, 2, 0⟩) .step)).time ≤ 1000000000 := by
      rw [Device.time_make]
      exact second
    rw [waited, device_drifting, Device.time_make, Device.time_advance _ pushed]
    exact Device.time_advance _ second
  have passive : drifting.ObserverPassive :=
    (passive_unused.respondAll (by simp [Call.plain])).observer
  have passive' : waiting.ObserverPassive :=
    (passive_unused.respondAll (by simp [Call.plain])).observer
  refine ⟨first, second, time, passive, passive', full_brightening, ?_⟩
  exact respond_loadState_forgets first second time passive passive' full_brightening

end Session

end Sensorium
