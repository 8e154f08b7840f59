import Sensorium.Proofs.Session.Outcome
import Sensorium.Proofs.Session.SaveLoad

/-!
# Bystanders

A run can be watched. Anywhere between its calls, somebody may read sensors and parameters, save
states and snapshots, or attach and detach observers and sinks that make no calls. The run takes
the same course as without them, as `Session.undisturbed` says, only that each of their readings
may count a measurement. `Device.Beside` is the relation between the devices of the two runs: it
is kept by every call that is made to both, and a bystander adds to what the second is ahead.
-/

namespace Sensorium

/-! ## Gauges -/

namespace Gauge

/-- The gauge when so many measurements more have been made. -/
def ahead (gauge : Gauge) (extra : UInt64) : Gauge :=
  { gauge with measurement := gauge.measurement + extra }

variable (gauge : Gauge) (extra : UInt64)

@[simp] theorem override_ahead : (gauge.ahead extra).override = gauge.override := rfl

@[simp] theorem measurement_ahead :
    (gauge.ahead extra).measurement = gauge.measurement + extra := rfl

theorem counted_ahead : (gauge.ahead extra).counted = gauge.counted.ahead extra := by
  have comm : gauge.measurement + extra + 1 = gauge.measurement + 1 + extra := by
    rw [UInt64.add_assoc, UInt64.add_comm extra, UInt64.add_assoc]
  simp only [ahead, counted, comm]

end Gauge

/-! ## Devices -/

/-- Two devices that differ in who listens to them and in the trace that is recorded, and in
    that the sensors of the second are so many measurements ahead. -/
structure Device.Beside (extra : Sensor → UInt64) (d e : Device) : Prop
    extends d.SameMotion e where
  time : e.time = d.time
  gauge : ∀ sensor, e.board.gauge sensor = (d.board.gauge sensor).ahead (extra sensor)

namespace Device

theorem gauge_make_target (d : Device) (p : Parameter) (value : Value) (approach : Approach)
    (sensor : Sensor) : (d.make (.target p value approach)).board.gauge sensor =
      { d.board.gauge sensor with override := none } := by
  rw [make, retarget_eq]
  exact Board.gauge_clear ..

namespace Beside

variable {extra : Sensor → UInt64} {d e : Device} (h : d.Beside extra e)
include h

theorem eq : e =
    { d with board := e.board, observer := e.observer, sink := e.sink, trace := e.trace } := by
  obtain ⟨⟨body, surroundings, changing⟩, time, -⟩ := h
  rw [← body, ← surroundings, ← changing, ← time]

theorem override? (sensor : Sensor) : e.board.override? sensor = d.board.override? sensor := by
  rw [Board.override?, h.gauge, Gauge.override_ahead, Board.override?]

theorem sameState {d' e' : Device} (first : d.SameState d') (second : e.SameState e') :
    d'.Beside extra e' where
  body := second.body.trans (h.body.trans first.body.symm)
  surroundings := second.surroundings.trans (h.surroundings.trans first.surroundings.symm)
  changing := second.changing.trans (h.changing.trans first.changing.symm)
  time := second.time.trans (h.time.trans first.time.symm)
  gauge := by
    rw [first.board, second.board]
    exact h.gauge

theorem value (p : Parameter) (aspect : Aspect) : e.value p aspect = d.value p aspect :=
  value_congr h.body h.surroundings p aspect

theorem shown (sensor : Sensor) : e.shown sensor = d.shown sensor := by
  rw [Device.shown, h.override?, measured_congr h.body h.surroundings, Device.shown]

theorem snapshot : e.snapshot = d.snapshot := by
  have overrides : e.board.override? = d.board.override? := funext h.override?
  simp only [Device.snapshot, h.value, overrides]

theorem savedState : e.savedState = d.savedState := by
  simp only [Device.savedState, h.value, h.time]

/-! Changes from outside and the course of time -/

theorem make (change : Change) : (d.make change).Beside extra (e.make change) := by
  have motion : (d.make change).SameMotion (e.make change) ∧
      (e.make change).time = (d.make change).time := by
    rw [h.eq]
    cases change with
    | override sensor value => exact ⟨⟨rfl, rfl, rfl⟩, rfl⟩
    | target p value approach => cases p <;> exact ⟨⟨rfl, rfl, rfl⟩, rfl⟩
  refine ⟨motion.1, motion.2, ?_⟩
  intro t
  cases change with
  | target p value approach =>
    rw [gauge_make_target, gauge_make_target, h.gauge t]
    rfl
  | override sensor value =>
    change (e.board.override sensor value).gauge t =
      ((d.board.override sensor value).gauge t).ahead (extra t)
    rw [Board.gauge_override, Board.gauge_override]
    by_cases same : t = sensor
    · subst same
      rw [if_pos rfl, if_pos rfl, h.gauge t]
      exact congrArg (fun gauge : Gauge => { gauge with override := some value })
        ((d.board.gauge t).counted_ahead (extra t))
    · rw [if_neg same, if_neg same]
      exact h.gauge t

theorem makeAll (changes : List Change) :
    (d.makeAll changes).Beside extra (e.makeAll changes) := by
  induction changes generalizing d e with
  | nil => exact h
  | cons change rest ih => exact ih (h.make change)

theorem advance (now : Nanos) : (d.advance now).1.Beside extra (e.advance now).1 := by
  have counted (sensor : Sensor) : e.board.countAll.gauge sensor =
      (d.board.countAll.gauge sensor).ahead (extra sensor) := by
    rw [Board.gauge_countAll, Board.gauge_countAll, h.gauge, Gauge.counted_ahead]
  rw [h.eq]
  simp only [Device.advance, markChanging_eq]
  split
  · exact ⟨⟨rfl, rfl, rfl⟩, rfl, h.gauge⟩
  · split
    · split
      · exact ⟨⟨rfl, rfl, rfl⟩, rfl, counted⟩
      · exact ⟨⟨rfl, rfl, rfl⟩, rfl, h.gauge⟩
    · exact ⟨⟨rfl, rfl, rfl⟩, rfl, h.gauge⟩

theorem settle (step : Nanos) (left : Nat) (now : Nanos) :
    (d.settle step left now).Beside extra (e.settle step left now) := by
  induction left generalizing d e now with
  | zero => exact h
  | succ left ih =>
    rw [Device.settle, Device.settle, h.changing]
    split
    · exact ih (h.advance (now + step)) (now + step)
    · exact h

/-! Readings -/

theorem gaugeAfter (sensor : Sensor) :
    e.gaugeAfter sensor = (d.gaugeAfter sensor).ahead (extra sensor) := by
  unfold Device.gaugeAfter
  rw [h.override?, h.changing, h.gauge]
  split
  · exact Gauge.counted_ahead ..
  · rfl

/-- Readings that are made in both runs count the same. -/
theorem read {sensors : List Sensor} {board board' : Board} (after : d.BoardAfter sensors board)
    (after' : e.BoardAfter sensors board') :
    { d with board }.Beside extra { e with board := board' } := by
  refine ⟨⟨h.body, h.surroundings, h.changing⟩, h.time, ?_⟩
  intro sensor
  change board'.gauge sensor = (board.gauge sensor).ahead (extra sensor)
  rw [after sensor, after' sensor]
  split
  · exact h.gaugeAfter sensor
  · exact h.gauge sensor

/-- Readings that are made in the second run only put its sensors further ahead. -/
theorem read_right {call : Call} {board : Board} (after : e.BoardAfter call.sensors board) :
    d.Beside (fun sensor => extra sensor + .ofNat (e.counts sensor call)) { e with board } := by
  refine ⟨⟨h.body, h.surroundings, h.changing⟩, h.time, ?_⟩
  intro sensor
  change board.gauge sensor = _
  rw [after.gauge, Board.measurement, h.gauge]
  simp only [Gauge.ahead, UInt64.add_assoc]

end Beside

end Device

/-! ## Calls of a run and calls of bystanders -/

/-- A name under which something is saved. -/
inductive Slot where
  | snapshot (name : String)
  | state (name : String)

namespace Call

/-- Where a call saves something. -/
def saved? : Call → Option Slot
  | .saveSnapshot name => some (.snapshot name)
  | .saveState name => some (.state name)
  | _ => none

/-- What was saved before and is loaded by a call. -/
def loaded? : Call → Option Slot
  | .loadSnapshot (.slot name) _ => some (.snapshot name)
  | .loadState (.slot name) => some (.state name)
  | _ => none

/-- True for a call that a bystander may make: it only reads, or somebody starts or stops to
    listen. -/
def bystands : Call → Bool
  | .attach _ | .detach | .attachSink _ | .detachSink => true
  | call => call.onlyReads

end Call

/-- A call in a run with bystanders. -/
inductive Item where
  | own (call : Call)
  | inserted (call : Call)

namespace Item

def call : Item → Call
  | own call | inserted call => call

/-- The call, if it is made without bystanders too. -/
def own? : Item → Option Call
  | own call => some call
  | inserted _ => none

/-- Nobody is attached who makes calls, and what bystanders save is not loaded by the run. -/
def Harmless (scratch : Slot → Prop) : Item → Prop
  | own call => PassiveScripts call.scripts ∧ ∀ slot, call.loaded? = some slot → ¬ scratch slot
  | inserted call => call.bystands = true ∧ PassiveScripts call.scripts ∧
    ∀ slot, call.saved? = some slot → scratch slot

theorem Harmless.scripts {scratch : Slot → Prop} {item : Item} (h : item.Harmless scratch) :
    PassiveScripts item.call.scripts := by
  cases item with
  | own call => exact h.1
  | inserted call => exact h.2.1

end Item

namespace Session

/-- The measurements of a sensor that are counted in a run because bystanders read it. -/
def insertedReads (sensor : Sensor) : Session → List Item → Nat
  | _, [] => 0
  | s, .own call :: rest => insertedReads sensor (s.respond call).1 rest
  | s, .inserted call :: rest =>
    s.device.counts sensor call + insertedReads sensor (s.respond call).1 rest

/-- Two sessions with devices beside each other, which have saved the same, apart from what was
    saved under some names by bystanders. -/
structure Beside (scratch : Slot → Prop) (extra : Sensor → UInt64) (s t : Session) : Prop where
  device : s.device.Beside extra t.device
  snapshots : ∀ name, ¬ scratch (.snapshot name) → kept t.snapshots name = kept s.snapshots name
  states : ∀ name, ¬ scratch (.state name) → kept t.states name = kept s.states name

theorem kept_append {α : Type} (items rest : List (String × α)) (name : String) :
    kept (items ++ rest) name = (kept items name).or (kept rest name) := by
  rw [kept, List.find?_append, Option.map_or]
  rfl

theorem kept_singleton_ne {α : Type} {name other : String} (h : name ≠ other) (item : α) :
    kept [(name, item)] other = none := by
  simp only [kept, List.find?_singleton, h, decide_false]
  rfl

namespace Beside

variable {scratch : Slot → Prop} {extra : Sensor → UInt64} {s t : Session}

theorem alike (h : s.Beside scratch extra t) {s' t' : Session} (first : s.Alike s')
    (second : t.Alike t') : s'.Beside scratch extra t' where
  device := h.device.sameState first.device second.device
  snapshots := by
    rw [first.snapshots, second.snapshots]
    exact h.snapshots
  states := by
    rw [first.states, second.states]
    exact h.states

/-- A call that does not load what bystanders saved makes the same changes in both runs. -/
theorem plan (h : s.Beside scratch extra t) {call : Call}
    (loads : ∀ slot, call.loaded? = some slot → ¬ scratch slot) : t.plan call = s.plan call := by
  cases call with
  | loadState source =>
    cases source with
    | slot name => simp only [Session.plan, stateOf, h.states name (loads _ rfl)]
    | state state => rfl
  | loadSnapshot source cut =>
    cases source with
    | slot name => simp only [Session.plan, bytesOf, h.snapshots name (loads _ rfl)]
    | bytes bytes => rfl
  | _ => rfl

theorem effect (h : s.Beside scratch extra t) {call : Call}
    (loads : ∀ slot, call.loaded? = some slot → ¬ scratch slot) :
    (s.effect call).Beside extra (t.effect call) := by
  cases call with
  | advance now => exact h.device.advance now
  | settle step limit =>
    simp only [Session.effect, h.device.time]
    exact (h.device.advance _).settle step limit _
  | _ =>
    simp only [Session.effect, h.plan loads]
    exact h.device.makeAll _

/-- A call that is made in both runs keeps them beside each other. -/
theorem own (h : s.Beside scratch extra t) (passive : s.Passive) (passive' : t.Passive)
    {call : Call} (harmless : (Item.own call).Harmless scratch) :
    (s.respond call).1.Beside scratch extra (t.respond call).1 := by
  obtain ⟨scripts, loads⟩ := harmless
  by_cases reads : call.onlyReads = true
  · obtain ⟨board, after, alike⟩ := s.respond_reads reads
    obtain ⟨board', after', alike'⟩ := t.respond_reads reads
    refine Beside.alike ?_ alike alike'
    refine ⟨h.device.read after after', ?_, ?_⟩
    · intro name apart
      have saved : call.snapshots t.device = call.snapshots s.device := by
        cases call <;> first | rfl | simp only [Call.snapshots, h.device.snapshot]
      rw [kept_append, kept_append, saved, h.snapshots name apart]
    · intro name apart
      have saved : call.states t.device = call.states s.device := by
        cases call <;> first | rfl | simp only [Call.states, h.device.savedState]
      rw [kept_append, kept_append, saved, h.states name apart]
  · have acts : call.onlyReads = false := by simpa using reads
    refine Beside.alike ?_ (respond_acts passive acts scripts) (respond_acts passive' acts scripts)
    exact ⟨h.effect loads, h.snapshots, h.states⟩

/-- A call of a bystander only puts the sensors that it reads further ahead. -/
theorem inserted (h : s.Beside scratch extra t) (passive : t.Passive) {call : Call}
    (harmless : (Item.inserted call).Harmless scratch) :
    s.Beside scratch (fun sensor => extra sensor + .ofNat (t.device.counts sensor call))
      (t.respond call).1 := by
  obtain ⟨bystands, scripts, saves⟩ := harmless
  have same : s.Alike s := ⟨.refl _, rfl, rfl⟩
  by_cases reads : call.onlyReads = true
  · obtain ⟨board, after, alike⟩ := t.respond_reads reads
    refine Beside.alike ?_ same alike
    refine ⟨h.device.read_right after, ?_, ?_⟩
    · intro name apart
      have other : kept (call.snapshots t.device) name = none := by
        cases call with
        | saveSnapshot slot =>
          apply kept_singleton_ne
          rintro rfl
          exact apart (saves _ rfl)
        | _ => rfl
      rw [kept_append, other, Option.none_or]
      exact h.snapshots name apart
    · intro name apart
      have other : kept (call.states t.device) name = none := by
        cases call with
        | saveState slot =>
          apply kept_singleton_ne
          rintro rfl
          exact apart (saves _ rfl)
        | _ => rfl
      rw [kept_append, other, Option.none_or]
      exact h.states name apart
  · have acts : call.onlyReads = false := by simpa using reads
    have idle : t.effect call = t.device := by
      cases call <;> first | rfl | cases bystands
    have unread : t.device.BoardAfter call.sensors t.device.board := by
      rw [Call.sensors_of_acts acts]
      exact t.device.boardAfter_nil
    refine Beside.alike ?_ same (respond_acts passive acts scripts)
    rw [idle]
    exact ⟨h.device.read_right unread, h.snapshots, h.states⟩

end Beside

/-- With bystanders or without, a run takes the same course. -/
theorem Beside.respondAll {scratch : Slot → Prop} {extra : Sensor → UInt64} {s t : Session}
    (h : s.Beside scratch extra t) (passive : s.Passive) (passive' : t.Passive)
    {items : List Item} (harmless : ∀ item ∈ items, item.Harmless scratch) :
    (s.respondAll (items.filterMap Item.own?)).1.Beside scratch
      (fun sensor => extra sensor + .ofNat (t.insertedReads sensor items))
      (t.respondAll (items.map Item.call)).1 := by
  induction items generalizing s t extra with
  | nil =>
    have none : (fun sensor => extra sensor + .ofNat (t.insertedReads sensor [])) = extra :=
      funext fun sensor => UInt64.add_zero (extra sensor)
    rw [none]
    exact h
  | cons item rest ih =>
    have first := harmless item List.mem_cons_self
    have others : ∀ item ∈ rest, item.Harmless scratch :=
      fun item mem => harmless item (List.mem_cons_of_mem _ mem)
    have next' := passive'.respond_of_scripts first.scripts
    cases item with
    | own call =>
      exact ih (h.own passive passive' first) (passive.respond_of_scripts first.scripts) next' others
    | inserted call =>
      have later := ih (h.inserted passive' first) passive next' others
      simp only [UInt64.add_assoc, ← UInt64.ofNat_add] at later
      exact later

/-- Reading, saving and listening do not interfere with a run. -/
theorem undisturbed {s : Session} (passive : s.Passive) {scratch : Slot → Prop}
    {items : List Item} (harmless : ∀ item ∈ items, item.Harmless scratch) (n : Nat) :
    let d := (s.respondAll ((items.take n).filterMap Item.own?)).1.device
    let e := (s.respondAll ((items.take n).map Item.call)).1.device
    e.body = d.body ∧ e.surroundings = d.surroundings ∧ e.time = d.time ∧
      e.changing = d.changing ∧ (∀ p aspect, e.value p aspect = d.value p aspect) ∧
      ∀ sensor, e.board.override? sensor = d.board.override? sensor ∧
        e.shown sensor = d.shown sensor ∧
        e.board.measurement sensor =
          d.board.measurement sensor + .ofNat (s.insertedReads sensor (items.take n)) := by
  intro d e
  have begins : s.Beside scratch (fun _ => 0) s := by
    refine ⟨⟨⟨rfl, rfl, rfl⟩, rfl, ?_⟩, fun _ _ => rfl, fun _ _ => rfl⟩
    intro sensor
    simp only [Gauge.ahead, UInt64.add_zero]
  have first : ∀ item ∈ items.take n, item.Harmless scratch :=
    fun item mem => harmless item (List.mem_of_mem_take mem)
  have beside := (begins.respondAll passive passive first).device
  refine ⟨beside.body, beside.surroundings, beside.time, beside.changing, beside.value, ?_⟩
  intro sensor
  refine ⟨beside.override? sensor, beside.shown sensor, ?_⟩
  rw [Board.measurement, beside.gauge, Gauge.measurement_ahead, UInt64.zero_add]
  rfl

/-- Light is dimmed and lit again, while somebody looks at it, listens and saves it. -/
def overlooked : List Item :=
  [.own (.setTarget (.condition .light) (.scalar 1) .smooth), .own (.saveState "lit"),
    .inserted (.read (.condition .light)), .inserted (.attach attentive), .own (.advance 5),
    .inserted (.saveSnapshot "aside"), .own (.setTarget (.condition .light) (.scalar 0) .smooth),
    .inserted .readAll, .own (.loadState (.slot "lit"))]

theorem undisturbed_overlooked :
    unused.Passive ∧ (∀ item ∈ overlooked, item.Harmless (· = .snapshot "aside")) ∧
      let d := (unused.respondAll ((overlooked.take 9).filterMap Item.own?)).1.device
      let e := (unused.respondAll ((overlooked.take 9).map Item.call)).1.device
      e.body = d.body ∧ e.surroundings = d.surroundings ∧ e.time = d.time ∧
        e.changing = d.changing ∧ (∀ p aspect, e.value p aspect = d.value p aspect) ∧
        ∀ sensor, e.board.override? sensor = d.board.override? sensor ∧
          e.shown sensor = d.shown sensor ∧
          e.board.measurement sensor = d.board.measurement sensor +
            .ofNat (unused.insertedReads sensor (overlooked.take 9)) := by
  have harmless : ∀ item ∈ overlooked, item.Harmless (· = .snapshot "aside") := by
    simp [overlooked, Item.Harmless, Call.scripts, PassiveScripts, AllCalls, Call.loaded?,
      Call.saved?, Call.bystands, Call.onlyReads, Observer.left, attentive]
  exact ⟨passive_unused, harmless, undisturbed passive_unused harmless 9⟩

end Session

end Sensorium
