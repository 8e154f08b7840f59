import Sensorium.Proofs.Motion.Placed
import Sensorium.Proofs.Session.LoadOrder
import Sensorium.Proofs.Session.Playback
import Sensorium.Proofs.Session.Reachable

/-!
# What is saved is loaded again

A snapshot and a saved state are loaded by changes in a fixed order, in which position and
velocity come to share one motion. `Device.placed` is what the steps of a snapshot come to,
and `Device.restored` what the first changes of a saved state come to. Either way a device
has, for every parameter but the rotation, the target that the saved one had, up to the sign
of a zero.
-/

namespace Sensorium

/-- Items beside what is made of them. -/
theorem zip_map_self {α β : Type} (f : α → β) (xs : List α) :
    xs.zip (xs.map f) = xs.map fun x => (x, f x) := by
  rw [List.zip, List.zipWith_map_right, List.zipWith_self]

theorem Value.eq_vector {value : Value} (h : value.kind = .vector) :
    value = .vector value.toVector := by
  cases value with
  | scalar x => cases h
  | vector v => rfl

theorem Value.eq_scalar {value : Value} (h : value.kind = .scalar) :
    value = .scalar value.toScalar := by
  cases value with
  | scalar x => rfl
  | vector v => cases h

namespace Device

variable {d : Device}

theorem kind_value (d : Device) (p : Parameter) (aspect : Aspect) :
    (d.value p aspect).kind = p.kind := by
  cases p <;> rfl

/-- What a parameter is depends on the body and its surroundings only. -/
theorem value_congr {e : Device} (body : e.body = d.body)
    (surroundings : e.surroundings = d.surroundings) (p : Parameter) (aspect : Aspect) :
    e.value p aspect = d.value p aspect := by
  unfold value
  rw [body, surroundings]

/-! ## Snapshots -/

/-- The snapshot of a sound device is written without loss. -/
theorem Sound.normal_snapshot (h : d.Sound) : d.snapshot.normal = d.snapshot := by
  have entry (sensor : Sensor) :
      (d.board.override? sensor).map (·.conform sensor.kind) = d.board.override? sensor := by
    cases made : d.board.override? sensor with
    | none => rfl
    | some value => exact congrArg some (Value.conform_of_kind (h.overrides sensor value made))
  simp only [Snapshot.normal, snapshot, List.zipWith_map_right, List.zipWith_self, entry,
    Value.conform_of_kind (d.kind_value _ _)]

/-- The device when every parameter has been put in place, in order. -/
def placed (d : Device) (values : Parameter → Value) : Device :=
  d.makeAll (Parameter.all.map fun p => .target p (values p) .step)

/-- The changes that override sensors, of those that are listed. -/
def overrides (entries : Sensor → Option Value) (sensors : List Sensor) : List Change :=
  sensors.filterMap fun sensor => (entries sensor).map (.override sensor)

theorem plan_snapshot (d : Device) :
    d.snapshot.plan = (Parameter.all.map fun p => .target p (d.value p .target) .step) ++
      overrides d.board.override? Sensor.all := by
  simp only [Snapshot.plan, snapshot, overrides, zip_map_self, List.map_map, List.filterMap_map]
  rfl

/-- Overriding sensors moves nothing. -/
theorem makeAll_overrides (d : Device) (entries : Sensor → Option Value) (sensors : List Sensor) :
    (d.makeAll (overrides entries sensors)).body = d.body ∧
      (d.makeAll (overrides entries sensors)).surroundings = d.surroundings := by
  induction sensors generalizing d with
  | nil => exact ⟨rfl, rfl⟩
  | cons sensor rest ih =>
    cases entry : entries sensor with
    | none =>
      rw [overrides, List.filterMap_cons_none (by rw [entry]; rfl)]
      exact ih d
    | some value =>
      rw [overrides, List.filterMap_cons_some (by rw [entry]; rfl)]
      exact ih (d.make (.override sensor value))

/-- A sensor that is listed with an entry is overridden by it. -/
theorem override?_overrides (d : Device) (entries : Sensor → Option Value)
    (sensors : List Sensor) (t : Sensor) :
    (d.makeAll (overrides entries sensors)).board.override? t =
      if t ∈ sensors then (entries t).or (d.board.override? t) else d.board.override? t := by
  induction sensors generalizing d with
  | nil => rw [if_neg List.not_mem_nil]; rfl
  | cons sensor rest ih =>
    cases entry : entries sensor with
    | none =>
      rw [overrides, List.filterMap_cons_none (by rw [entry]; rfl)]
      refine (ih d).trans ?_
      by_cases same : t = sensor
      · subst same
        simp [entry]
      · simp only [List.mem_cons, same, false_or]
    | some value =>
      rw [overrides, List.filterMap_cons_some (by rw [entry]; rfl)]
      refine (ih (d.make (.override sensor value))).trans ?_
      have changed : (d.make (.override sensor value)).board.override? t =
          if t = sensor then some value else d.board.override? t := by
        change ((d.board.override sensor value).gauge t).override = _
        rw [Board.gauge_override]
        split <;> rfl
      rw [changed]
      by_cases same : t = sensor
      · subst same
        simp [entry]
      · simp only [List.mem_cons, same, false_or, if_false]

/-- Every change of a target clears all overrides. -/
theorem override?_make_target (d : Device) (p : Parameter) (value : Value) (approach : Approach)
    (sensor : Sensor) : (d.make (.target p value approach)).board.override? sensor = none := by
  rw [make, clearOverrides, Board.override?, Board.gauge_clear]

theorem override?_placed (d : Device) (values : Parameter → Value) (sensor : Sensor) :
    (d.placed values).board.override? sensor = none := by
  have last : (Parameter.all.map fun p => Change.target p (values p) .step) =
      ((Parameter.all.take 9).map fun p => Change.target p (values p) .step) ++
        [.target .ambientMotion (values .ambientMotion) .step] :=
    rfl
  rw [placed, last, makeAll_append]
  exact override?_make_target _ _ _ _ sensor

section

variable (d : Device) (values : Parameter → Value)

theorem body_placed : (d.placed values).body =
    ((d.body.launched (values .position).toVector (values .velocity).toVector).setRotation
      (.ofEuler (values .rotation).toVector) .step).setTremor
        (values .ambientMotion).toScalar .step :=
  rfl

theorem surroundings_placed : (d.placed values).surroundings =
    Condition.all.foldl (fun s c => s.setCondition c (values (.condition c)).toScalar .step)
      (d.surroundings.setField (values .magneticField).toVector .step) :=
  rfl

theorem field_placed : (d.placed values).surroundings.field =
    .resting (d.placed values).surroundings.now (values .magneticField).toVector := by
  simp only [surroundings_placed, Condition.all, List.foldl_cons, List.foldl_nil,
    Surroundings.field_setCondition, Surroundings.now_setCondition]
  rfl

theorem condition_placed (c : Condition) : (d.placed values).surroundings.conditions.get c =
    .resting (d.placed values).surroundings.now (values (.condition c)).toScalar := by
  simp only [surroundings_placed, Condition.all, List.foldl_cons, List.foldl_nil,
    Surroundings.get_setCondition, Surroundings.now_setCondition]
  cases c <;> rfl

end

theorem Sound.placed (h : d.Sound) (values : Parameter → Value) : (d.placed values).Sound := by
  apply h.makeAll
  intro change mem
  obtain ⟨p, -, rfl⟩ := List.mem_map.mp mem
  trivial

/-- A parameter that has been put in place is there, and is to stay there. -/
theorem level_placed (sound : d.Sound) {values : Parameter → Value}
    (kinds : ∀ p, (values p).kind = p.kind)
    (finite : ∀ p, p ≠ .rotation → (values p).isFinite = true) {p : Parameter}
    (angles : p ≠ .rotation) :
    ((d.placed values).value p .target).Level (values p) ∧
      ((d.placed values).value p .still).Level (values p) := by
  have placed := sound.placed values
  have here := Value.isFinite_toVector (finite .position nofun)
  have fast := Value.isFinite_toVector (finite .velocity nofun)
  have finite := finite p angles
  have kind := kinds p
  cases p with
  | rotation => exact (angles rfl).elim
  | position =>
    rw [Value.eq_vector kind]
    have there := Body.level_launched_position sound.body here fast
    exact ⟨there, there⟩
  | velocity =>
    rw [Value.eq_vector kind]
    simp only [value, body_placed]
    refine ⟨Vec3.Level.refl _, ?_⟩
    exact Body.level_launched_velocity sound.body fast
  | magneticField =>
    rw [Value.eq_vector kind] at finite ⊢
    simp only [value, Surroundings.fieldAs, field_placed]
    exact ⟨Vec3.Level.refl _, Surroundings.level_vectorAt placed.surroundings finite⟩
  | condition c =>
    rw [Value.eq_scalar kind] at finite ⊢
    simp only [value, Surroundings.conditionAs, condition_placed]
    exact ⟨Level.refl _, Surroundings.level_scalarAt placed.surroundings finite⟩
  | ambientMotion =>
    rw [Value.eq_scalar kind] at finite ⊢
    have resting : (d.placed values).body.tremor =
        .resting (d.placed values).body.now (values .ambientMotion).toScalar := by
      rw [body_placed]
      rfl
    exact ⟨Level.refl _, Body.level_tremorBound placed.body resting finite⟩

/-! ## Saved states -/

end Device

/-- The parameters that share a motion with no other. -/
def Parameter.alone : List Parameter :=
  [rotation, magneticField] ++ Condition.all.map condition ++ [ambientMotion]

namespace Device

/-- The device when a saved state has been loaded up to its last change. -/
def restored (d : Device) (still target : Parameter → Value) : Device :=
  d.makeAll ((Parameter.alone.flatMap fun p =>
      [.target p (still p) .step, .target p (target p) .smooth]) ++
    [.target .position (still .position) .step, .target .velocity (still .velocity) .step])

/-- The last change that loads a saved state: the body approaches its target velocity, or its
    target position if that velocity is zero. -/
def heading (d : Device) : Change :=
  if (d.body.velocityAs .target).eqv .zero then
    .target .position (d.value .position .target) .smooth
  else .target .velocity (d.value .velocity .target) .smooth

theorem makeAll_savedState (d e : Device) : e.makeAll d.savedState.plan =
    (e.restored (d.value · .still) (d.value · .target)).make d.heading := by
  have saved : d.savedState.events =
      Parameter.all.map fun p => .ofValues p (d.value p .still) (d.value p .target) := rfl
  have current (p : Parameter) :
      d.savedState.lastVector p Event.currentAs = (d.value p .still).toVector :=
    SavedState.lastVector_current saved (d.kind_value p .still)
  have target (p : Parameter) :
      d.savedState.lastVector p Event.targetAs = (d.value p .target).toVector :=
    SavedState.lastVector_target saved (d.kind_value p .target)
  have immediate : d.savedState.events.flatMap SavedState.immediate =
      Parameter.alone.flatMap fun p =>
        [.target p (d.value p .still) .step, .target p (d.value p .target) .smooth] := by
    rw [saved, List.flatMap_map]
    simp only [SavedState.immediate_ofValues (d.kind_value _ .still) (d.kind_value _ .target)]
    rfl
  have last : (if (d.value .velocity .target).toVector.eqv .zero then
        [Change.target .position (.vector (d.value .position .target).toVector) .smooth]
      else [.target .velocity (.vector (d.value .velocity .target).toVector) .smooth]) =
        [d.heading] := by
    unfold heading
    by_cases braking : (d.body.velocityAs .target).eqv .zero = true
    · rw [if_pos braking]
      exact if_pos braking
    · rw [if_neg braking]
      exact if_neg braking
  rw [SavedState.plan]
  simp only [current, target, immediate]
  rw [last, makeAll_append]
  rfl

/-- A new target of a parameter leaves those alone that share nothing with it. -/
theorem target_make_other (d : Device) {p q : Parameter} (other : p.group ≠ q.group)
    (value : Value) (approach : Approach) :
    (d.make (.target q value approach)).value p .target = d.value p .target := by
  cases p <;> cases q
  case condition.condition c c' =>
    have apart : c ≠ c' := by
      rintro rfl
      exact other rfl
    change Value.scalar ((d.surroundings.setCondition c' _ _).conditions.get c).target = _
    rw [Surroundings.get_setCondition, if_neg apart]
    rfl
  all_goals first | exact (other rfl).elim | rfl | cases approach <;> rfl

section

variable (d : Device) (still target : Parameter → Value)

theorem body_restored : (d.restored still target).body =
    ((((d.body.setRotation (.ofEuler (still .rotation).toVector) .step).setRotation
      (.ofEuler (target .rotation).toVector) .smooth).setTremor
        (still .ambientMotion).toScalar .step).setTremor
          (target .ambientMotion).toScalar .smooth).launched
            (still .position).toVector (still .velocity).toVector :=
  rfl

theorem surroundings_restored : (d.restored still target).surroundings =
    Condition.all.foldl (fun s c =>
        (s.setCondition c (still (.condition c)).toScalar .step).setCondition c
          (target (.condition c)).toScalar .smooth)
      ((d.surroundings.setField (still .magneticField).toVector .step).setField
        (target .magneticField).toVector .smooth) :=
  rfl

/-- The body is launched last, with the settings that it has. -/
theorem launched_restored : ∃ b : Body, b.settings = d.body.settings ∧
    (d.restored still target).body =
      b.launched (still .position).toVector (still .velocity).toVector := by
  refine ⟨_, ?_, body_restored d still target⟩
  rfl

/-- Every parameter that shares a motion with no other has its target then. -/
theorem target_restored {p : Parameter} (kind : (target p).kind = p.kind)
    (alone : p.group ≠ .position) (angles : p ≠ .rotation) :
    (d.restored still target).value p .target = target p := by
  cases p with
  | position | velocity => exact (alone rfl).elim
  | rotation => exact (angles rfl).elim
  | magneticField =>
    rw [Value.eq_vector kind]
    simp only [value, Surroundings.fieldAs, surroundings_restored, Condition.all, List.foldl_cons,
      List.foldl_nil, Surroundings.field_setCondition]
    rfl
  | condition c =>
    rw [Value.eq_scalar kind]
    simp only [value, Surroundings.conditionAs, surroundings_restored, Condition.all,
      List.foldl_cons, List.foldl_nil, Surroundings.get_setCondition]
    cases c <;> rfl
  | ambientMotion =>
    rw [Value.eq_scalar kind, value, body_restored]
    rfl

end

/-- Loading the saved state of a device gives every parameter but the rotation its target,
    whatever the body was moved towards. -/
theorem level_makeAll_savedState {d e : Device} (sound : e.Sound)
    (still : ∀ p, p ≠ .rotation → (d.value p .still).isFinite = true)
    (target : ∀ p, p ≠ .rotation → (d.value p .target).isFinite = true)
    (change : (d.body.velocityAs .still - d.body.velocityAs .target).isFinite = true)
    {p : Parameter} (angles : p ≠ .rotation) :
    ((e.makeAll d.savedState.plan).value p .target).Level (d.value p .target) := by
  have here : (d.body.positionAs .still).isFinite = true := still .position nofun
  have fast : (d.body.velocityAs .still).isFinite = true := still .velocity nofun
  have goal : (d.body.velocityAs .target).isFinite = true := target .velocity nofun
  rw [makeAll_savedState]
  by_cases alone : p.group ≠ .position
  · have restored := target_restored e (d.value · .still) (d.value · .target)
      (d.kind_value p .target) alone angles
    have kept : ((e.restored (d.value · .still) (d.value · .target)).make d.heading).value p
        .target = (e.restored (d.value · .still) (d.value · .target)).value p .target := by
      unfold heading
      split <;> exact target_make_other _ alone _ _
    rw [kept, restored]
    exact Value.Level.refl _
  · -- The body was launched where the saved one was and as fast, before its last change.
    obtain ⟨b, settings, launched⟩ := e.launched_restored (d.value · .still) (d.value · .target)
    have faultless : b.settings.fault? = none := by
      rw [settings]
      exact sound.body
    by_cases braking : (d.body.velocityAs .target).eqv .zero = true
    · rw [heading, if_pos braking]
      cases p with
      | position => exact Vec3.Level.refl _
      | velocity => exact Vec3.level_zero_of_eqv braking
      | _ => exact (alone nofun).elim
    · rw [heading, if_neg braking]
      cases p with
      | velocity => exact Vec3.Level.refl _
      | position =>
        have there := Body.level_launched_later faultless here fast goal change
        rw [show b.launched (d.body.positionAs .still) (d.body.velocityAs .still) = _ from
          launched.symm] at there
        rw [value, value, Body.positionAs_target_of_velocity braking]
        exact there
      | _ => exact (alone nofun).elim

end Device

namespace Session

variable {s t : Session}

theorem begin_loadSnapshot {source : SnapshotSource} {cut : Option Nat} {snapshot : Snapshot}
    {rest : List UInt8} (decoded : Snapshot.decode (t.bytesOf source cut) = .ok (snapshot, rest)) :
    t.begin (.loadSnapshot source cut) = t.carryOut snapshot.plan (.count rest.length) := by
  change t.loadSnapshot (t.bytesOf source cut) = _
  rw [loadSnapshot, decoded]

/-- With an observer that makes no calls, a snapshot that is loaded makes its changes. -/
theorem respond_loadSnapshot_of (passive : t.ObserverPassive) (source : SnapshotSource)
    (cut : Option Nat) {snapshot : Snapshot} {rest : List UInt8}
    (decoded : Snapshot.decode (t.bytesOf source cut) = .ok (snapshot, rest)) :
    (t.respond (.loadSnapshot source cut)).1.device = t.device.makeAll snapshot.plan ∧
      (t.respond (.loadSnapshot source cut)).2.answer = .count rest.length :=
  respond_of_carryOut passive (begin_loadSnapshot (t := t.cleared) decoded)

theorem respond_loadSnapshot (passive : t.ObserverPassive) {snapshot : Snapshot}
    {bytes rest : List UInt8} (decoded : Snapshot.decode bytes = .ok (snapshot, rest)) :
    (t.respond (.loadSnapshot (.bytes bytes) none)).1.device = t.device.makeAll snapshot.plan ∧
      (t.respond (.loadSnapshot (.bytes bytes) none)).2.answer = .count rest.length :=
  respond_loadSnapshot_of passive (.bytes bytes) none decoded

/-- The bytes of the snapshot that a call saves under a name. -/
theorem kept_saveSnapshot (s : Session) (slot : String) :
    kept (s.respond (.saveSnapshot slot)).1.snapshots slot = some s.device.snapshot.encode := by
  change kept (s.ask (.saveSnapshot slot)).run.snapshots slot = _
  rw [run_ask_reads s rfl]
  simp [begin, reply, cleared, kept]

/-- The snapshot of a session that can be reached, loaded into any other one, puts every
    parameter but the rotation where the saved one was to be, to stay there, turns the device
    to the saved angles, and overrides the same sensors by the same values. -/
theorem loadSnapshot_saveSnapshot (saved : s.Reachable) (loaded : t.Reachable)
    (passive : t.ObserverPassive)
    (finite : ∀ p, p ≠ .rotation → (s.device.value p .target).isFinite = true) (slot : String) :
    ∃ bytes t' response, kept (s.respond (.saveSnapshot slot)).1.snapshots slot = some bytes ∧
      t.respond (.loadSnapshot (.bytes bytes) none) = (t', response) ∧
      response.answer = .count 0 ∧
      (∀ p, p ≠ .rotation →
        (t'.device.value p .target).eqv (s.device.value p .target) = true ∧
          (t'.device.value p .still).eqv (s.device.value p .target) = true) ∧
      t'.device.body.turn.target = .ofEuler (s.device.value .rotation .target).toVector ∧
      ∀ sensor, t'.device.board.override? sensor = s.device.board.override? sensor := by
  have decoded : Snapshot.decode s.device.snapshot.encode = .ok (s.device.snapshot, []) := by
    have read := s.device.snapshot.run_read []
    rw [saved.sound.device.normal_snapshot, List.append_nil] at read
    exact read
  obtain ⟨device, answer⟩ := respond_loadSnapshot passive decoded
  rw [Device.plan_snapshot, Device.makeAll_append] at device
  let placed := t.device.placed (s.device.value · .target)
  obtain ⟨body, surroundings⟩ := placed.makeAll_overrides s.device.board.override? Sensor.all
  rcases outcome : t.respond (.loadSnapshot (.bytes s.device.snapshot.encode) none) with
    ⟨t', response⟩
  rw [outcome] at device answer
  refine ⟨_, t', response, s.kept_saveSnapshot slot, outcome, answer, ?_, ?_, ?_⟩
  · intro p angles
    have values := Device.value_congr body surroundings p
    obtain ⟨target, still⟩ := Device.level_placed loaded.sound.device
      (s.device.kind_value · .target) finite angles
    rw [device]
    constructor
    · rw [← values .target] at target
      exact target.eqv (finite p angles)
    · rw [← values .still] at still
      exact still.eqv (finite p angles)
  · rw [device]
    exact congrArg (fun b : Body => b.turn.target) body
  · intro sensor
    have listed : sensor ∈ Sensor.all := List.mem_of_getElem? sensor.getElem_all_index
    have shown := placed.override?_overrides s.device.board.override? Sensor.all sensor
    rw [if_pos listed, Device.override?_placed, Option.or_none] at shown
    rw [device]
    exact shown

/-- A device that has drifted for a second, and whose light sensor is overridden. -/
def drifting : Session :=
  (unused.respondAll [.setTarget .velocity (.vector ⟨1, 2, 0⟩) .step, .advance 1000000000,
    .override (.condition .light) (.scalar 1)]).1

theorem reachable_unused : unused.Reachable := ⟨unused, [], fresh_unused, .start⟩

theorem reachable_drifting : drifting.Reachable := reachable_unused.respondAll rfl _

theorem device_drifting : drifting.device =
    ((unused.device.make (.target .velocity (.vector ⟨1, 2, 0⟩) .step)).advance 1000000000).1.make
      (.override (.condition .light) (.scalar 1)) := by
  let pushed := (unused.respond (.setTarget .velocity (.vector ⟨1, 2, 0⟩) .step)).1
  let moved := (pushed.respond (.advance 1000000000)).1
  have passive : pushed.Passive := passive_unused.respond rfl
  have begun : unused.cleared.begin (.setTarget .velocity (.vector ⟨1, 2, 0⟩) .step) =
      unused.cleared.carryOut [.target .velocity (.vector ⟨1, 2, 0⟩) .step] .done := rfl
  have first := (respond_of_carryOut passive_unused.observer begun).1
  have second := congrArg Session.device (run_ask_advance passive.observer 1000000000)
  have later : moved.Passive := passive.respond rfl
  have begun' : moved.cleared.begin (.override (.condition .light) (.scalar 1)) =
      moved.cleared.carryOut [.override (.condition .light) (.scalar 1)] .done := rfl
  have third := (respond_of_carryOut later.observer begun').1
  change (moved.respond _).1.device = _
  rw [third, show moved.device = (pushed.device.advance 1000000000).1 from second,
    show pushed.device = unused.device.makeAll _ from first]
  rfl

theorem finite_drifting (p : Parameter) (angles : p ≠ .rotation) :
    (drifting.device.value p .still).isFinite = true ∧
      (drifting.device.value p .target).isFinite = true := by
  rw [device_drifting]
  cases p with
  | rotation => exact (angles rfl).elim
  | condition c => cases c <;> decide +kernel
  | _ => decide +kernel

theorem loadSnapshot_saveSnapshot_drifting :
    drifting.Reachable ∧ unused.Reachable ∧ unused.ObserverPassive ∧
      (∀ p, p ≠ .rotation → (drifting.device.value p .target).isFinite = true) ∧
      ∃ bytes t' response,
        kept (drifting.respond (.saveSnapshot "drift")).1.snapshots "drift" = some bytes ∧
        unused.respond (.loadSnapshot (.bytes bytes) none) = (t', response) ∧
        response.answer = .count 0 ∧
        (∀ p, p ≠ .rotation →
          (t'.device.value p .target).eqv (drifting.device.value p .target) = true ∧
            (t'.device.value p .still).eqv (drifting.device.value p .target) = true) ∧
        t'.device.body.turn.target =
          .ofEuler (drifting.device.value .rotation .target).toVector ∧
        ∀ sensor, t'.device.board.override? sensor = drifting.device.board.override? sensor := by
  have finite : ∀ p, p ≠ .rotation → (drifting.device.value p .target).isFinite = true :=
    fun p angles => (finite_drifting p angles).2
  refine ⟨reachable_drifting, reachable_unused, passive_unused.observer, finite, ?_⟩
  exact loadSnapshot_saveSnapshot reachable_drifting reachable_unused passive_unused.observer
    finite "drift"

/-- The state of any session, loaded into one that can be reached, gives every parameter but
    the rotation its target: the body is to be in the same place and as fast, whether it was
    pulled to a position, kept a velocity or was braking. -/
theorem loadState_saveState (loaded : t.Reachable) (passive : t.ObserverPassive)
    (still : ∀ p, p ≠ .rotation → (s.device.value p .still).isFinite = true)
    (target : ∀ p, p ≠ .rotation → (s.device.value p .target).isFinite = true)
    (change : (s.device.body.velocityAs .still - s.device.body.velocityAs .target).isFinite = true)
    (slot : String) :
    ∃ state, (s.respond (.saveState slot)).2.answer = .state state ∧
      ∀ p, p ≠ .rotation →
        ((t.respond (.loadState (.state state))).1.device.value p .target).eqv
          (s.device.value p .target) = true := by
  refine ⟨s.device.savedState, ?_, ?_⟩
  · change (s.ask (.saveState slot)).run.answers.headD .done = _
    rw [run_ask_reads s rfl]
    rfl
  · intro p angles
    have begun : t.cleared.begin (.loadState (.state s.device.savedState)) =
        t.cleared.carryOut s.device.savedState.plan .done := rfl
    rw [(respond_of_carryOut passive begun).1]
    apply Value.Level.eqv _ (target p angles)
    exact Device.level_makeAll_savedState loaded.sound.device still target change angles

theorem loadState_saveState_drifting :
    unused.Reachable ∧ unused.ObserverPassive ∧
      (∀ p, p ≠ .rotation → (drifting.device.value p .still).isFinite = true) ∧
      (∀ p, p ≠ .rotation → (drifting.device.value p .target).isFinite = true) ∧
      (drifting.device.body.velocityAs .still -
        drifting.device.body.velocityAs .target).isFinite = true ∧
      ∃ state, (drifting.respond (.saveState "drift")).2.answer = .state state ∧
        ∀ p, p ≠ .rotation →
          ((unused.respond (.loadState (.state state))).1.device.value p .target).eqv
            (drifting.device.value p .target) = true := by
  have still : ∀ p, p ≠ .rotation → (drifting.device.value p .still).isFinite = true :=
    fun p angles => (finite_drifting p angles).1
  have target : ∀ p, p ≠ .rotation → (drifting.device.value p .target).isFinite = true :=
    fun p angles => (finite_drifting p angles).2
  have change : (drifting.device.body.velocityAs .still -
      drifting.device.body.velocityAs .target).isFinite = true := by
    rw [device_drifting]
    decide +kernel
  refine ⟨reachable_unused, passive_unused.observer, still, target, change, ?_⟩
  exact loadState_saveState reachable_unused passive_unused.observer still target change "drift"

end Session

end Sensorium
