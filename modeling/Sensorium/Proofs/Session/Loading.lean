import Sensorium.Proofs.Session.Answers
import Sensorium.Proofs.Session.Forgetting

/-!
# Snapshots that hold less

A snapshot may hold fewer targets than there are parameters, and say nothing about some or all
of the sensors. What it does beyond the entries that it holds comes from its first target: the
body is put in its place and stands still there, and all overrides are cleared.
`Device.keepsBeyond_makeAll_plan_iff` says when a device is left as it was beyond the entries.
Without a target, nothing is cleared, and then the sensors that a snapshot holds as not overridden
stay as they were: `Device.overrides_restored_iff`. Bytes that are no snapshot leave a session as
it was.
-/

namespace Sensorium

namespace Parameter

theorem index_of_getElem {i : Nat} {p : Parameter} (found : all[i]? = some p) : p.index = i := by
  have number : ofNumber? i = some p := found
  rw [ofNumber?_eq_some_iff] at number
  exact (Int.ofNat_inj.mp number).symm

/-- The parameters from a number on that are paired with values are the ones with the numbers
    that follow. -/
theorem index_of_mem_zip_drop {n : Nat} {values : List Value} {p : Parameter} {value : Value}
    (mem : (p, value) ∈ (all.drop n).zip values) :
    n ≤ p.index ∧ p.index < n + values.length := by
  obtain ⟨i, found⟩ := List.getElem?_of_mem mem
  obtain ⟨numbered, stored⟩ := List.getElem?_zip_eq_some.mp found
  rw [List.getElem?_drop] at numbered
  have bound : i < values.length := (List.getElem?_eq_some_iff.mp stored).1
  rw [index_of_getElem numbered]
  exact ⟨Nat.le_add_right _ _, Nat.add_lt_add_left bound _⟩

theorem group_eq_self {p : Parameter} (other : p ≠ .velocity) : p.group = p := by
  cases p with
  | velocity => exact (other rfl).elim
  | _ => rfl

/-- Of two parameters that share a motion, the position comes first and the velocity second. -/
theorem eq_of_group {p q : Parameter} (same : q.group = p.group) (before : q.index < p.index) :
    q = .position ∧ p = .velocity := by
  have first : q ≠ .velocity := by
    rintro rfl
    cases p with
    | position | velocity => exact absurd before (by decide)
    | _ => cases same
  rw [group_eq_self first] at same
  have second : p = .velocity := by
    by_contra other
    rw [group_eq_self other] at same
    rw [same] at before
    exact Nat.lt_irrefl _ before
  rw [second] at same
  exact ⟨same, second⟩

end Parameter

namespace Snapshot

variable {snapshot : Snapshot}

/-- The value that a snapshot overrides a sensor by, if it holds one. -/
def overrideOf (snapshot : Snapshot) (sensor : Sensor) : Option Value :=
  snapshot.overrides[sensor.index.val]?.join

/-- The changes that put the parameters in place. -/
def steps (snapshot : Snapshot) : List Change :=
  (Parameter.all.zip snapshot.targets).map fun (p, value) => .target p value .step

theorem filterMap_zip_overrides (entries : Sensor → Option Value) (sensors : List Sensor)
    (items : List (Option Value))
    (listed : ∀ (i : Nat) sensor, sensors[i]? = some sensor → entries sensor = items[i]?.join) :
    ((sensors.zip items).filterMap fun (sensor, entry) => entry.map (Change.override sensor)) =
      Device.overrides entries sensors := by
  induction sensors generalizing items with
  | nil => rfl
  | cons sensor rest ih =>
    have here := listed 0 sensor rfl
    cases items with
    | nil =>
      rw [List.zip_nil_right, List.filterMap_nil, eq_comm, Device.overrides,
        List.filterMap_eq_nil_iff]
      intro other mem
      obtain ⟨i, found⟩ := List.getElem?_of_mem mem
      rw [listed i other found]
      rfl
    | cons entry items =>
      have there := ih items fun i other found => listed (i + 1) other found
      have both : (entry.map (Change.override sensor)).toList ++ Device.overrides entries rest =
          Device.overrides entries (sensor :: rest) := by
        rw [Device.overrides, Device.overrides, List.filterMap_cons, here]
        cases entry <;> rfl
      rw [← both, ← there, List.zip_cons_cons]
      cases entry <;> rfl

theorem plan_eq (snapshot : Snapshot) :
    snapshot.plan = snapshot.steps ++ Device.overrides snapshot.overrideOf Sensor.all := by
  have listed (i : Nat) (sensor : Sensor) (found : Sensor.all[i]? = some sensor) :
      snapshot.overrideOf sensor = snapshot.overrides[i]?.join := by
    obtain ⟨bound, -⟩ := List.getElem?_eq_some_iff.mp found
    have place : sensor.index.val = i :=
      (List.getElem?_inj (List.getElem?_eq_some_iff.mp sensor.getElem_all_index).1
        Sensor.nodup_all).mp (sensor.getElem_all_index.trans found.symm)
    rw [overrideOf, place]
  rw [plan, filterMap_zip_overrides snapshot.overrideOf _ _ listed]
  rfl

/-- Only parameters for which there is a target are put in place. -/
theorem mem_steps {change : Change} (mem : change ∈ snapshot.steps) :
    ∃ p value, change = .target p value .step ∧ p.index < snapshot.targets.length := by
  obtain ⟨⟨p, value⟩, pair, rfl⟩ := List.mem_map.mp mem
  obtain ⟨-, bound⟩ := Parameter.index_of_mem_zip_drop (n := 0) pair
  exact ⟨p, value, rfl, by rwa [Nat.zero_add] at bound⟩

/-- The first target is that of the position; the others share nothing with it as long as there
    is none for the velocity. -/
theorem steps_of_cons {place : Value} {others : List Value}
    (targets : snapshot.targets = place :: others) (short : snapshot.targets.length ≤ 8) :
    ∃ later, snapshot.steps = .target .position place .step :: later ∧
      ∀ change ∈ later, change.group ≠ some .position := by
  refine ⟨(Parameter.all.tail.zip others).map fun (p, value) => .target p value .step, ?_, ?_⟩
  · rw [steps, targets]
    rfl
  · intro change mem shared
    obtain ⟨⟨p, value⟩, pair, rfl⟩ := List.mem_map.mp mem
    rw [← List.drop_one] at pair
    obtain ⟨second, bound⟩ := Parameter.index_of_mem_zip_drop pair
    have early : p.index < Parameter.velocity.index := by
      rw [targets, List.length_cons] at short
      change p.index < 8
      omega
    have slow : p ≠ .velocity := by
      rintro rfl
      exact Nat.lt_irrefl _ early
    have first : p = .position := (Parameter.group_eq_self slow).symm.trans (Option.some.inj shared)
    rw [first] at second
    exact Nat.not_succ_le_zero _ second

end Snapshot

namespace Device

variable {d e : Device} {p : Parameter}

/-! ## What changes leave alone -/

/-- A parameter but for the tremor depends on what it moves, the settings and the moment. -/
theorem Contemporary.value_eq (same : d.Contemporary e) (agree : d.Agree e p) {aspect : Aspect}
    (steady : aspect ≠ .current) : e.value p aspect = d.value p aspect := by
  obtain ⟨body, bodyNow, surroundings, surroundingsNow⟩ := same
  cases p with
  | position | velocity =>
    have here := Body.translation_congr body bodyNow agree
    have motion : e.body.motion = d.body.motion := agree
    cases aspect with
    | current => exact (steady rfl).elim
    | _ => simp only [value, Body.positionAs, Body.velocityAs, here, motion]
  | rotation =>
    have here := Body.rotation_congr body bodyNow agree
    have turn : e.body.turn = d.body.turn := agree
    cases aspect <;> simp only [value, Body.rotationAs, here, turn]
  | ambientMotion =>
    have here := Body.tremorBound_congr body bodyNow agree
    have tremor : e.body.tremor = d.body.tremor := agree
    cases aspect <;> simp only [value, Body.tremorAs, here, tremor]
  | magneticField =>
    have left := Surroundings.remaining_congr surroundings surroundingsNow
    have track : e.surroundings.field = d.surroundings.field := agree
    cases aspect <;>
      simp only [value, Surroundings.fieldAs, Surroundings.vectorAt, track, left]
  | condition c =>
    have left := Surroundings.remaining_congr surroundings surroundingsNow
    have track : e.surroundings.conditions.get c = d.surroundings.conditions.get c := agree
    cases aspect <;>
      simp only [value, Surroundings.conditionAs, Surroundings.scalarAt, track, left]

theorem contemporary_make (d : Device) (change : Change) : d.Contemporary (d.make change) := by
  cases change with
  | override sensor value => exact ⟨rfl, rfl, rfl, rfl⟩
  | target p value approach =>
    cases p with
    | position => cases approach <;> exact ⟨rfl, rfl, rfl, rfl⟩
    | _ => exact ⟨rfl, rfl, rfl, rfl⟩

/-- A change that shares nothing with a parameter leaves alone what that moves. -/
theorem agree_make_of_apart (d : Device) {change : Change} (apart : change.group ≠ some p.group) :
    d.Agree (d.make change) p := by
  cases change with
  | override sensor value => cases p <;> rfl
  | target q value approach =>
    have other : q.group ≠ p.group := fun same => apart (congrArg some same)
    cases p <;> cases q
    case condition.condition c c' =>
      have different : c ≠ c' := by
        rintro rfl
        exact other rfl
      exact (Surroundings.get_setCondition _ _ _ _ _).trans (if_neg different)
    all_goals first | exact (other rfl).elim | rfl | cases approach <;> rfl

/-- Changes that share nothing with a parameter leave it alone, but for the tremor that one may
    add to it. -/
theorem value_makeAll_of_apart (d : Device) (changes : List Change)
    (apart : ∀ change ∈ changes, change.group ≠ some p.group) {aspect : Aspect}
    (steady : aspect ≠ .current) : (d.makeAll changes).value p aspect = d.value p aspect := by
  induction changes generalizing d with
  | nil => rfl
  | cons change rest ih =>
    obtain ⟨first, others⟩ := List.forall_mem_cons.mp apart
    refine (ih (d.make change) others).trans ?_
    exact (d.contemporary_make change).value_eq (d.agree_make_of_apart first) steady

/-! ## What loading a snapshot changes -/

theorem override?_makeAll_targets (d : Device) {changes : List Change} (nonempty : changes ≠ [])
    (targets : ∀ change ∈ changes, ∃ p value, change = .target p value .step) (sensor : Sensor) :
    (d.makeAll changes).board.override? sensor = none := by
  rcases changes.eq_nil_or_concat with empty | ⟨before, last, rfl⟩
  · exact (nonempty empty).elim
  · rw [List.concat_eq_append] at targets ⊢
    obtain ⟨p, value, rfl⟩ := targets last (List.mem_append_right _ List.mem_cons_self)
    rw [makeAll_append]
    exact override?_make_target _ p value .step sensor

variable (d : Device) (snapshot : Snapshot)

/-- A sensor has the entry of the snapshot then, or else what the targets left of its override:
    all of it if there were none, and nothing otherwise. -/
theorem override?_makeAll_plan (sensor : Sensor) :
    (d.makeAll snapshot.plan).board.override? sensor =
      (snapshot.overrideOf sensor).or
        (if snapshot.targets = [] then d.board.override? sensor else none) := by
  have listed : sensor ∈ Sensor.all := List.mem_of_getElem? sensor.getElem_all_index
  have left : (d.makeAll snapshot.steps).board.override? sensor =
      if snapshot.targets = [] then d.board.override? sensor else none := by
    cases targets : snapshot.targets with
    | nil =>
      rw [if_pos rfl, Snapshot.steps, targets]
      rfl
    | cons place others =>
      rw [if_neg (List.cons_ne_nil _ _)]
      apply override?_makeAll_targets
      · rw [Snapshot.steps, targets]
        exact List.cons_ne_nil _ _
      · intro change mem
        obtain ⟨p, value, eq, -⟩ := Snapshot.mem_steps mem
        exact ⟨p, value, eq⟩
  rw [Snapshot.plan_eq, makeAll_append, override?_overrides, if_pos listed, left]

theorem group_of_mem_overrides {entries : Sensor → Option Value} {sensors : List Sensor}
    {change : Change} (mem : change ∈ overrides entries sensors) : change.group = none := by
  obtain ⟨sensor, -, made⟩ := List.mem_filterMap.mp mem
  obtain ⟨value, -, rfl⟩ := Option.map_eq_some_iff.mp made
  rfl

/-- A parameter for which a snapshot holds no target is left alone, unless it is the velocity. -/
theorem value_makeAll_plan {p : Parameter} (beyond : snapshot.targets.length ≤ p.index)
    (free : p = .velocity → snapshot.targets = []) {aspect : Aspect} (steady : aspect ≠ .current) :
    (d.makeAll snapshot.plan).value p aspect = d.value p aspect := by
  rw [Snapshot.plan_eq]
  apply value_makeAll_of_apart _ _ _ steady
  intro change mem shared
  rcases List.mem_append.mp mem with mem | mem
  · obtain ⟨q, value, rfl, bound⟩ := Snapshot.mem_steps mem
    have before : q.index < p.index := Nat.lt_of_lt_of_le bound beyond
    obtain ⟨-, second⟩ := Parameter.eq_of_group (Option.some.inj shared) before
    rw [free second] at bound
    exact Nat.not_lt_zero _ bound
  · rw [group_of_mem_overrides mem] at shared
    cases shared

/-- The first target puts the body in its place, which stops it if there is none for the
    velocity. -/
theorem velocity_makeAll_plan {place : Value} {others : List Value}
    (targets : snapshot.targets = place :: others) (short : snapshot.targets.length ≤ 8)
    (aspect : Aspect) (steady : aspect ≠ .current) :
    (d.makeAll snapshot.plan).body.velocityAs aspect =
      (d.body.setPosition place.toVector .step).velocityAs aspect := by
  obtain ⟨later, steps, apart⟩ := Snapshot.steps_of_cons targets short
  have others := value_makeAll_of_apart (p := .velocity) (d.make (.target .position place .step))
    (later ++ overrides snapshot.overrideOf Sensor.all) ?_ steady
  · rw [Snapshot.plan_eq, steps]
    exact congrArg Value.toVector others
  · intro change mem shared
    rcases List.mem_append.mp mem with mem | mem
    · exact apart change mem shared
    · rw [group_of_mem_overrides mem] at shared
      cases shared

/-- The body is to stand still, and is as fast as one that was just put into this place. -/
structure StandsAs (d : Device) (place : Vec3 Single) : Prop where
  target : d.body.velocityAs .target = .zero
  still : d.body.velocityAs .still = (d.body.setPosition place .step).velocityAs .still

theorem velocity_eq_iff {place : Value} {others : List Value}
    (targets : snapshot.targets = place :: others) (short : snapshot.targets.length ≤ 8) :
    (∀ aspect, aspect ≠ .current →
      (d.makeAll snapshot.plan).body.velocityAs aspect = d.body.velocityAs aspect) ↔
        d.StandsAs place.toVector := by
  have put := d.velocity_makeAll_plan snapshot targets short
  constructor
  · intro kept
    exact ⟨(kept .target nofun).symm.trans (put .target nofun),
      (kept .still nofun).symm.trans (put .still nofun)⟩
  · intro stands aspect steady
    rw [put aspect steady]
    cases aspect with
    | current => exact (steady rfl).elim
    | still => exact stands.still.symm
    | target => exact stands.target.symm

/-- The parameters for which there is no target are kept, but for the tremor, unless the body is
    put into a place where it has to stop. -/
theorem values_kept_iff :
    (∀ p : Parameter, snapshot.targets.length ≤ p.index → ∀ aspect, aspect ≠ .current →
      (d.makeAll snapshot.plan).value p aspect = d.value p aspect) ↔
    snapshot.targets = [] ∨ 8 < snapshot.targets.length ∨
      ∃ place, snapshot.targets.head? = some place ∧ d.StandsAs place.toVector := by
  constructor
  · intro kept
    cases targets : snapshot.targets with
    | nil => exact .inl rfl
    | cons place others =>
      rw [← targets]
      rcases Nat.lt_or_ge 8 snapshot.targets.length with long | short
      · exact .inr (.inl long)
      · refine .inr (.inr ⟨place, by rw [targets]; rfl, ?_⟩)
        apply (d.velocity_eq_iff snapshot targets short).mp
        intro aspect steady
        exact congrArg Value.toVector (kept .velocity short aspect steady)
  · intro reason p beyond aspect steady
    by_cases second : p = .velocity ∧ snapshot.targets ≠ []
    · obtain ⟨rfl, nonempty⟩ := second
      obtain ⟨place, first, stands⟩ :=
        (reason.resolve_left nonempty).resolve_left (Nat.not_lt.mpr beyond)
      obtain ⟨others, targets⟩ := List.head?_eq_some_iff.mp first
      have kept := (d.velocity_eq_iff snapshot targets beyond).mpr stands
      exact congrArg Value.vector (kept aspect steady)
    · apply d.value_makeAll_plan snapshot beyond _ steady
      intro velocity
      exact not_not.mp fun nonempty => second ⟨velocity, nonempty⟩

/-- The overrides of the sensors without an entry are kept, unless there are any to clear. -/
theorem overrides_kept_iff :
    (∀ sensor : Sensor, snapshot.overrides.length ≤ sensor.index.val →
      (d.makeAll snapshot.plan).board.override? sensor = d.board.override? sensor) ↔
    snapshot.targets = [] ∨ ∀ sensor : Sensor, snapshot.overrides.length ≤ sensor.index.val →
      d.board.override? sensor = none := by
  have left (sensor : Sensor) (beyond : snapshot.overrides.length ≤ sensor.index.val) :
      (d.makeAll snapshot.plan).board.override? sensor =
        if snapshot.targets = [] then d.board.override? sensor else none := by
    rw [override?_makeAll_plan, Snapshot.overrideOf, List.getElem?_eq_none beyond]
    rfl
  by_cases empty : snapshot.targets = []
  · refine iff_of_true ?_ (.inl empty)
    intro sensor beyond
    rw [left sensor beyond, if_pos empty]
  · rw [or_iff_right empty]
    refine forall₂_congr fun sensor beyond => ?_
    rw [left sensor beyond, if_neg empty, eq_comm]

/-- The overrides of the sensors with an entry are those of the entries, unless there is an entry
    that says that a sensor is not overridden, and nothing to clear its override. -/
theorem overrides_restored_iff :
    (∀ (sensor : Sensor) entry, snapshot.overrides[sensor.index.val]? = some entry →
      (d.makeAll snapshot.plan).board.override? sensor = entry) ↔
    snapshot.targets ≠ [] ∨
      ∀ sensor : Sensor, snapshot.overrides[sensor.index.val]? = some none →
        d.board.override? sensor = none := by
  have held {sensor : Sensor} {entry : Option Value}
      (found : snapshot.overrides[sensor.index.val]? = some entry) :
      (d.makeAll snapshot.plan).board.override? sensor =
        entry.or (if snapshot.targets = [] then d.board.override? sensor else none) := by
    rw [override?_makeAll_plan, Snapshot.overrideOf, found]
    rfl
  by_cases empty : snapshot.targets = []
  · rw [or_iff_right (not_not.mpr empty)]
    constructor
    · intro restored sensor found
      have after := restored sensor _ found
      rw [held found, if_pos empty] at after
      exact after
    · intro free sensor entry found
      rw [held found, if_pos empty]
      cases entry with
      | some value => rfl
      | none => exact free sensor found
  · refine iff_of_true ?_ (.inl empty)
    intro sensor entry found
    rw [held found, if_neg empty, Option.or_none]

/-- The parameters for which a snapshot holds no target, but for the tremor, and the overrides of
    the sensors about which it says nothing are the same in two devices. -/
structure KeepsBeyond (snapshot : Snapshot) (d e : Device) : Prop where
  values : ∀ p : Parameter, snapshot.targets.length ≤ p.index →
    ∀ aspect, aspect ≠ .current → e.value p aspect = d.value p aspect
  overrides : ∀ sensor : Sensor, snapshot.overrides.length ≤ sensor.index.val →
    e.board.override? sensor = d.board.override? sensor

theorem keepsBeyond_makeAll_plan_iff :
    KeepsBeyond snapshot d (d.makeAll snapshot.plan) ↔
      snapshot.targets = [] ∨
        (8 < snapshot.targets.length ∨
          ∃ place, snapshot.targets.head? = some place ∧ d.StandsAs place.toVector) ∧
        ∀ sensor : Sensor, snapshot.overrides.length ≤ sensor.index.val →
          d.board.override? sensor = none := by
  rw [or_and_left, ← d.values_kept_iff snapshot, ← d.overrides_kept_iff snapshot]
  exact ⟨fun kept => ⟨kept.values, kept.overrides⟩, fun kept => ⟨kept.1, kept.2⟩⟩

end Device

namespace Session

variable {s : Session} {snapshot : Snapshot} {rest : List UInt8}

theorem begin_loadSnapshot_of_error {source : SnapshotSource} {cut : Option Nat}
    {failure : Failure} (failed : Snapshot.decode (s.bytesOf source cut) = .error failure) :
    s.begin (.loadSnapshot source cut) = s.reply (.failed failure) := by
  change s.loadSnapshot (s.bytesOf source cut) = _
  rw [loadSnapshot, failed]

/-- Loading a snapshot returns, whatever observers and sinks do meanwhile. It fails just when the
    bytes are no snapshot, and as they are none. Then it is over at once, and nothing but the
    answer is new. -/
theorem returns_loadSnapshot (s : Session) (source : SnapshotSource) (cut : Option Nat)
    (others : List Task) :
    let called := { s with tasks := .call (.loadSnapshot source cut) :: others }
    ∃ count answer, called.Returns others count ∧
      (Session.step^[count] called).answers = answer :: s.answers ∧
      (∀ failure, answer = .failed failure ↔
        Snapshot.decode (s.bytesOf source cut) = .error failure) ∧
      ∀ failure, answer = .failed failure → count = 1 ∧
        Session.step^[count] called =
          { s with tasks := others, answers := .failed failure :: s.answers } := by
  intro called
  cases decoded : Snapshot.decode (s.bytesOf source cut) with
  | error failure =>
    have failed : Session.step^[1] called =
        { s with tasks := others, answers := .failed failure :: s.answers } :=
      begin_loadSnapshot_of_error (s := { s with tasks := others }) decoded
    refine ⟨1, .failed failure, ⟨?_, ?_⟩, ?_, by simp, ?_⟩
    · rw [failed]
    · intro k bound
      obtain rfl := Nat.lt_one_iff.mp bound
      exact ⟨[.call (.loadSnapshot source cut)], List.cons_ne_nil _ _, rfl⟩
    · rw [failed]
    · rintro _ ⟨⟩
      exact ⟨rfl, failed⟩
  | ok found =>
    obtain ⟨snapshot, rest⟩ := found
    have begun := begin_loadSnapshot (t := { s with tasks := [] }) decoded
    obtain ⟨count, returned, answers, -⟩ := returns_carryOut (s := called) rfl begun
    exact ⟨count, _, returned, answers, by simp, by simp⟩

theorem observerPassive_drifting : drifting.ObserverPassive :=
  (passive_unused.respondAll (by simp [Call.plain])).observer

theorem override?_drifting :
    drifting.device.board.override? (.condition .light) = some (.scalar 1) := by
  rw [device_drifting]
  decide +kernel

theorem velocityAs_drifting : drifting.device.body.velocityAs .target = ⟨1, 2, 0⟩ := by
  rw [device_drifting]
  decide +kernel

/-- A snapshot of nothing but a position. -/
def placing : Snapshot := ⟨[.vector .zero], []⟩

/-- A snapshot of nothing but that the first seven sensors are not overridden. -/
def unforced : Snapshot := ⟨[], List.replicate 7 none⟩

theorem decode_placing : Snapshot.decode placing.encode = .ok (placing, []) := by decide +kernel

theorem decode_unforced : Snapshot.decode unforced.encode = .ok (unforced, []) := by decide +kernel

/-- Loading a snapshot keeps what it does not hold, if it holds no target. If it holds any, it
    does so just when no sensor beyond its entries was overridden and the velocity, unless there
    is a target for it, was that of a body that stands where the snapshot puts it. -/
theorem loadSnapshot_keepsBeyond_iff (passive : s.ObserverPassive) (source : SnapshotSource)
    (cut : Option Nat)
    (decoded : Snapshot.decode (s.bytesOf source cut) = .ok (snapshot, rest)) :
    let loaded := s.respond (.loadSnapshot source cut)
    loaded.2.answer = .count rest.length ∧
      (s.device.KeepsBeyond snapshot loaded.1.device ↔
        snapshot.targets = [] ∨
          (8 < snapshot.targets.length ∨
            ∃ place, snapshot.targets.head? = some place ∧ s.device.StandsAs place.toVector) ∧
          ∀ sensor : Sensor, snapshot.overrides.length ≤ sensor.index.val →
            s.device.board.override? sensor = none) := by
  intro loaded
  obtain ⟨device, answer⟩ := respond_loadSnapshot_of passive source cut decoded
  refine ⟨answer, ?_⟩
  rw [device]
  exact s.device.keepsBeyond_makeAll_plan_iff snapshot

theorem loadSnapshot_keepsBeyond_placing :
    drifting.ObserverPassive ∧ Snapshot.decode placing.encode = .ok (placing, []) ∧
      let loaded := drifting.respond (.loadSnapshot (.bytes placing.encode) none)
      loaded.2.answer = .count 0 ∧
        (drifting.device.KeepsBeyond placing loaded.1.device ↔
          placing.targets = [] ∨
            (8 < placing.targets.length ∨ ∃ place, placing.targets.head? = some place ∧
              drifting.device.StandsAs place.toVector) ∧
            ∀ sensor : Sensor, placing.overrides.length ≤ sensor.index.val →
              drifting.device.board.override? sensor = none) :=
  ⟨observerPassive_drifting, decode_placing,
    loadSnapshot_keepsBeyond_iff observerPassive_drifting (.bytes placing.encode) none
      decode_placing⟩

/-- A position alone stops a body that drifts and clears the override of a sensor. -/
theorem placing_stops_drifting :
    drifting.Reachable ∧ drifting.ObserverPassive ∧
      Snapshot.decode placing.encode = .ok (placing, []) ∧
      let loaded := drifting.respond (.loadSnapshot (.bytes placing.encode) none)
      loaded.2.answer = .count 0 ∧
        drifting.device.value .velocity .target = .vector ⟨1, 2, 0⟩ ∧
        loaded.1.device.value .velocity .target = .vector .zero ∧
        drifting.device.board.override? (.condition .light) = some (.scalar 1) ∧
        loaded.1.device.board.override? (.condition .light) = none ∧
        ¬ drifting.device.KeepsBeyond placing loaded.1.device := by
  obtain ⟨device, answer⟩ := respond_loadSnapshot_of observerPassive_drifting
    (.bytes placing.encode) none decode_placing
  have stopped : (drifting.device.makeAll placing.plan).body.velocityAs .target = .zero := rfl
  have cleared : (drifting.device.makeAll placing.plan).board.override? (.condition .light) =
      none := by
    rw [Device.override?_makeAll_plan]
    rfl
  refine ⟨reachable_drifting, observerPassive_drifting, decode_placing, answer,
    congrArg Value.vector velocityAs_drifting, ?_, override?_drifting, ?_, ?_⟩
  · rw [device]
    exact congrArg Value.vector stopped
  · rw [device, cleared]
  · rw [device]
    intro kept
    have same := kept.overrides (.condition .light) (Nat.zero_le _)
    rw [cleared, override?_drifting] at same
    cases same

/-- Loading a snapshot restores every override that it holds, also those that are none, if it
    holds any target. If it holds no target, it does so just when no sensor that it holds as not
    overridden was overridden. -/
theorem loadSnapshot_restores_iff (passive : s.ObserverPassive) (source : SnapshotSource)
    (cut : Option Nat)
    (decoded : Snapshot.decode (s.bytesOf source cut) = .ok (snapshot, rest)) :
    let loaded := s.respond (.loadSnapshot source cut)
    loaded.2.answer = .count rest.length ∧
      ((∀ (sensor : Sensor) entry, snapshot.overrides[sensor.index.val]? = some entry →
          loaded.1.device.board.override? sensor = entry) ↔
        snapshot.targets ≠ [] ∨
          ∀ sensor : Sensor, snapshot.overrides[sensor.index.val]? = some none →
            s.device.board.override? sensor = none) := by
  intro loaded
  obtain ⟨device, answer⟩ := respond_loadSnapshot_of passive source cut decoded
  refine ⟨answer, ?_⟩
  rw [device]
  exact s.device.overrides_restored_iff snapshot

theorem loadSnapshot_restores_unforced :
    drifting.ObserverPassive ∧ Snapshot.decode unforced.encode = .ok (unforced, []) ∧
      let loaded := drifting.respond (.loadSnapshot (.bytes unforced.encode) none)
      loaded.2.answer = .count 0 ∧
        ((∀ (sensor : Sensor) entry, unforced.overrides[sensor.index.val]? = some entry →
            loaded.1.device.board.override? sensor = entry) ↔
          unforced.targets ≠ [] ∨
            ∀ sensor : Sensor, unforced.overrides[sensor.index.val]? = some none →
              drifting.device.board.override? sensor = none) :=
  ⟨observerPassive_drifting, decode_unforced,
    loadSnapshot_restores_iff observerPassive_drifting (.bytes unforced.encode) none
      decode_unforced⟩

/-- Without a target, a sensor that is not to be overridden still is. -/
theorem unforced_leaves_drifting :
    drifting.Reachable ∧ drifting.ObserverPassive ∧
      Snapshot.decode unforced.encode = .ok (unforced, []) ∧
      let loaded := drifting.respond (.loadSnapshot (.bytes unforced.encode) none)
      loaded.2.answer = .count 0 ∧
        unforced.overrides[(Sensor.condition .light).index.val]? = some none ∧
        loaded.1.device.board.override? (.condition .light) = some (.scalar 1) := by
  obtain ⟨device, answer⟩ := respond_loadSnapshot_of observerPassive_drifting
    (.bytes unforced.encode) none decode_unforced
  refine ⟨reachable_drifting, observerPassive_drifting, decode_unforced, answer, rfl, ?_⟩
  have empty : unforced.targets = [] := rfl
  rw [device, Device.override?_makeAll_plan, if_pos empty, override?_drifting]
  rfl

end Session

end Sensorium
