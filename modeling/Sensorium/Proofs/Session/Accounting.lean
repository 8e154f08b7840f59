import Sensorium.Proofs.Session.Measurements
import Sensorium.Proofs.Session.Plans

/-!
# Accounts of overrides and measurements

By what a sensor is overridden, and what number its last measurement has, can be told from the
steps that a session has taken. Only four kinds of steps matter: those that override the sensor,
that clear all overrides, that read the sensor while it is changing and not overridden, and that
let the device come to rest. `Session.gauge_step` says what they do to the gauge of the sensor;
by induction on the history, `Session.accounts` says where that leads. A call that is to override
the sensor or to set a target comes to such a step before it returns, and every such step comes
from such a call. Observers and sinks may make any calls at any time.
-/

namespace Sensorium

namespace Session

/-! ## Steps that matter to a sensor -/

/-- The value by which the next step overrides a sensor, if it does. -/
def applied? (s : Session) (sensor : Sensor) : Option Value :=
  match s.tasks with
  | .override t value :: _ => if t = sensor then some value else none
  | _ => none

/-- True if the next step applies a target. -/
def retargets (s : Session) : Bool :=
  match s.tasks with
  | .retarget _ _ _ :: _ => true
  | _ => false

/-- True if the next step clears all overrides. -/
def clears (s : Session) : Bool :=
  match s.tasks with
  | .clearOverrides :: _ => true
  | _ => false

/-- The readings in the next step that count a measurement of a sensor: all that there are of
    it, if the device is changing and the sensor is not overridden. -/
def counts (s : Session) (sensor : Sensor) : Nat :=
  match s.tasks with
  | .call call :: _ => s.device.counts sensor call
  | _ => 0

/-- True if the device stabilizes with the next step. -/
def stabilizes (s : Session) : Bool :=
  match s.tasks with
  | .advance now :: _ => (s.device.advance now).2 = some .stabilized
  | _ => false

/-- The measurements of a sensor that the next step counts. -/
def measures (s : Session) (sensor : Sensor) : Nat :=
  (s.applied? sensor).isSome.toNat + s.counts sensor + s.stabilizes.toNat

variable {s : Session}

/-- What the next step does to the gauge of a sensor. -/
theorem gauge_step (s : Session) (sensor : Sensor) :
    s.step.device.board.gauge sensor =
      { override :=
          (s.applied? sensor).or (if s.clears then none else s.device.board.override? sensor)
        measurement := s.device.board.measurement sensor + .ofNat (s.measures sensor) } := by
  have same (gauge : Gauge) : gauge = ⟨gauge.override, gauge.measurement + .ofNat 0⟩ := by
    rw [show gauge.measurement + .ofNat 0 = gauge.measurement from UInt64.add_zero _]
  unfold measures applied? clears counts stabilizes
  cases found : s.tasks with
  | nil =>
    rw [step_of_no_tasks found]
    exact same _
  | cons task rest =>
    rw [step_of_tasks found]
    cases task with
    | call call =>
      obtain ⟨board, observer, sink, trace, after, device⟩ :=
        { s with tasks := rest }.device_begin call
      simp only [perform, device]
      refine (Device.BoardAfter.gauge after sensor).trans ?_
      simp only [Option.isSome_none, Bool.toNat_false, Nat.zero_add, Nat.add_zero]
      rfl
    | mark =>
      rw [device_mark]
      exact same _
    | retarget p value approach =>
      simp only [perform]
      rw [Device.retarget_eq]
      exact same _
    | clearOverrides =>
      simp only [perform, device_announce]
      exact (Board.gauge_clear ..).trans (same _)
    | override other value =>
      refine (Board.gauge_override ..).trans ?_
      by_cases mine : sensor = other
      · subst mine
        simp only [if_true]
        rfl
      · simp only [if_neg mine, if_neg (Ne.symm mine)]
        exact same _
    | advance now =>
      rw [device_advance]
      rcases s.device.advance_cases now with
        ⟨-, late⟩ | ⟨-, stable | ⟨body, surroundings, -, moving⟩⟩
      · simp only [late]
        exact same _
      · simp only [stable]
        cases s.device.changing with
        | false => exact same _
        | true => exact Board.gauge_countAll ..
      · simp only [moving]
        cases s.device.changing <;> exact same _
    | settle now step rounds limit =>
      simp only [perform]
      split <;> exact same _
    | tell id notice =>
      simp only [perform, device_tell]
      exact same _
    | leave notice | resume | answer answer => exact same _

/-! ## What has happened to a sensor -/

/-- How often a sensor was overridden. -/
def applications (sensor : Sensor) (past : List Session) : Nat :=
  past.countP fun u => (u.applied? sensor).isSome

/-- How often a sensor was read while the device was changing and the sensor was not
    overridden. -/
def countedReads (sensor : Sensor) (past : List Session) : Nat :=
  (past.map fun u => u.counts sensor).sum

/-- How often the device stabilized. -/
def stabilizations (past : List Session) : Nat := past.countP stabilizes

/-- The value by which a sensor was overridden last, if that was after the last clear. -/
def lastApplied (sensor : Sensor) : List Session → Option Value
  | [] => none
  | u :: past => (u.applied? sensor).or (if u.clears then none else lastApplied sensor past)

/-- How often a measurement of a sensor was counted. -/
def tally (sensor : Sensor) (past : List Session) : Nat :=
  applications sensor past + countedReads sensor past + stabilizations past

theorem tally_cons (sensor : Sensor) (u : Session) (past : List Session) :
    tally sensor (u :: past) = tally sensor past + u.measures sensor := by
  have flag (b : Bool) : (if b = true then 1 else 0) = b.toNat := by cases b <;> rfl
  simp only [tally, applications, countedReads, stabilizations, measures, List.countP_cons,
    List.map_cons, List.sum_cons, flag]
  omega

theorem lastApplied_eq_some_iff {sensor : Sensor} {past : List Session} {value : Value} :
    lastApplied sensor past = some value ↔
      ∃ later u earlier, past = later ++ u :: earlier ∧ u.applied? sensor = some value ∧
        ∀ w ∈ later, w.clears = false ∧ w.applied? sensor = none := by
  induction past with
  | nil =>
    constructor
    · nofun
    · rintro ⟨later, u, earlier, split, -⟩
      cases later <;> cases split
  | cons u past ih =>
    constructor
    · intro last
      cases applied : u.applied? sensor with
      | some given =>
        rw [lastApplied, applied] at last
        refine ⟨[], u, past, rfl, applied.trans last, ?_⟩
        intro w mem
        cases mem
      | none =>
        rw [lastApplied, applied, Option.none_or] at last
        cases clears : u.clears with
        | true =>
          rw [clears, if_pos rfl] at last
          cases last
        | false =>
          rw [clears, if_neg Bool.false_ne_true] at last
          obtain ⟨later, v, earlier, rfl, applied', free⟩ := ih.mp last
          refine ⟨u :: later, v, earlier, rfl, applied', ?_⟩
          intro w mem
          rcases List.mem_cons.mp mem with rfl | mem
          · exact ⟨clears, applied⟩
          · exact free w mem
    · rintro ⟨later, v, earlier, split, applied, free⟩
      cases later with
      | nil =>
        cases split
        rw [lastApplied, applied, Option.some_or]
      | cons w later =>
        cases split
        obtain ⟨clears, none⟩ := free u List.mem_cons_self
        rw [lastApplied, none, clears, Option.none_or, if_neg Bool.false_ne_true]
        exact ih.mpr ⟨later, v, earlier, rfl, applied,
          fun w mem => free w (List.mem_cons_of_mem _ mem)⟩

theorem isSome_lastApplied_iff {sensor : Sensor} {past : List Session} :
    (lastApplied sensor past).isSome = true ↔
      ∃ later u earlier, past = later ++ u :: earlier ∧ (u.applied? sensor).isSome = true ∧
        ∀ w ∈ later, w.clears = false := by
  constructor
  · intro overridden
    obtain ⟨value, last⟩ := Option.isSome_iff_exists.mp overridden
    obtain ⟨later, u, earlier, split, applied, free⟩ := lastApplied_eq_some_iff.mp last
    refine ⟨later, u, earlier, split, ?_, fun w mem => (free w mem).1⟩
    rw [applied]
    rfl
  · rintro ⟨later, u, earlier, rfl, applied, free⟩
    induction later with
    | nil =>
      rw [List.nil_append, lastApplied, Option.isSome_or, applied, Bool.true_or]
    | cons w later ih =>
      have last := ih fun v mem => free v (List.mem_cons_of_mem _ mem)
      rw [List.cons_append, lastApplied, Option.isSome_or, free w List.mem_cons_self]
      simp only [Bool.false_eq_true, if_false, last, Bool.or_true]

variable {asked : Call → Prop} {origin : Session} {past : List Session}

/-- The gauge of a sensor says by what it was overridden last, and how often a measurement of it
    was counted. -/
theorem History.gauge (run : History asked origin past s) (fresh : origin.Fresh)
    (sensor : Sensor) :
    s.device.board.gauge sensor = ⟨lastApplied sensor past, .ofNat (tally sensor past)⟩ := by
  induction run with
  | start =>
    obtain ⟨settings, started⟩ := fresh.device
    rw [(Device.finite_of_start? started).1]
    exact Board.gauge_blank sensor
  | @step past s _ _ run _ ih =>
    rw [gauge_step, Board.override?, Board.measurement, ih, tally_cons, UInt64.ofNat_add]
    rfl
  | @ask past s call run idle _ ih =>
    have idleStep := gauge_step s sensor
    rw [step_of_no_tasks idle, Board.override?, Board.measurement, ih] at idleStep
    change s.device.board.gauge sensor = _
    rw [ih, idleStep, tally_cons, UInt64.ofNat_add]
    rfl

/-! ## Where clears and overrides come from -/

end Session

/-- Each target is followed by a clear of all overrides, and there are no others. -/
def Paired : List Task → Prop
  | .retarget _ _ _ :: .clearOverrides :: rest => Paired rest
  | .retarget _ _ _ :: _ => False
  | .clearOverrides :: _ => False
  | _ :: rest => Paired rest
  | [] => True

theorem paired_append {tasks rest : List Task} (paired : Paired rest)
    (apart : ∀ task ∈ tasks, task.partOfChange = false) : Paired (tasks ++ rest) := by
  induction tasks with
  | nil => exact paired
  | cons task tasks ih =>
    have others := ih fun later mem => apart later (List.mem_cons_of_mem _ mem)
    have first := apart task List.mem_cons_self
    cases task <;> first | exact others | cases first

theorem paired_changes {rest : List Task} (paired : Paired rest) (changes : List Change) :
    Paired (changes.flatMap Change.tasks ++ rest) := by
  induction changes with
  | nil => exact paired
  | cons change changes ih =>
    rw [List.flatMap_cons, List.append_assoc]
    cases change <;> exact ih

namespace Session

variable {s : Session}

theorem LeadsTo.paired {task : Task} {tasks : List Task} (leads : s.LeadsTo task tasks)
    (paired : Paired s.tasks) : Paired tasks := by
  obtain ⟨before, changes, after, rfl, apart, -⟩ := leads
  rw [List.append_assoc, List.append_assoc]
  apply paired_append
  · apply paired_changes
    exact paired_append paired fun other mem => apart other (List.mem_append_right _ mem)
  · exact fun other mem => apart other (List.mem_append_left _ mem)

variable {asked : Call → Prop} {origin : Session} {past : List Session}

/-- When a target has been applied, it is the turn of its clear. -/
theorem tasks_step_of_retargets (paired : Paired s.tasks) (retargets : s.retargets = true) :
    ∃ rest, s.step.tasks = .clearOverrides :: rest ∧ Paired rest := by
  unfold Session.retargets at retargets
  split at retargets
  · rename_i p value approach rest found
    have left : s.step.tasks = rest := by
      rw [step_of_tasks found]
      rfl
    rw [found] at paired
    cases rest with
    | nil => exact paired.elim
    | cons next more =>
      cases next with
      | clearOverrides => exact ⟨more, left, paired⟩
      | _ => exact paired.elim
  · cases retargets

theorem tasks_of_clears (clears : s.clears = true) : ∃ rest, s.tasks = .clearOverrides :: rest := by
  unfold Session.clears at clears
  split at clears
  · rename_i rest found
    exact ⟨rest, found⟩
  · cases clears

/-- The tasks are paired, or the target of a pair was applied just now. -/
theorem History.paired (run : History asked origin past s) (fresh : origin.Fresh) :
    Paired s.tasks ∨ ∃ u earlier rest, past = u :: earlier ∧ u.retargets = true ∧
      s.tasks = .clearOverrides :: rest ∧ Paired rest := by
  induction run with
  | start =>
    left
    rw [fresh.idle]
    trivial
  | @step past s task rest run found ih =>
    have leads := { s with tasks := rest }.leadsTo_perform task
    rw [← step_of_tasks found] at leads
    rcases ih with paired | ⟨u, earlier, more, -, -, cleared, paired⟩
    · rw [found] at paired
      cases task with
      | retarget p value approach =>
        have retargets : s.retargets = true := by simp only [Session.retargets, found]
        rw [← found] at paired
        obtain ⟨more, left, paired⟩ := tasks_step_of_retargets paired retargets
        exact .inr ⟨s, past, more, rfl, retargets, left, paired⟩
      | clearOverrides => exact paired.elim
      | _ => exact .inl (leads.paired paired)
    · rw [found] at cleared
      cases cleared
      exact .inl (leads.paired paired)
  | ask call run idle allowed ih => exact .inl trivial

/-- Overrides are cleared when a target has been applied, and at no other time. -/
theorem History.clears_iff {u : Session} {earlier : List Session}
    (run : History asked origin (u :: earlier) s) (fresh : origin.Fresh) :
    s.clears = true ↔ u.retargets = true := by
  constructor
  · intro clears
    obtain ⟨rest, found⟩ := tasks_of_clears clears
    rcases run.paired fresh with paired | ⟨v, others, more, same, retargets, -, -⟩
    · rw [found] at paired
      exact paired.elim
    · cases same
      exact retargets
  · intro retargets
    cases run with
    | step task rest before found =>
      rcases before.paired fresh with paired | ⟨v, others, more, -, -, cleared, -⟩
      · obtain ⟨more, left, -⟩ := tasks_step_of_retargets paired retargets
        simp only [clears, left]
      · simp only [Session.retargets, cleared] at retargets
        cases retargets
    | ask call before idle allowed =>
      simp only [Session.retargets, idle] at retargets
      cases retargets

/-- Every override that is still to be made was asked for. -/
theorem History.overrides (run : History asked origin past s) (fresh : origin.Fresh)
    {sensor : Sensor} {value : Value} (mem : .override sensor value ∈ s.tasks) :
    ∃ u ∈ past, ∃ call rest, u.tasks = .call call :: rest ∧ u.Overrides sensor call value := by
  induction run with
  | start =>
    rw [fresh.idle] at mem
    cases mem
  | @step past s task rest run found ih =>
    have leads := { s with tasks := rest }.leadsTo_perform task
    rw [← step_of_tasks found] at leads
    rcases leads.mem mem with mem | apart | ⟨call, change, rfl, planned, mem⟩
    · have before : .override sensor value ∈ s.tasks := by
        rw [found]
        exact List.mem_cons_of_mem _ mem
      obtain ⟨u, earlier, asked⟩ := ih before
      exact ⟨u, List.mem_cons_of_mem _ earlier, asked⟩
    · cases apart
    · have made : change = .override sensor value := by
        cases change with
        | target p given approach =>
          simp only [Change.tasks, List.mem_cons, List.not_mem_nil, or_false] at mem
          rcases mem with same | same | same <;> cases same
        | override other given =>
          simp only [Change.tasks, List.mem_cons, List.not_mem_nil, or_false] at mem
          rcases mem with same | same
          · cases same
          · cases same
            rfl
      rw [made] at planned
      have asked : s.Overrides sensor call value := overrides_of_mem_plan planned
      exact ⟨s, List.mem_cons_self, call, rest, found, asked⟩
  | ask call run idle allowed ih =>
    cases List.mem_singleton.mp mem

theorem tasks_of_applied {sensor : Sensor} {value : Value}
    (applied : s.applied? sensor = some value) : .override sensor value ∈ s.tasks := by
  unfold applied? at applied
  split at applied
  · rename_i other given rest found
    split at applied
    · rename_i same
      cases same
      cases applied
      rw [found]
      exact List.mem_cons_self
    · cases applied
  · cases applied

/-! ## The accounts -/

/-- What the states that a session has gone through, the latest first, tell of one of its
    sensors. -/
structure Accounts (past : List Session) (s : Session) (sensor : Sensor) : Prop where
  /-- The sensor is overridden if it was overridden after the last clear. -/
  overridden : (s.device.board.override? sensor).isSome = true ↔
    ∃ later u earlier, past = later ++ u :: earlier ∧ (u.applied? sensor).isSome = true ∧
      ∀ w ∈ later, w.clears = false
  /-- It is overridden by the value by which it was last. -/
  value : ∀ value, s.device.board.override? sensor = some value ↔
    ∃ later u earlier, past = later ++ u :: earlier ∧ u.applied? sensor = some value ∧
      ∀ w ∈ later, w.clears = false ∧ w.applied? sensor = none
  /-- Every call returns, and until then it makes the changes of its plan, in their order and no
      others but those of calls that are made in the midst of it. -/
  made : ∀ call rest, s.tasks = .call call :: rest →
    ∃ count, s.Returns rest count ∧ s.made count = s.plan call
  /-- A plan has an override of the sensor if the call is to make one, -/
  overriding : ∀ call value, .override sensor value ∈ s.plan call ↔ s.Overrides sensor call value
  /-- by the value that was given if it has the right shape, -/
  given : ∀ other given value, s.Overrides sensor (.override other given) value →
    other = sensor ∧ sensor.kind.Keeps given value
  /-- and then it is made before the call returns. -/
  applied : ∀ call rest value, s.tasks = .call call :: rest → s.Overrides sensor call value →
    ∃ count, s.Returns rest count ∧ ∃ k < count, (step^[k] s).applied? sensor = some value
  /-- A plan has targets of a parameter if the call is to set some. -/
  retargeting : ∀ call p,
    (∃ value approach, .target p value approach ∈ s.plan call) ↔ s.Retargets p call
  /-- They are set before the call returns, and all overrides are cleared at once. -/
  ended : ∀ call rest p, s.tasks = .call call :: rest → s.Retargets p call →
    ∃ count, s.Returns rest count ∧
      ∃ k < count, (step^[k] s).retargets = true ∧ (step^[k + 1] s).clears = true
  /-- A clear ends the application of every target, and there is no other. -/
  cleared : ∀ later u w earlier, s :: past = later ++ u :: w :: earlier →
    (u.clears = true ↔ w.retargets = true)
  /-- The value of every override is of the kind of the sensor, and was asked for. -/
  asked : ∀ later u earlier value, past = later ++ u :: earlier → u.applied? sensor = some value →
    value.kind = sensor.kind ∧ ∃ w ∈ earlier, ∃ call rest,
      w.tasks = .call call :: rest ∧ w.Overrides sensor call value
  /-- A reading of the overridden sensor gives the value, and no new number. -/
  reading : ∀ value reading, s.device.board.override? sensor = some value →
    (sensor, reading) ∈ s.readings →
      reading = ⟨value, s.device.board.measurement sensor⟩ ∧
        s.step.device.board.measurement sensor = s.device.board.measurement sensor
  /-- The number counts the overrides, the readings that count and the times that the device
      stabilized. -/
  number : s.device.board.measurement sensor =
    .ofNat (applications sensor past + countedReads sensor past + stabilizations past)
  /-- If it has not wrapped around, it has never been higher. -/
  highest : applications sensor past + countedReads sensor past + stabilizations past < 2 ^ 64 →
    ∀ t ∈ past, t.device.board.measurement sensor ≤ s.device.board.measurement sensor

theorem tally_append_le (sensor : Sensor) (later earlier : List Session) :
    tally sensor earlier ≤ tally sensor (later ++ earlier) := by
  induction later with
  | nil => exact Nat.le_refl _
  | cons u later ih =>
    rw [List.cons_append, tally_cons]
    omega

theorem History.measurement_le (run : History asked origin past s) (fresh : origin.Fresh)
    {sensor : Sensor} (few : tally sensor past < 2 ^ 64) {t : Session} (before : t ∈ past) :
    t.device.board.measurement sensor ≤ s.device.board.measurement sensor := by
  obtain ⟨later, earlier, split⟩ := List.append_of_mem before
  have less : tally sensor earlier ≤ tally sensor past := by
    rw [split, List.append_cons]
    exact tally_append_le sensor _ earlier
  have there := congrArg Gauge.measurement ((run.before split).gauge fresh sensor)
  have now := congrArg Gauge.measurement (run.gauge fresh sensor)
  rw [UInt64.le_iff_toNat_le, Board.measurement, Board.measurement, there, now,
    UInt64.toNat_ofNat_of_lt' (Nat.lt_of_le_of_lt less few), UInt64.toNat_ofNat_of_lt' few]
  exact less

theorem applied?_of_change? {task : Task} {rest : List Task} {sensor : Sensor} {value : Value}
    (found : s.tasks = task :: rest) (makes : task.change? = some (.override sensor value)) :
    s.applied? sensor = some value := by
  cases task <;> cases makes
  simp only [applied?, found, if_true]

theorem retargets_of_change? {task : Task} {rest : List Task} {p : Parameter} {value : Value}
    {approach : Approach} (found : s.tasks = task :: rest)
    (makes : task.change? = some (.target p value approach)) : s.retargets = true := by
  cases task <;> cases makes
  simp only [retargets, found]

/-- In the midst of a call overrides are cleared, too, when a target has been applied. -/
theorem History.clears_of_retargets (run : History asked origin past s) (fresh : origin.Fresh)
    {k : Nat} (busy : ∀ j ≤ k, (Session.step^[j] s).tasks ≠ [])
    (retargets : (Session.step^[k] s).retargets = true) :
    (Session.step^[k + 1] s).clears = true := by
  have later := run.trail (k + 1) fun j bound => busy j (Nat.le_of_lt_succ bound)
  exact (later.clears_iff fresh).mpr retargets

/-- The overrides of a sensor and the number of its measurements are accounted for, whatever is
    asked, and whatever observers and sinks do in the midst of it. -/
theorem accounts (run : History asked origin past s) (fresh : origin.Fresh) (sensor : Sensor) :
    s.Accounts past sensor where
  overridden := by
    rw [Board.override?, run.gauge fresh]
    exact isSome_lastApplied_iff
  value value := by
    rw [Board.override?, run.gauge fresh]
    exact lastApplied_eq_some_iff
  made call rest found := returns_made found
  overriding call value := override_mem_plan_iff
  given other given value overrides := by
    cases overrides
    exact ⟨rfl, Kind.keeps_conform _ given⟩
  applied call rest value found overrides := by
    obtain ⟨count, returned, k, bound, task, others, tasks, makes⟩ :=
      exists_of_mem_plan found (override_mem_plan_iff.mpr overrides)
    exact ⟨count, returned, k, bound, applied?_of_change? tasks makes⟩
  retargeting call p := target_mem_plan_iff
  ended call rest p found set := by
    obtain ⟨value, approach, planned⟩ := target_mem_plan_iff.mpr set
    obtain ⟨count, returned, k, bound, task, others, tasks, makes⟩ :=
      exists_of_mem_plan found planned
    have retargets := retargets_of_change? tasks makes
    refine ⟨count, returned, k, bound, retargets, run.clears_of_retargets fresh ?_ retargets⟩
    exact fun j before => returned.tasks_ne_nil (Nat.lt_of_le_of_lt before bound)
  cleared later u w earlier split := by
    cases later with
    | nil =>
      cases split
      exact run.clears_iff fresh
    | cons v later =>
      cases split
      have before : History asked origin (w :: earlier) u := run.before rfl
      exact before.clears_iff fresh
  asked later u earlier value split applied := by
    obtain ⟨w, mem, call, rest, found, overrides⟩ :=
      (run.before split).overrides fresh (tasks_of_applied applied)
    exact ⟨overrides.kind, w, mem, call, rest, found, overrides⟩
  reading value reading overridden read := by
    obtain ⟨rfl, gauge, -⟩ := mem_readings read
    have kept : s.device.gaugeAfter sensor = s.device.board.gauge sensor := by
      simp [Device.gaugeAfter, overridden]
    constructor
    · rw [Device.reading, Device.shown, overridden, kept]
      rfl
    · rw [Board.measurement, gauge, kept]
      rfl
  number := congrArg Gauge.measurement (run.gauge fresh sensor)
  highest few t before := run.measurement_le fresh few before

/-- An observer that makes light of it when it is told of a change to come, and looks. -/
def dazzling : Observer Script where
  changing := some [[], [.override (.condition .light) (.scalar 1), .read (.condition .light)]]

/-- Light is overridden in the midst of being changed, which does not outlast the clear, is read,
    and is overridden again before the device comes to rest. -/
theorem accounts_dazzled :
    let light : Sensor := .condition .light
    let greeting := unused.ask (.attach dazzling)
    let attached := step^[6] greeting
    let brightening := attached.ask (.setTarget (.condition .light) (.scalar 2) .smooth)
    let reading := (step^[13] brightening).ask (.read light)
    let shading := reading.step.ask (.override light (.scalar 1))
    let resting := (step^[4] shading).ask (.advance 60000000000)
    let rested := step^[4] resting
    let past := resting.trail 4 ++ step^[4] shading :: (shading.trail 4 ++
      reading.step :: reading :: step^[13] brightening ::
      (brightening.trail 13 ++ attached :: (greeting.trail 6 ++ [unused])))
    History (fun _ => True) unused past rested ∧ unused.Fresh ∧ rested.Accounts past light ∧
      (step^[9] brightening).device.board.override? light = some (.scalar 1) ∧
      reading.device.board.override? light = none ∧
      rested.device.board.override? light = some (.scalar 1) ∧
      applications light past = 2 ∧ countedReads light past = 1 ∧ stabilizations past = 1 ∧
      rested.device.board.measurement light = 4 := by
  intro light greeting attached brightening reading shading resting rested past
  have greeted : ∀ k < 6, (step^[k] greeting).tasks ≠ [] := by decide +kernel
  have busy : ∀ k < 13, (step^[k] brightening).tasks ≠ [] := by decide +kernel
  have begun : History (fun _ => True) unused [unused] greeting := .ask _ .start rfl trivial
  have changed := ((begun.trail 6 greeted).ask _ (by decide +kernel) trivial).trail 13 busy
  have read := (changed.ask (.read light) (by decide +kernel) trivial).step _ [] rfl
  have shaded := (read.ask (.override light (.scalar 1)) (by decide +kernel) trivial).trail 4
    (by decide +kernel)
  have run : History (fun _ => True) unused past rested :=
    (shaded.ask (.advance 60000000000) (by decide +kernel) trivial).trail 4 (by decide +kernel)
  refine ⟨run, fresh_unused, accounts run fresh_unused light, ?_⟩
  decide +kernel

end Session

end Sensorium
