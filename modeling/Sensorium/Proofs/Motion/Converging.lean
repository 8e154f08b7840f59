import Sensorium.Proofs.Motion.Arrived
import Sensorium.Proofs.Motion.Staying
import Sensorium.Proofs.Numeric.Extremes

/-!
# Coming to rest in time

The share of a way that is left shrinks to nothing: from some time on the exponential is zero, not
only small. A zero times the way is lost beside the target, whatever the tolerance, as long as the
way itself is finite. It is computed in single precision and may be infinite although start and
target are not; surroundings on such a way never come to rest.
-/

namespace Sensorium

/-! ## What is left of a way -/

namespace Single

variable {x : Single}

/-- What a number is some way from is finite only if the way is, whatever share of it is left. -/
theorem isFinite_of_approach {share : Float} {goal : Single}
    (h : (goal + narrow (x.widen * share)).isFinite = true) : x.isFinite = true := by
  have offset := isFinite_of_narrow (isFinite_of_add h).2
  exact isFinite_of_widen (Double.isFinite_of_mul offset).1

/-- When nothing of a finite way is left, what is on it is level with its target. -/
theorem level_approach_end {share : Float} {goal : Single} (finite : x.isFinite = true)
    (target : goal.isFinite = true) (ended : IsZero (unpackDouble share)) :
    Level (goal + narrow (x.widen * share)).unpack goal.unpack :=
  level_add_narrow target (Double.isZero_mul_right (isFinite_widen finite) ended)

end Single

/-! ## Surroundings -/

namespace Surroundings

/-- The way from start to target is finite for field and conditions. -/
structure FiniteWays (s : Surroundings) : Prop where
  field : (s.field.start - s.field.target).isFinite = true
  condition : ∀ c, ((s.conditions.get c).start - (s.conditions.get c).target).isFinite = true

/-- So much time has passed since each target was set that nothing is left of its way. -/
structure Overdue (s : Surroundings) : Prop where
  field : 746 ≤ s.settings.ambientRate.widen * Nanos.secondsSince s.field.since s.now
  condition : ∀ c,
    746 ≤ s.settings.ambientRate.widen * Nanos.secondsSince (s.conditions.get c).since s.now

/-- What surroundings become when finite targets are set and time passes. -/
inductive Driven (settings : Settings) : Surroundings → Prop
  | start : Driven settings (.start settings)
  | setField {s : Surroundings} {target : Vec3 Single} (approach : Approach) :
    Driven settings s → target.isFinite = true → Driven settings (s.setField target approach)
  | setCondition {s : Surroundings} {target : Single} (c : Condition) (approach : Approach) :
    Driven settings s → target.isFinite = true →
      Driven settings (s.setCondition c target approach)
  | advance {s : Surroundings} {now : Nanos} :
    Driven settings s → s.now ≤ now → Driven settings (s.advance now).1

/-- True if the surroundings are found at rest at one of these moments, when they are moved from
    each to the next. -/
def comesToRest (s : Surroundings) : List Nanos → Bool
  | [] => false
  | now :: later =>
    match (s.advance now).2 with
    | .stable => true
    | .changing => (s.advance now).1.comesToRest later

variable {s : Surroundings} {settings : Settings} {now : Nanos}

/-- All targets are finite, and the settings are those of the start. -/
structure Sound (settings : Settings) (s : Surroundings) : Prop where
  settings : s.settings = settings
  field : s.field.target.isFinite = true
  condition : ∀ c, (s.conditions.get c).target.isFinite = true

theorem Driven.sound (driven : Driven settings s)
    (field : settings.magneticField.isFinite = true)
    (conditions : ∀ c, (settings.conditions.get c).isFinite = true) : s.Sound settings := by
  induction driven with
  | start =>
    refine ⟨rfl, field, ?_⟩
    intro c
    rw [Surroundings.start, Conditions.get_map]
    exact conditions c
  | setField approach _ finite ih =>
    refine ⟨ih.settings, ?_, ih.condition⟩
    cases approach <;> exact finite
  | setCondition c approach _ finite ih =>
    refine ⟨ih.settings, ih.field, ?_⟩
    intro d
    rw [get_setCondition]
    split
    · cases approach <;> exact finite
    · exact ih.condition d
  | @advance s now _ _ ih =>
    cases activity : (s.advance now).2 with
    | changing =>
      rw [advance_of_changing activity]
      exact ⟨ih.settings, ih.field, ih.condition⟩
    | stable =>
      have targets := target_settled { s with now }
      rw [advance_of_stable activity]
      refine ⟨ih.settings, ih.field, ?_⟩
      intro c
      have same : ({ s with now }.settled.conditions.get c).target = (s.conditions.get c).target :=
        targets c
      rw [same]
      exact ih.condition c

/-- Surroundings at rest are on finite ways. -/
theorem finiteWays_of_atRest (h : s.atRest = true) : s.FiniteWays := by
  simp only [atRest, Bool.and_eq_true] at h
  obtain ⟨conditions, field⟩ := h
  refine ⟨?_, ?_⟩
  · have there := (Vec3.isFinite_of_sub (Vec3.isFinite_of_norm_lt field)).1
    obtain ⟨x, y, z⟩ := Vec3.isFinite_iff.mp there
    exact Vec3.isFinite_iff.mpr ⟨Single.isFinite_of_approach x, Single.isFinite_of_approach y,
      Single.isFinite_of_approach z⟩
  · intro c
    have close : s.scalarAtRest (s.conditions.get c) = true := by
      apply List.all_eq_true.mp conditions
      cases c <;> decide
    exact Single.isFinite_of_approach (Single.isFinite_of_sub (Single.isFinite_of_abs_lt close)).1

/-- Surroundings whose time is up are at rest if all their ways are finite. -/
theorem Overdue.atRest (overdue : s.Overdue) (faultless : s.settings.fault? = none)
    (ways : s.FiniteWays) (field : s.field.target.isFinite = true)
    (conditions : ∀ c, (s.conditions.get c).target.isFinite = true) : s.atRest = true := by
  obtain ⟨finite, -⟩ := Settings.positive_of_faultless faultless
    (List.mem_cons_of_mem _ List.mem_cons_self)
  have there : (s.vectorAt s.field).Level s.field.target := by
    have ended := isZero_decay finite overdue.field
    obtain ⟨x, y, z⟩ := Vec3.isFinite_iff.mp ways.field
    obtain ⟨goalX, goalY, goalZ⟩ := Vec3.isFinite_iff.mp field
    exact ⟨Single.level_approach_end x goalX ended, Single.level_approach_end y goalY ended,
      Single.level_approach_end z goalZ ended⟩
  rw [Surroundings.atRest, fieldAtRest_of_level faultless there field, Bool.and_true]
  apply List.all_eq_true.mpr
  intro c _
  apply scalarAtRest_of_level faultless _ (conditions c)
  exact Single.level_approach_end (ways.condition c) (conditions c)
    (isZero_decay finite (overdue.condition c))

/-- Surroundings that come to rest at a moment were on finite ways. -/
theorem finiteWays_of_stable (h : (s.advance now).2 = .stable) : s.FiniteWays := by
  have ways := finiteWays_of_atRest (atRest_of_stable h)
  exact ⟨ways.field, ways.condition⟩

/-- Those that come to rest at one of several moments were so too: before that nothing but the
    time changes. -/
theorem finiteWays_of_comesToRest {moments : List Nanos} (h : s.comesToRest moments = true) :
    s.FiniteWays := by
  induction moments generalizing s with
  | nil => cases h
  | cons now later ih =>
    cases activity : (s.advance now).2 with
    | stable => exact finiteWays_of_stable activity
    | changing =>
      simp only [comesToRest, activity, advance_of_changing activity] at h
      have ways := ih h
      exact ⟨ways.field, ways.condition⟩

/-- Surroundings that would be at rest at one of several moments come to rest at one of them. -/
theorem comesToRest_of_atRest {moments : List Nanos} (mem : now ∈ moments)
    (rest : { s with now }.atRest = true) : s.comesToRest moments = true := by
  induction moments generalizing s with
  | nil => cases mem
  | cons first later ih =>
    cases activity : (s.advance first).2 with
    | stable => simp only [comesToRest, activity]
    | changing =>
      rcases List.mem_cons.mp mem with rfl | mem
      · rw [advance, if_pos rest] at activity
        cases activity
      · simp only [comesToRest, activity, advance_of_changing activity]
        exact ih mem rest

/-- Surroundings that have come to rest are finite and numerically what they were to be. -/
theorem Sound.values_of_stable (sound : s.Sound settings) (faultless : settings.fault? = none)
    (stable : (s.advance now).2 = .stable) :
    (((s.advance now).1.fieldAs .current).isFinite = true ∧
        ((s.advance now).1.fieldAs .current).eqv (s.fieldAs .target) = true) ∧
      ∀ c, ((s.advance now).1.conditionAs c .current).isFinite = true ∧
        ((s.advance now).1.conditionAs c .current).eqv (s.conditionAs c .target) = true := by
  have targets := target_settled { s with now }
  have fieldTarget : { s with now }.settled.field.target = s.field.target := rfl
  have faultless : { s with now }.settled.settings.fault? = none := by
    rw [← faultless, ← sound.settings]
    rfl
  rw [advance_of_stable stable]
  have settled := settled_settled { s with now }
  generalize { s with now }.settled = t at *
  have finite (c : Condition) : (t.conditions.get c).target.isFinite = true := by
    rw [targets c]
    exact sound.condition c
  have arrived := settled.arrived faultless (by rw [fieldTarget]; exact sound.field) finite
  have place : (t.fieldAs .current).eqv s.field.target = true := by
    rw [← fieldTarget]
    exact arrived.field .current
  refine ⟨⟨(Vec3.level_of_eqv place).isFinite sound.field, place⟩, ?_⟩
  intro c
  have value : (t.conditionAs c .current).eqv (s.conditions.get c).target = true := by
    rw [← targets c]
    exact arrived.condition c .current
  refine ⟨?_, value⟩
  rw [Single.isFinite_eq, (Single.level_of_eqv value).isFinite, ← Single.isFinite_eq]
  exact sound.condition c

/-- Once nothing can be left of any way, surroundings that are moved to that moment come to rest
    exactly if all their ways are finite, and then field and conditions are finite and numerically
    what they are to be. So are those that are looked at from moment to moment until they come to
    rest, if only one of the moments is late enough. -/
theorem stable_iff_finiteWays (faultless : settings.fault? = none)
    (field : settings.magneticField.isFinite = true)
    (conditions : ∀ c, (settings.conditions.get c).isFinite = true)
    (driven : Driven settings s) (overdue : { s with now }.Overdue) :
    ((s.advance now).2 = .stable ↔ s.FiniteWays) ∧
      ((s.advance now).2 = .stable →
        (((s.advance now).1.fieldAs .current).isFinite = true ∧
          ((s.advance now).1.fieldAs .current).eqv (s.fieldAs .target) = true) ∧
        ∀ c, ((s.advance now).1.conditionAs c .current).isFinite = true ∧
          ((s.advance now).1.conditionAs c .current).eqv (s.conditionAs c .target) = true) ∧
      ∀ moments, now ∈ moments → (s.comesToRest moments = true ↔ s.FiniteWays) := by
  have sound := driven.sound field conditions
  have usable : s.settings.fault? = none := by rw [sound.settings, faultless]
  have rest (ways : s.FiniteWays) : { s with now }.atRest = true :=
    overdue.atRest usable ⟨ways.field, ways.condition⟩ sound.field sound.condition
  refine ⟨⟨finiteWays_of_stable, ?_⟩, sound.values_of_stable faultless, ?_⟩
  · intro ways
    rw [advance, if_pos (rest ways)]
  · intro moments mem
    exact ⟨finiteWays_of_comesToRest, fun ways => comesToRest_of_atRest mem (rest ways)⟩

/-- Surroundings that get warmer and whose field turns. -/
def turning : Surroundings := warming.setField ⟨10.0, 0, -30.0⟩ .smooth

theorem stable_iff_finiteWays_turning :
    (turning.advance 80000000000).2 = .stable ∧
      ((turning.advance 80000000000).1.conditionAs .temperature .current).eqv
        (turning.conditionAs .temperature .target) = true ∧
      turning.comesToRest [500000000, 80000000000] = true := by
  have driven : Driven {} turning :=
    .setField .smooth (.setCondition .temperature .smooth .start (by decide +kernel))
      (by decide +kernel)
  have ways : turning.FiniteWays := ⟨by decide +kernel, fun c => by cases c <;> decide +kernel⟩
  have overdue : { turning with now := 80000000000 }.Overdue :=
    ⟨by decide +kernel, fun c => by cases c <;> decide +kernel⟩
  obtain ⟨stable, values, loop⟩ := @stable_iff_finiteWays turning {} 80000000000 (by decide +kernel)
    (by decide +kernel) (fun c => by cases c <;> decide +kernel) driven overdue
  have rest := stable.mpr ways
  exact ⟨rest, ((values rest).2 .temperature).2,
    (loop _ (List.mem_cons_of_mem _ List.mem_cons_self)).mpr ways⟩

/-- Surroundings that are to get from the hottest to the coldest. -/
def freezing : Surroundings :=
  ((Surroundings.start {}).setCondition .temperature 3e38 .step).setCondition .temperature (-3e38)
    .smooth

/-- Start and target are finite, and yet these surroundings never come to rest. -/
theorem freezing_forever :
    Driven {} freezing ∧ { freezing with now := 1000000000000 }.Overdue ∧
      (freezing.advance 1000000000000).2 = .changing ∧
      ∀ moments, freezing.comesToRest moments = false := by
  refine ⟨?_, ⟨by decide +kernel, fun c => by cases c <;> decide +kernel⟩, by decide +kernel, ?_⟩
  · unfold freezing
    exact .setCondition .temperature .smooth
      (.setCondition .temperature .step .start (by decide +kernel)) (by decide +kernel)
  · intro moments
    rw [Bool.eq_false_iff]
    intro rest
    have way := (finiteWays_of_comesToRest rest).condition .temperature
    revert way
    decide +kernel

end Surroundings

end Sensorium
