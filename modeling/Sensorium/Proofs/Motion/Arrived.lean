import Sensorium.Proofs.Motion.Resting

/-!
# What counts as at rest

A body or surroundings that are moved to a moment at which they count as at rest are put onto
their targets, and what they are then reported to be is numerically what they are to be. The test
that precedes this also keeps out every infinity and NaN: what is below a tolerance is finite, and
a difference is finite only between finite numbers. Before that test nothing but the time changes.
-/

namespace Sensorium

open Float.Model (UnpackedFloat totalExponent)
open Float.Model.UnpackedFloat

/-! ## Rotations of moderate size -/

/-- Numerically smaller or equal; false when a side is NaN. -/
def Single.atMost (x y : Single) : Bool := x.lt y || x.eqv y

namespace Rotation

/-- Numerical equality in every component. -/
def eqv (a b : Rotation) : Bool := a.w.eqv b.w && a.i.eqv b.i && a.j.eqv b.j && a.k.eqv b.k

/-- True if no component is above two in size. -/
def moderate (q : Rotation) : Bool :=
  q.w.abs.atMost 2 && q.i.abs.atMost 2 && q.j.abs.atMost 2 && q.k.abs.atMost 2

end Rotation

theorem Single.within_of_atMost {x : Single} (h : x.abs.atMost 2 = true) :
    Within 2 x.unpack := by
  have stored := x.stored_unpack
  have compared : (x.abs.unpack.lt (2 : Single).unpack || x.abs.unpack.beq (2 : Single).unpack) =
      true := by
    rw [← lt_eq, ← eqv_eq_beq]
    exact h
  rw [unpack_abs, unpack_two] at compared
  cases form : x.unpack with
  | zero _ => trivial
  | infinity _ | notANumber =>
    rw [form] at compared
    cases compared
  | finite sign mantissa exponent positive =>
    rw [form] at stored compared
    obtain ⟨narrow, -, -, -⟩ := stored
    change mantissa < 2 ^ 24 at narrow
    have digits : mantissa.log2 < 24 := (Nat.log2_lt (Nat.ne_of_gt positive)).mpr narrow
    have order : (compare exponent (-22)).then (compare mantissa (2 ^ 23)) ≠ .gt := by
      intro above
      simp only [UnpackedFloat.abs, UnpackedFloat.lt, UnpackedFloat.beq, UnpackedFloat.compare,
        above] at compared
      cases compared
    change (mantissa.log2 : Int) + 1 + exponent ≤ 2
    rcases lt_trichotomy exponent (-22) with less | rfl | greater
    · omega
    · rw [Int.compare_eq_eq.mpr rfl, Ordering.eq_then] at order
      have bound := Nat.compare_ne_gt.mp order
      have short : mantissa.log2 ≤ 23 := log2_le_log2 bound
      omega
    · rw [Int.compare_eq_gt.mpr greater] at order
      exact (order rfl).elim

theorem Rotation.within_of_moderate {q : Rotation} (h : q.moderate = true) : q.Within 2 := by
  simp only [moderate, Bool.and_eq_true] at h
  obtain ⟨⟨⟨w, i⟩, j⟩, k⟩ := h
  exact ⟨Single.within_of_atMost w, Single.within_of_atMost i, Single.within_of_atMost j,
    Single.within_of_atMost k⟩

theorem Rotation.Level.eqv {a b : Rotation} {m : Int} (h : a.Level b) (bound : b.Within m) :
    a.eqv b = true := by
  simp only [Rotation.eqv, Single.eqv_of_level h.w (Single.isFinite_of_within bound.w),
    Single.eqv_of_level h.i (Single.isFinite_of_within bound.i),
    Single.eqv_of_level h.j (Single.isFinite_of_within bound.j),
    Single.eqv_of_level h.k (Single.isFinite_of_within bound.k), Bool.and_self]

theorem Rotation.level_of_eqv {a b : Rotation} (h : a.eqv b = true) : a.Level b := by
  simp only [Rotation.eqv, Bool.and_eq_true] at h
  obtain ⟨⟨⟨w, i⟩, j⟩, k⟩ := h
  exact ⟨Single.level_of_eqv w, Single.level_of_eqv i, Single.level_of_eqv j,
    Single.level_of_eqv k⟩

/-! ## Bodies -/

namespace Body

/-- The body is numerically where and as it is to be, stands still and does not tremble. -/
structure Arrived (b : Body) : Prop where
  position : ∀ aspect, (b.positionAs aspect).eqv (b.positionAs .target) = true
  velocity : ∀ aspect, (b.velocityAs aspect).eqv (b.velocityAs .target) = true
  standing : ∀ aspect, (b.velocityAs aspect).eqv .zero = true
  tremor : ∀ aspect, (b.tremorAs aspect).eqv (b.tremorAs .target) = true
  calm : ∀ aspect, (b.tremorAs aspect).eqv 0 = true
  rotation : ∀ aspect, (b.rotationAs aspect).eqv (b.rotationAs .target) = true
  acceleration : b.acceleration.eqv .zero = true
  angularVelocity : b.angularVelocity.eqv .zero = true
  tremble : b.tremble = .zero
  still : (b.positionAs .current).eqv (b.positionAs .still) = true ∧
    (b.velocityAs .current).eqv (b.velocityAs .still) = true

/-- The body is to have no velocity, or it is pulled to a position and is close to it and slow;
    and the tremor is to end. -/
structure CloseToRest (b : Body) : Prop where
  motion : (∃ target, b.motion.aim = .velocity target ∧ target.eqv .zero = true) ∨
    ∃ target, b.motion.aim = .position target ∧
      (b.positionAs .still - target).norm.lt b.settings.positionEpsilon = true ∧
      (b.velocityAs .still).norm.lt b.settings.velocityEpsilon = true
  tremor : b.tremor.target.eqv 0 = true

variable {b : Body} {now : Nanos}

theorem closeToRest_of_atRest (h : b.atRest = true) : b.CloseToRest := by
  simp only [atRest, Bool.and_eq_true] at h
  obtain ⟨⟨translation, -⟩, tremor⟩ := h
  simp only [tremorAtRest, Bool.and_eq_true] at tremor
  refine ⟨?_, tremor.1⟩
  simp only [translationAtRest] at translation
  cases aim : b.motion.aim with
  | position target =>
    rw [aim] at translation
    simp only [Bool.and_eq_true] at translation
    exact .inr ⟨target, rfl, translation⟩
  | velocity target =>
    rw [aim] at translation
    simp only [Bool.and_eq_true] at translation
    exact .inl ⟨target, rfl, translation.1⟩

/-- The place that a body at rest is put onto is finite. -/
theorem CloseToRest.isFinite_target (h : b.CloseToRest)
    (finite : (b.positionAs .still).isFinite = true) :
    (b.positionAs .target).isFinite = true := by
  rcases h.motion with ⟨target, aim, -⟩ | ⟨target, aim, close, -⟩
  · simp only [positionAs, aim]
    exact finite
  · simp only [positionAs, aim]
    exact (Vec3.isFinite_of_sub (Vec3.isFinite_of_norm_lt close)).2

/-- A settled body has arrived at its targets, if they are finite. -/
theorem Settled.arrived (settled : b.Settled) (faultless : b.settings.fault? = none)
    (finite : (b.positionAs .target).isFinite = true) (small : b.turn.target.Within 2) :
    b.Arrived := by
  have goal : b.positionAs .target = b.motion.position := by simp only [positionAs, settled.aim]
  have halt : b.velocityAs .target = .zero := by simp only [velocityAs, settled.aim]
  have ended : b.tremor.target = 0 := by rw [settled.tremor]; rfl
  rw [goal] at finite
  have calm : b.tremble = .zero :=
    settled.tremble (Settings.positive_of_faultless faultless List.mem_cons_self).1
  obtain ⟨place, speed, force⟩ := translation_resting faultless settled.motion finite
  obtain ⟨turned, standing⟩ := turn_arrived faultless settled.turn small
  have bound := tremorBound_resting faultless settled.tremor
  have none : (Kinematics.zero.position).IsZero := Vec3.isZero_zero
  have position (aspect : Aspect) : (b.positionAs aspect).Level b.motion.position := by
    cases aspect with
    | current =>
      simp only [positionAs, calm]
      exact (Vec3.level_add_zero (place.isFinite finite) none).trans place
    | still => exact place
    | target =>
      rw [goal]
      exact .refl _
  have velocity (aspect : Aspect) : (b.velocityAs aspect).IsZero := by
    cases aspect with
    | current =>
      simp only [velocityAs, calm]
      exact speed.add none
    | still => exact speed
    | target =>
      rw [halt]
      exact Vec3.isZero_zero
  have tremor (aspect : Aspect) : IsZero (b.tremorAs aspect).unpack := by
    cases aspect with
    | current | still => exact bound
    | target =>
      rw [tremorAs, ended]
      exact ⟨.positive, rfl⟩
  have rotation (aspect : Aspect) : (b.rotationAs aspect).Level b.turn.target := by
    cases aspect with
    | current | still => exact turned
    | target => exact .refl _
  exact {
    position := fun aspect => by
      rw [goal]
      exact (position aspect).eqv finite
    velocity := fun aspect => by
      rw [halt]
      exact (velocity aspect).eqv
    standing := fun aspect => (velocity aspect).eqv
    tremor := fun aspect => by
      rw [tremorAs, ended]
      exact Single.eqv_zero (tremor aspect)
    calm := fun aspect => Single.eqv_zero (tremor aspect)
    rotation := fun aspect => (rotation aspect).eqv small
    acceleration := by
      simp only [acceleration, calm]
      exact (force.add none).eqv
    angularVelocity := standing.eqv
    tremble := calm
    still := ⟨((position .current).trans place.symm).eqv (place.isFinite finite),
      ((velocity .current).level.trans speed.level.symm).eqv speed.isFinite⟩ }

theorem atRest_of_stable (h : (b.advance now).2 = .stable) : { b with now }.atRest = true := by
  simp only [advance] at h
  split at h
  · assumption
  · cases h

theorem advance_of_changing (h : (b.advance now).2 = .changing) :
    (b.advance now).1 = { b with now } := by
  simp only [advance] at h ⊢
  split at h
  · cases h
  · rename_i moving
    rw [if_neg moving]

end Body

/-! ## Surroundings -/

namespace Surroundings

/-- Field and conditions are numerically what they are to be. -/
structure Arrived (s : Surroundings) : Prop where
  field : ∀ aspect, (s.fieldAs aspect).eqv (s.fieldAs .target) = true
  condition : ∀ c aspect, (s.conditionAs c aspect).eqv (s.conditionAs c .target) = true

variable {s : Surroundings} {now : Nanos}

theorem isFinite_of_atRest (h : s.atRest = true) :
    s.field.target.isFinite = true ∧ ∀ c, (s.conditions.get c).target.isFinite = true := by
  simp only [atRest, Bool.and_eq_true] at h
  obtain ⟨conditions, field⟩ := h
  refine ⟨(Vec3.isFinite_of_sub (Vec3.isFinite_of_norm_lt field)).2, ?_⟩
  intro c
  have close : s.scalarAtRest (s.conditions.get c) = true := by
    apply List.all_eq_true.mp conditions
    cases c <;> decide
  exact (Single.isFinite_of_sub (Single.isFinite_of_abs_lt close)).2

/-- Settled surroundings have arrived at their targets, if those are finite. -/
theorem Settled.arrived (settled : s.Settled) (faultless : s.settings.fault? = none)
    (field : s.field.target.isFinite = true)
    (conditions : ∀ c, (s.conditions.get c).target.isFinite = true) : s.Arrived := by
  have there : (s.vectorAt s.field).Level s.field.target := by
    rw [settled.field]
    exact level_vectorAt faultless field
  have each (c : Condition) : Level (s.scalarAt (s.conditions.get c)).unpack
      (s.conditions.get c).target.unpack := by
    rw [settled.condition c]
    exact level_scalarAt faultless (conditions c)
  refine ⟨?_, ?_⟩
  · intro aspect
    cases aspect with
    | current | still => exact there.eqv field
    | target => exact (Vec3.Level.refl _).eqv field
  · intro c aspect
    cases aspect with
    | current | still => exact Single.eqv_of_level (each c) (conditions c)
    | target => exact Single.eqv_of_level (.refl _) (conditions c)

theorem atRest_of_stable (h : (s.advance now).2 = .stable) : { s with now }.atRest = true := by
  simp only [advance] at h
  split at h
  · assumption
  · cases h

theorem advance_of_changing (h : (s.advance now).2 = .changing) :
    (s.advance now).1 = { s with now } := by
  simp only [advance] at h ⊢
  split at h
  · cases h
  · rename_i moving
    rw [if_neg moving]

end Surroundings

/-! ## Advancing -/

/-- A body and surroundings that are moved to a moment either come to rest, and then they were
    close to it and are put exactly onto the targets they had, or nothing changes but the time. -/
theorem advance_arrives {b : Body} {s : Surroundings} {now : Nanos}
    (body : b.settings.fault? = none) (surroundings : s.settings.fault? = none)
    (moderate : b.turn.target.moderate = true)
    (finite : ({ b with now }.positionAs .still).isFinite = true) :
    ((b.advance now).2 = .stable →
      { b with now }.CloseToRest ∧ (b.advance now).1.Arrived ∧
        (b.advance now).1.positionAs .target = { b with now }.positionAs .target ∧
        (b.advance now).1.rotationAs .target = b.rotationAs .target) ∧
      ((b.advance now).2 = .changing → (b.advance now).1 = { b with now }) ∧
      ((s.advance now).2 = .stable →
        (s.advance now).1.Arrived ∧
          (s.advance now).1.fieldAs .target = s.fieldAs .target ∧
          ∀ c, (s.advance now).1.conditionAs c .target = s.conditionAs c .target) ∧
      ((s.advance now).2 = .changing → (s.advance now).1 = { s with now }) := by
  have small := Rotation.within_of_moderate moderate
  refine ⟨?_, Body.advance_of_changing, ?_, Surroundings.advance_of_changing⟩
  · intro stable
    have close := Body.closeToRest_of_atRest (Body.atRest_of_stable stable)
    rw [Body.advance_of_stable stable]
    have goal := close.isFinite_target finite
    exact ⟨close, (Body.settled_settled _).arrived body goal small, rfl, rfl⟩
  · intro stable
    obtain ⟨field, conditions⟩ :=
      Surroundings.isFinite_of_atRest (Surroundings.atRest_of_stable stable)
    have targets := Surroundings.target_settled { s with now }
    rw [Surroundings.advance_of_stable stable]
    refine ⟨(Surroundings.settled_settled _).arrived surroundings field ?_, rfl, targets⟩
    intro c
    rw [targets]
    exact conditions c

/-- A body on its way to a place. -/
def Body.approaching : Body := (Body.start {}).setPosition ⟨1, 2, -1⟩ .smooth

/-- Surroundings that get warmer. -/
def Surroundings.warming : Surroundings :=
  (Surroundings.start {}).setCondition .temperature 30.0 .smooth

theorem advance_arrives_approaching :
    ((Body.approaching.advance 5000000000).2 = .stable ∧
      (Body.approaching.advance 5000000000).1.Arrived) ∧
      (Surroundings.warming.advance 5000000000).2 = .stable ∧
      (Surroundings.warming.advance 5000000000).1.Arrived := by
  have body : (Body.approaching.advance 5000000000).2 = .stable := by decide +kernel
  have surroundings : (Surroundings.warming.advance 5000000000).2 = .stable := by decide +kernel
  obtain ⟨came, -, warmed, -⟩ := @advance_arrives Body.approaching Surroundings.warming 5000000000
    (by decide +kernel) (by decide +kernel) (by decide +kernel) (by decide +kernel)
  exact ⟨⟨body, (came body).2.1⟩, surroundings, (warmed surroundings).1⟩

end Sensorium
