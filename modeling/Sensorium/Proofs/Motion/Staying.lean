import Sensorium.Proofs.Motion.Resting

/-!
# Staying at rest

Whether a body or surroundings are at rest is tested at the new moment, before they are put onto
their targets again. Those that are settled pass the test at every moment: all distances, speeds
and angles are zeros, and every tolerance is positive, however small the settings make it and
whatever becomes of it when it is scaled.
-/

namespace Sensorium

open Float.Model (UnpackedFloat)
open Float.Model.UnpackedFloat

/-! ## Bodies -/

namespace Body

variable {b : Body}

/-- A settled body is as it was at every aspect when it is settled again later. -/
theorem Settled.positionAs_later (settled : b.Settled)
    (finite : b.settings.inertialFrequency.isFinite = true) (now : Nanos) (aspect : Aspect) :
    { b with now }.settled.positionAs aspect = b.positionAs aspect := by
  have calm : b.tremble = .zero := settled.tremble finite
  have later : { b with now }.settled.tremble = .zero := (settled_settled _).tremble finite
  cases aspect with
  | current => simp only [positionAs, settled.translation_later, calm, later]
  | still => simp only [positionAs, settled.translation_later]
  | target => simp only [positionAs, settled.later, settled.aim, Motion.resting]

theorem Settled.velocityAs_later (settled : b.Settled)
    (finite : b.settings.inertialFrequency.isFinite = true) (now : Nanos) (aspect : Aspect) :
    { b with now }.settled.velocityAs aspect = b.velocityAs aspect := by
  have calm : b.tremble = .zero := settled.tremble finite
  have later : { b with now }.settled.tremble = .zero := (settled_settled _).tremble finite
  cases aspect with
  | current => simp only [velocityAs, settled.translation_later, calm, later]
  | still => simp only [velocityAs, settled.translation_later]
  | target => simp only [velocityAs, settled.later, settled.aim, Motion.resting]

theorem Settled.rotationAs_later (settled : b.Settled) (now : Nanos) (aspect : Aspect) :
    { b with now }.settled.rotationAs aspect = b.rotationAs aspect := by
  cases aspect with
  | current | still => exact settled.rotation_later now
  | target => rfl

theorem Settled.tremorAs_later (settled : b.Settled) (now : Nanos) (aspect : Aspect) :
    { b with now }.settled.tremorAs aspect = b.tremorAs aspect := by
  have bound : { b with now }.settled.tremorBound = b.tremorBound := by
    rw [settled.later]
    unfold tremorBound
    rw [settled.tremor]
    simp only [Track.resting, Nanos.secondsSince_self, frequency]
  cases aspect with
  | current | still => exact bound
  | target =>
    simp only [tremorAs, settled.later]
    rw [settled.tremor]
    rfl

/-- The tolerances of a body are positive. -/
theorem positive_epsilons (faultless : b.settings.fault? = none) :
    Positive b.settings.positionEpsilon.unpack ∧ Positive b.settings.velocityEpsilon.unpack ∧
      Positive b.settings.rotationEpsilon.unpack := by
  have positive (name : String) (x : Single) (mem : (name, x) ∈ b.settings.positives) :
      Positive x.unpack :=
    Single.positive_of_lt (Settings.positive_of_faultless faultless mem).2
  exact ⟨positive "position_epsilon" _ (by simp [Settings.positives]),
    positive "velocity_epsilon" _ (by simp [Settings.positives]),
    positive "rotation_epsilon" _ (by simp [Settings.positives])⟩

section

variable (settled : b.Settled) (faultless : b.settings.fault? = none) (now : Nanos)
include settled faultless

theorem Settled.translationAtRest_later (finite : b.motion.position.isFinite = true) :
    { b with now }.translationAtRest = true := by
  obtain ⟨near, slow, -⟩ := positive_epsilons faultless
  obtain ⟨place, speed, -⟩ := @translation_resting { b with now } b.now faultless
    b.motion.position settled.motion finite
  simp only [translationAtRest, settled.aim, Bool.and_eq_true]
  exact ⟨(place.isZero_sub finite).norm_lt near, speed.norm_lt slow⟩

/-- A body whose target rotation leaves nothing to turn does not turn. -/
theorem Settled.turnAtRest_later
    (still : (b.turn.target * b.turn.target.inverse).imaginary.IsZero) :
    { b with now }.turnAtRest = true := by
  obtain ⟨-, -, little⟩ := positive_epsilons faultless
  have onTarget : b.turn.start = b.turn.target := by rw [settled.turn]; rfl
  have ahead : { b with now }.turnAhead.axisAngle = none := by
    simp only [turnAhead, onTarget]
    exact Rotation.axisAngle_of_isZero still
  have there : { b with now }.rotation = b.turn.target := by
    rw [rotation, ahead]
    exact onTarget
  have halt : { b with now }.angularVelocity = .zero := by
    rw [angularVelocity, ahead]
  have angle : IsZero (b.turn.target.angleTo b.turn.target).unpack :=
    Rotation.isZero_angle still (Rotation.quotient_self_number still.isFinite)
  simp only [turnAtRest, there, halt, Bool.and_eq_true]
  exact ⟨Single.lt_of_isZero angle little, Vec3.isZero_zero.norm_lt little⟩

theorem Settled.tremorAtRest_later : { b with now }.tremorAtRest = true := by
  obtain ⟨near, -, -⟩ := positive_epsilons faultless
  have bound := @tremorBound_resting { b with now } b.now faultless settled.tremor
  have ended : b.tremor.target = 0 := by rw [settled.tremor]; rfl
  simp only [tremorAtRest, ended, Bool.and_eq_true]
  exact ⟨Single.eqv_zero ⟨.positive, rfl⟩, Single.lt_of_isZero (Single.isZero_abs bound) near⟩

/-- A settled body with finite numbers counts as at rest at every moment. -/
theorem Settled.atRest_later (finite : b.motion.position.isFinite = true)
    (still : (b.turn.target * b.turn.target.inverse).imaginary.IsZero) :
    { b with now }.atRest = true := by
  simp only [atRest, settled.translationAtRest_later faultless now finite,
    settled.turnAtRest_later faultless now still, settled.tremorAtRest_later faultless now,
    Bool.and_self]

end

end Body

/-! ## Surroundings -/

namespace Surroundings

variable {s : Surroundings}

theorem Settled.fieldAs_at (settled : s.Settled) (now : Nanos) (aspect : Aspect) :
    { s with now }.settled.fieldAs aspect = s.fieldAs aspect := by
  cases aspect with
  | current | still => exact settled.fieldAs_later now
  | target => rfl

theorem Settled.conditionAs_at (settled : s.Settled) (now : Nanos) (c : Condition)
    (aspect : Aspect) : { s with now }.settled.conditionAs c aspect = s.conditionAs c aspect := by
  cases aspect with
  | current | still => exact settled.conditionAs_later now c
  | target => cases c <;> rfl

/-- The tolerance for a target that is not negative in size is positive. -/
theorem positive_tolerance (faultless : s.settings.fault? = none) {size : Single}
    (side : OnSide .positive size.unpack) : Positive (s.tolerance size).unpack := by
  have listed : ("ambient_epsilon", s.settings.ambientEpsilon) ∈ s.settings.positives := by
    simp [Settings.positives]
  obtain ⟨finite, above⟩ := Settings.positive_of_faultless faultless listed
  exact Single.positive_mul_max_one (Single.positive_of_lt above) finite side

/-- What is level with a finite target counts as at rest. -/
theorem scalarAtRest_of_level (faultless : s.settings.fault? = none) {track : Track Single}
    (there : Level (s.scalarAt track).unpack track.target.unpack)
    (finite : track.target.isFinite = true) : s.scalarAtRest track = true := by
  have gap := Single.isZero_abs (Single.isZero_sub_of_level there finite)
  exact Single.lt_of_isZero gap (positive_tolerance faultless (Single.onSide_abs finite))

theorem fieldAtRest_of_level (faultless : s.settings.fault? = none)
    (there : (s.vectorAt s.field).Level s.field.target) (finite : s.field.target.isFinite = true) :
    s.fieldAtRest = true := by
  have length := Single.onSide_sqrt (Vec3.onSide_normSquared finite)
  exact (there.isZero_sub finite).norm_lt (positive_tolerance faultless length)

section

variable (settled : s.Settled) (faultless : s.settings.fault? = none) (now : Nanos)
include settled faultless

theorem Settled.scalarAtRest_later {c : Condition}
    (finite : (s.conditions.get c).target.isFinite = true) :
    { s with now }.scalarAtRest (s.conditions.get c) = true := by
  have there : Level ({ s with now }.scalarAt (s.conditions.get c)).unpack
      (s.conditions.get c).target.unpack := by
    rw [settled.condition c]
    exact @level_scalarAt { s with now } faultless s.now _ finite
  exact @scalarAtRest_of_level { s with now } faultless _ there finite

theorem Settled.fieldAtRest_later (finite : s.field.target.isFinite = true) :
    { s with now }.fieldAtRest = true := by
  have there : ({ s with now }.vectorAt s.field).Level s.field.target := by
    rw [settled.field]
    exact @level_vectorAt { s with now } faultless s.now _ finite
  exact @fieldAtRest_of_level { s with now } faultless there finite

/-- Settled surroundings with finite numbers count as at rest at every moment. -/
theorem Settled.atRest_later (field : s.field.target.isFinite = true)
    (conditions : ∀ c, (s.conditions.get c).target.isFinite = true) :
    { s with now }.atRest = true := by
  simp only [atRest, settled.fieldAtRest_later faultless now field, Bool.and_true]
  apply List.all_eq_true.mpr
  intro c _
  exact settled.scalarAtRest_later faultless now (conditions c)

end

end Surroundings

end Sensorium
