import Sensorium.Proofs.Geometry.Axes
import Sensorium.Proofs.Motion.Arrived

/-!
# Setting targets in mid-motion

A new target starts a new form of motion from the numbers that the old one has come to. Evaluated
at once, the new form gives back what is not meant to change: a target velocity does not move the
body, a target position that is approached smoothly does not change its velocity, and a target
rotation that is approached smoothly does not turn it.
-/

namespace Sensorium

/-! ## Components -/

/-- A component of the velocity of a spring that has just been let go. -/
theorem Single.level_spring_velocity {w : Float} {x y v : Single}
    (rate : Within 128 (unpackDouble w)) (finite : v.isFinite = true)
    (gap : (x - y).isFinite = true) :
    Level (narrow ((v.widen - (v.widen + (x - y).widen * w) * (w * 0)) * 1)).unpack v.unpack := by
  have speed := within_widen finite
  have pull := Double.within_mul (within_widen gap) rate (by decide) (by decide)
  have start := Double.within_add (speed.mono (by decide)) pull (by decide) (by decide)
  have none : IsZero (unpackDouble (w * 0)) :=
    Double.isZero_mul_right rate.isFinite Double.isZero_zero
  have gone := Double.isZero_mul_right start.isFinite none
  have kept := Double.level_sub_zero speed.isFinite gone
  apply level_narrow
  refine (Double.level_mul_one ?_).trans kept
  rw [kept.isFinite]
  exact speed.isFinite

/-! ## Bodies -/

namespace Body

variable {b : Body} {target : Rotation}

theorem translation_setPosition_smooth (b : Body) (position : Vec3 Single) :
    (b.setPosition position .smooth).translation =
      .spring b.frequency 0 b.translation.position b.translation.velocity position := by
  rw [translation]
  simp only [setPosition, Nanos.secondsSince_self]
  rfl

section

variable (faultless : b.settings.fault? = none)
include faultless

/-- A body that is to have another velocity is where it was. -/
theorem level_position_setVelocity {velocity : Vec3 Single}
    (place : (b.positionAs .still).isFinite = true)
    (change : (b.velocityAs .still - velocity).isFinite = true) (approach : Approach) :
    ((b.setVelocity velocity approach).positionAs .still).Level (b.positionAs .still) := by
  have rate := isFinite_frequency faultless
  have nonzero := not_isZero_frequency faultless
  have goal := (Vec3.isFinite_of_sub change).2
  cases approach with
  | step =>
    rw [positionAs, translation_setVelocity_step]
    exact Kinematics.level_drive rate nonzero place goal (Vec3.isFinite_sub_self goal)
  | smooth =>
    rw [positionAs, translation_setVelocity_smooth]
    exact Kinematics.level_drive rate nonzero place goal change

/-- A body that is to come to another place goes on as fast as it was. -/
theorem level_velocity_setPosition {position : Vec3 Single}
    (speed : (b.velocityAs .still).isFinite = true)
    (gap : (b.positionAs .still - position).isFinite = true) :
    ((b.setPosition position .smooth).velocityAs .still).Level (b.velocityAs .still) := by
  have rate : Within 128 (unpackDouble b.frequency) :=
    Single.within_widen (Settings.positive_of_faultless faultless List.mem_cons_self).1
  obtain ⟨x, y, z⟩ := Vec3.isFinite_iff.mp speed
  obtain ⟨gapX, gapY, gapZ⟩ := Vec3.isFinite_iff.mp gap
  rw [velocityAs, translation_setPosition_smooth, Kinematics.spring, decay_zero rate.isFinite]
  exact ⟨Single.level_spring_velocity rate x gapX, Single.level_spring_velocity rate y gapY,
    Single.level_spring_velocity rate z gapZ⟩

/-- A body that is to be turned another way is turned as it was. -/
theorem level_rotation_setRotation (here : b.rotation.Within 19) (goal : target.Within 2) :
    ((b.setRotation target .smooth).rotationAs .still).Level b.rotation := by
  have ahead : (target * b.rotation.inverse).Within 28 :=
    Rotation.within_mul goal here.inverse (by decide) (by decide)
  have progress := @isZero_turnProgress (b.setRotation target .smooth) faultless rfl
  have turned : (b.setRotation target .smooth).turnAhead = target * b.rotation.inverse := rfl
  have begun : (b.setRotation target .smooth).turn.start = b.rotation := rfl
  change (b.setRotation target .smooth).rotation.Level b.rotation
  rw [rotation, turned, begun]
  cases moves : (target * b.rotation.inverse).axisAngle with
  | none => exact .refl _
  | some pair =>
    obtain ⟨axis, angle⟩ := pair
    obtain ⟨straight, finite⟩ := Rotation.isFinite_axisAngle (ahead.mono (by decide)) moves
    apply Rotation.level_ofAxisAngle_mul straight _ here
    apply Single.isZero_narrow
    exact Double.isZero_mul_right (Single.isFinite_widen finite) progress

end

/-- A body that turns between two moderate rotations has one itself. -/
theorem within_rotation (finite : b.rotation.isFinite = true) (start : b.turn.start.Within 2)
    (goal : b.turn.target.Within 2) : b.rotation.Within 19 := by
  have ahead : b.turnAhead.Within 11 :=
    Rotation.within_mul goal start.inverse (by decide) (by decide)
  rw [rotation] at finite ⊢
  cases moves : b.turnAhead.axisAngle with
  | none => exact start.mono (by decide)
  | some pair =>
    obtain ⟨axis, angle⟩ := pair
    rw [moves] at finite
    exact Rotation.within_turned (Rotation.within_axis (ahead.mono (by decide)) moves) start finite

/-- A body whose numbers are finite, and whose rotation is moderate or on its way between two
    moderate ones. -/
structure Regular (b : Body) : Prop where
  place : (b.positionAs .still).isFinite = true
  speed : (b.velocityAs .still).isFinite = true
  turned : (b.rotationAs .still).isFinite = true
  moderate : (b.rotationAs .still).moderate = true ∨
    b.turn.start.moderate = true ∧ b.turn.target.moderate = true

theorem Regular.within_rotation (regular : b.Regular) : b.rotation.Within 19 := by
  rcases regular.moderate with here | ⟨start, goal⟩
  · exact (Rotation.within_of_moderate here).mono (by decide)
  · exact Body.within_rotation regular.turned (Rotation.within_of_moderate start)
      (Rotation.within_of_moderate goal)

/-- Setting a target velocity leaves the body where it is, and makes that its target position.
    Setting a target position leaves it as fast as it is if it is approached smoothly, and stops it
    otherwise. Setting a target rotation that is approached smoothly leaves it turned as it is. -/
theorem handover (faultless : b.settings.fault? = none) (regular : b.Regular) :
    (∀ velocity approach, (b.velocityAs .still - velocity).isFinite = true →
        ((b.setVelocity velocity approach).positionAs .still).eqv (b.positionAs .still) = true ∧
          ((b.setVelocity velocity approach).positionAs .target).eqv (b.positionAs .still) =
            true) ∧
      (∀ position, (b.positionAs .still - position).isFinite = true →
        ((b.setPosition position .smooth).velocityAs .still).eqv (b.velocityAs .still) = true ∧
          ((b.setPosition position .step).velocityAs .still).eqv .zero = true) ∧
      ∀ target : Rotation, target.moderate = true →
        ((b.setRotation target .smooth).rotationAs .still).eqv (b.rotationAs .still) = true := by
  refine ⟨?_, ?_, ?_⟩
  · intro velocity approach change
    have kept := level_position_setVelocity faultless regular.place change approach
    have same := kept.eqv regular.place
    exact ⟨same, same⟩
  · intro position gap
    have kept := level_velocity_setPosition faultless regular.speed gap
    have goal := (Vec3.isFinite_of_sub gap).2
    have standing := (@translation_resting (b.setPosition position .step) b.now faultless position
      rfl goal).2.1
    exact ⟨kept.eqv regular.speed, standing.eqv⟩
  · intro target moderate
    have here := regular.within_rotation
    have kept := level_rotation_setRotation faultless here (Rotation.within_of_moderate moderate)
    exact kept.eqv here

/-- A body in the middle of its way to a place, half turned over. -/
def midway : Body :=
  ((approaching.setRotation ⟨0, 1, 0, 0⟩ .smooth).advance 100000000).1

theorem handover_midway :
    midway.velocityAs .still ≠ .zero ∧ midway.rotation ≠ .identity ∧
      ((midway.setVelocity ⟨0, 1, 0⟩ .smooth).positionAs .target).eqv (midway.positionAs .still) =
        true ∧
      ((midway.setPosition ⟨0, 0, 2⟩ .smooth).velocityAs .still).eqv (midway.velocityAs .still) =
        true ∧
      ((midway.setRotation ⟨0, 0, 1, 0⟩ .smooth).rotationAs .still).eqv
        (midway.rotationAs .still) = true := by
  have regular : midway.Regular := ⟨by decide +kernel, by decide +kernel, by decide +kernel,
    .inl (by decide +kernel)⟩
  obtain ⟨moves, pulls, turns⟩ := @handover midway (by decide +kernel) regular
  refine ⟨by decide +kernel, by decide +kernel, (moves _ .smooth ?_).2, (pulls _ ?_).1,
    turns _ ?_⟩ <;> decide +kernel

end Body

end Sensorium
