import Sensorium.Proofs.Device.Rest
import Sensorium.Proofs.Geometry.Turns
import Sensorium.Proofs.Motion.Placed

/-!
# At rest on target

A body that starts at rest at its target position stays there however much time has passed, and so
does a tremor without a bound: every term of the closed forms that is to vanish is a zero times a
finite number. What is left of a turn that has just begun is all of it, so a body that has just
been put onto its target rotation has it.
-/

namespace Sensorium

open Float.Model (UnpackedFloat)
open Float.Model.UnpackedFloat

/-! ## Components -/

section

variable {w phase share slope : Float} {x : Single}

/-- A component of the velocity of a spring that is let go at rest at its end. -/
theorem Single.isZero_spring_velocity (rate : (unpackDouble w).isFinite = true)
    (timely : (unpackDouble phase).isFinite = true)
    (left : (unpackDouble share).isFinite = true) (finite : x.isFinite = true) :
    IsZero (narrow (((0 : Single).widen - ((0 : Single).widen + (x - x).widen * w) * phase) *
      share)).unpack := by
  apply isZero_narrow
  apply Double.isZero_mul _ left
  apply Double.isZero_sub isZero_widen_zero
  exact Double.isZero_mul (isZero_pull rate finite) timely

/-- A component of its acceleration. -/
theorem Single.isZero_spring_acceleration (rate : (unpackDouble w).isFinite = true)
    (timely : (unpackDouble phase).isFinite = true)
    (steep : (unpackDouble slope).isFinite = true) (finite : x.isFinite = true) :
    IsZero (narrow ((((0 : Single).widen + (x - x).widen * w) * phase -
      ((0 : Single).widen + (x - x).widen * w) - (0 : Single).widen) * slope)).unpack := by
  have pull := isZero_pull rate finite
  apply isZero_narrow
  apply Double.isZero_mul _ steep
  apply Double.isZero_sub _ isZero_widen_zero
  exact Double.isZero_sub (Double.isZero_mul pull timely) pull

end

namespace Kinematics

/-- Everything that a spring is computed from, but for the places, is finite. -/
structure Timely (w t : Float) : Prop where
  rate : (unpackDouble w).isFinite = true
  time : (unpackDouble t).isFinite = true
  phase : (unpackDouble (w * t)).isFinite = true
  share : (unpackDouble (decay w t)).isFinite = true
  slope : (unpackDouble (w * decay w t)).isFinite = true

/-- A positive rate and the time since some moment are small enough for that. -/
theorem timely_of_rate {rate : Single} (finite : rate.isFinite = true)
    (positive : Single.lt 0 rate = true) (start now : Nanos) :
    Timely rate.widen (Nanos.secondsSince start now) := by
  have size := Single.within_widen finite
  have late := (Nanos.secondsSince_bounds start now).1
  have share := within_decay finite positive start now
  exact {
    rate := size.isFinite
    time := late.isFinite
    phase := (Double.within_mul size late (by decide) (by decide)).isFinite
    share := share.isFinite
    slope := (Double.within_mul size share (by decide) (by decide)).isFinite }

variable {w t : Float} {position : Vec3 Single}

/-- A spring that was let go at rest at its end is there, and at rest. -/
theorem spring_resting (timely : Timely w t) (finite : position.isFinite = true) :
    (spring w t position .zero position).position.Level position ∧
      (spring w t position .zero position).velocity.IsZero ∧
      (spring w t position .zero position).acceleration.IsZero := by
  obtain ⟨rate, time, phase, share, slope⟩ := timely
  obtain ⟨x, y, z⟩ := Vec3.isFinite_iff.mp finite
  refine ⟨⟨?_, ?_, ?_⟩, ⟨?_, ?_, ?_⟩, ⟨?_, ?_, ?_⟩⟩
  · exact Single.level_spring rate time share x
  · exact Single.level_spring rate time share y
  · exact Single.level_spring rate time share z
  · exact Single.isZero_spring_velocity rate phase share x
  · exact Single.isZero_spring_velocity rate phase share y
  · exact Single.isZero_spring_velocity rate phase share z
  · exact Single.isZero_spring_acceleration rate phase slope x
  · exact Single.isZero_spring_acceleration rate phase slope y
  · exact Single.isZero_spring_acceleration rate phase slope z

end Kinematics

/-! ## Bodies -/

namespace Body

variable {b : Body} {since : Nanos}

section

variable (faultless : b.settings.fault? = none)
include faultless

/-- The settings have a finite and positive frequency and such tolerances. -/
theorem timely_frequency (start now : Nanos) :
    Kinematics.Timely b.frequency (Nanos.secondsSince start now) := by
  obtain ⟨finite, positive⟩ := Settings.positive_of_faultless faultless List.mem_cons_self
  exact Kinematics.timely_of_rate finite positive start now

/-- A body that was put at rest somewhere is there, and at rest. -/
theorem translation_resting {position : Vec3 Single} (motion : b.motion = .resting since position)
    (finite : position.isFinite = true) :
    b.translation.position.Level position ∧ b.translation.velocity.IsZero ∧
      b.translation.acceleration.IsZero := by
  unfold translation
  rw [motion]
  exact Kinematics.spring_resting (timely_frequency faultless since b.now) finite

/-- A tremor that was ended has no bound. -/
theorem tremorBound_resting (tremor : b.tremor = .resting since 0) :
    IsZero b.tremorBound.unpack :=
  (level_tremorBound faultless tremor (by decide)).isZero ⟨.positive, rfl⟩

/-- Of a turn that begins now, nothing is done. -/
theorem isZero_turnProgress (begins : b.turn.since = b.now) :
    IsZero (unpackDouble b.turnProgress) := by
  have rate := (timely_frequency faultless b.now b.now).rate
  have none : IsZero (unpackDouble (b.frequency * 0)) :=
    Double.isZero_mul_right rate Double.isZero_zero
  simp only [turnProgress, begins, Nanos.secondsSince_self, decay_zero rate]
  exact Double.isZero_one_sub none

/-- A turn that begins now has not got up any speed. -/
theorem isZero_turnRate :
    IsZero (unpackDouble (b.frequency * b.frequency * 0 * decay b.frequency 0)) := by
  have finite := (Settings.positive_of_faultless faultless List.mem_cons_self).1
  have rate : Within 128 (unpackDouble b.frequency) := Single.within_widen finite
  have square := Double.within_mul rate rate (by decide) (by decide)
  rw [decay_zero rate.isFinite]
  exact Double.isZero_mul_one (Double.isZero_mul_right square.isFinite Double.isZero_zero)

/-- A body that has just been put onto its target rotation has it, and does not turn. -/
theorem turn_arrived (turn : b.turn = .resting b.now b.turn.target)
    (small : b.turn.target.Within 2) :
    b.rotation.Level b.turn.target ∧ b.angularVelocity.IsZero := by
  have begins : b.turn.since = b.now := by rw [turn]; rfl
  have onTarget : b.turn.start = b.turn.target := by rw [turn]; rfl
  have ahead : b.turnAhead.Within 11 := by
    unfold turnAhead
    rw [onTarget]
    exact Rotation.within_mul small small.inverse (by decide) (by decide)
  have rate := (timely_frequency faultless b.now b.now).rate
  unfold rotation angularVelocity
  cases moves : b.turnAhead.axisAngle with
  | none =>
    rw [onTarget]
    exact ⟨.refl _, Vec3.isZero_zero⟩
  | some pair =>
    obtain ⟨axis, angle⟩ := pair
    obtain ⟨straight, finite⟩ := Rotation.isFinite_axisAngle (ahead.mono (by decide)) moves
    have wide := Single.isFinite_widen finite
    refine ⟨?_, ?_⟩
    · rw [onTarget]
      apply Rotation.level_ofAxisAngle_mul straight _ small
      apply Single.isZero_narrow
      exact Double.isZero_mul_right wide (isZero_turnProgress faultless begins)
    · apply Vec3.isZero_mul straight
      apply Single.isZero_narrow
      rw [begins, Nanos.secondsSince_self]
      exact Double.isZero_mul_right wide (isZero_turnRate faultless)

end

end Body

end Sensorium
