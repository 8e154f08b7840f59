import Sensorium.Device.Basic
import Sensorium.Proofs.Numeric.Functions

/-!
# Just after a target was set

At the moment at which a target is set no time has passed since. The closed forms of all
movements then come down to where the movement starts: every term that is to vanish is a
zero as long as all numbers are finite, and a zero is lost in a sum. A step therefore puts a
quantity level with its target.
-/

namespace Sensorium

/-! ## Components -/

section

variable {w : Float} {x y z : Single}

/-- A distance of nothing, however it is scaled, is lost in a sum. -/
theorem Single.level_add_narrow (finite : x.isFinite = true) {y : Float}
    (zero : IsZero (unpackDouble y)) : Level (x + narrow y).unpack x.unpack :=
  level_add_zero finite (isZero_narrow zero)

theorem Single.isZero_widen_sub_self (finite : x.isFinite = true) :
    IsZero (unpackDouble (x - x).widen) :=
  isZero_widen_iff.mpr (isZero_sub_self finite)

theorem Double.isZero_mul_one {y : Float} (zero : IsZero (unpackDouble y)) :
    IsZero (unpackDouble (y * 1)) :=
  isZero_mul zero isFinite_one

/-- What approaches the place where it is stays there, whatever share of the way is left. -/
theorem Single.level_approach {share : Float} (left : (unpackDouble share).isFinite = true)
    (finite : x.isFinite = true) :
    Level (x + narrow ((x - x).widen * share)).unpack x.unpack :=
  level_add_narrow finite (Double.isZero_mul (isZero_widen_sub_self finite) left)

/-- The same for a quantity that is kept in double precision on the way. -/
theorem Single.level_narrow_approach {d share : Float}
    (left : (unpackDouble share).isFinite = true) (finite : x.isFinite = true)
    (zero : IsZero (unpackDouble d)) : Level (narrow (x.widen + d * share)).unpack x.unpack := by
  apply level_narrow
  exact Double.level_add_zero (isFinite_widen finite) (Double.isZero_mul zero left)

theorem Single.isZero_widen_zero : IsZero (unpackDouble (0 : Single).widen) :=
  isZero_widen_iff.mpr ⟨.positive, rfl⟩

/-- A spring that is let go at rest at its end does not pull. -/
theorem Single.isZero_pull (rate : (unpackDouble w).isFinite = true) (finite : x.isFinite = true) :
    IsZero (unpackDouble ((0 : Single).widen + (x - x).widen * w)) := by
  apply Double.isZero_add isZero_widen_zero
  exact Double.isZero_mul (isZero_widen_sub_self finite) rate

/-- A component of a spring that is let go at rest at its end, after some time in which a share
    of the distance is left. -/
theorem Single.level_spring {time share : Float} (rate : (unpackDouble w).isFinite = true)
    (timely : (unpackDouble time).isFinite = true) (left : (unpackDouble share).isFinite = true)
    (finite : x.isFinite = true) :
    Level (x + narrow (((x - x).widen + ((0 : Single).widen + (x - x).widen * w) * time) *
      share)).unpack x.unpack := by
  have moved : IsZero (unpackDouble (((0 : Single).widen + (x - x).widen * w) * time)) :=
    Double.isZero_mul (isZero_pull rate finite) timely
  have offset := Double.isZero_add (isZero_widen_sub_self finite) moved
  exact level_add_narrow finite (Double.isZero_mul offset left)

/-- A component of the way that a body has gone in no time. -/
theorem Single.level_drive (rate : (unpackDouble w).isFinite = true)
    (nonzero : ¬ IsZero (unpackDouble w)) (finite : x.isFinite = true) (goal : z.isFinite = true)
    (change : (y - z).isFinite = true) :
    Level (x + narrow (z.widen * 0 + (y - z).widen * ((1 - 1) / w))).unpack x.unpack := by
  have straight : IsZero (unpackDouble (z.widen * 0)) :=
    Double.isZero_mul_right (isFinite_widen goal) Double.isZero_zero
  have done : IsZero (unpackDouble ((1 - 1) / w)) :=
    Double.isZero_div Double.isZero_one_sub_one rate nonzero
  have curved : IsZero (unpackDouble ((y - z).widen * ((1 - 1) / w))) :=
    Double.isZero_mul_right (isFinite_widen change) done
  exact level_add_narrow finite (Double.isZero_add straight curved)

end

/-! ## Movements -/

namespace Kinematics

variable {w : Float} {position velocity target : Vec3 Single}

theorem level_spring (rate : (unpackDouble w).isFinite = true) (finite : position.isFinite = true) :
    (spring w 0 position .zero position).position.Level position := by
  obtain ⟨x, y, z⟩ := Vec3.isFinite_iff.mp finite
  unfold spring
  rw [decay_zero rate]
  have zero := Double.isZero_zero.finite
  have one := Double.isFinite_one
  exact ⟨Single.level_spring rate zero one x, Single.level_spring rate zero one y,
    Single.level_spring rate zero one z⟩

theorem level_drive (rate : (unpackDouble w).isFinite = true) (nonzero : ¬ IsZero (unpackDouble w))
    (finite : position.isFinite = true) (goal : target.isFinite = true)
    (change : (velocity - target).isFinite = true) :
    (drive w 0 position velocity target).position.Level position := by
  obtain ⟨x, y, z⟩ := Vec3.isFinite_iff.mp finite
  obtain ⟨goalX, goalY, goalZ⟩ := Vec3.isFinite_iff.mp goal
  obtain ⟨changeX, changeY, changeZ⟩ := Vec3.isFinite_iff.mp change
  unfold drive
  rw [decay_zero rate]
  refine ⟨?_, ?_, ?_⟩
  · exact Single.level_drive rate nonzero x goalX changeX
  · exact Single.level_drive rate nonzero y goalY changeY
  · exact Single.level_drive rate nonzero z goalZ changeZ

/-- A body that has its target velocity keeps it. -/
theorem level_drive_velocity (rate : (unpackDouble w).isFinite = true)
    (finite : velocity.isFinite = true) :
    (drive w 0 position velocity velocity).velocity.Level velocity := by
  obtain ⟨x, y, z⟩ := Vec3.isFinite_iff.mp finite
  have one := Double.isFinite_one
  unfold drive
  rw [decay_zero rate]
  refine ⟨?_, ?_, ?_⟩
  · exact Single.level_narrow_approach one x (Single.isZero_widen_sub_self x)
  · exact Single.level_narrow_approach one y (Single.isZero_widen_sub_self y)
  · exact Single.level_narrow_approach one z (Single.isZero_widen_sub_self z)

end Kinematics

/-! ## Bodies -/

/-- Settings without a fault have only finite and positive rates and tolerances. -/
theorem Settings.positive_of_faultless {settings : Settings} (h : settings.fault? = none)
    {item : String × Single} (mem : item ∈ settings.positives) :
    item.2.isFinite = true ∧ Single.lt 0 item.2 = true := by
  unfold fault? at h
  split at h
  · cases h
  · rename_i sound
    have checked := List.find?_eq_none.mp sound item mem
    simpa using checked

namespace Body

variable {b : Body} {position velocity : Vec3 Single}

/-- The body put at rest in some place, and then given a velocity to keep. -/
def launched (b : Body) (position velocity : Vec3 Single) : Body :=
  (b.setPosition position .step).setVelocity velocity .step

theorem translation_setPosition_step (b : Body) (position : Vec3 Single) :
    (b.setPosition position .step).translation =
      .spring b.frequency 0 position .zero position := by
  unfold translation setPosition
  simp only [Motion.resting, Nanos.secondsSince_self]
  rfl

theorem translation_setVelocity_step (b : Body) (velocity : Vec3 Single) :
    (b.setVelocity velocity .step).translation =
      .drive b.frequency 0 b.translation.position velocity velocity := by
  rw [translation]
  simp only [setVelocity, Nanos.secondsSince_self]
  rfl

theorem translation_setVelocity_smooth (b : Body) (velocity : Vec3 Single) :
    (b.setVelocity velocity .smooth).translation =
      .drive b.frequency 0 b.translation.position b.translation.velocity velocity := by
  rw [translation]
  simp only [setVelocity, Nanos.secondsSince_self]
  rfl

/-- A body that is to have a velocity is to be nowhere else than where it is. -/
theorem positionAs_target_of_velocity (moving : ¬ (b.velocityAs .target).eqv .zero = true) :
    b.positionAs .target = b.positionAs .still := by
  cases aim : b.motion.aim with
  | velocity target => simp only [positionAs, aim]
  | position target =>
    exfalso
    apply moving
    simp only [velocityAs, aim]
    decide

section

variable (faultless : b.settings.fault? = none)
include faultless

theorem isFinite_frequency : (unpackDouble b.frequency).isFinite = true :=
  Single.isFinite_widen (Settings.positive_of_faultless faultless List.mem_cons_self).1

theorem not_isZero_frequency : ¬ IsZero (unpackDouble b.frequency) := by
  rw [frequency, Single.isZero_widen_iff]
  exact Single.not_isZero_of_pos (Settings.positive_of_faultless faultless List.mem_cons_self).2

/-- A launched body is where it was put. -/
theorem level_launched_position (here : position.isFinite = true)
    (fast : velocity.isFinite = true) :
    (b.launched position velocity).translation.position.Level position := by
  have rate := isFinite_frequency faultless
  have put : (b.setPosition position .step).translation.position.Level position := by
    rw [translation_setPosition_step]
    exact Kinematics.level_spring rate here
  rw [launched, translation_setVelocity_step]
  apply Vec3.Level.trans _ put
  exact Kinematics.level_drive rate (not_isZero_frequency faultless) (put.isFinite here) fast
    (Vec3.isFinite_sub_self fast)

/-- A launched body is as fast as it was to be. -/
theorem level_launched_velocity (fast : velocity.isFinite = true) :
    (b.launched position velocity).translation.velocity.Level velocity := by
  rw [launched, translation_setVelocity_step]
  exact Kinematics.level_drive_velocity (isFinite_frequency faultless) fast

/-- A launched body that is to have another velocity from now on is still where it was put. -/
theorem level_launched_later {speed : Vec3 Single} (here : position.isFinite = true)
    (fast : velocity.isFinite = true) (goal : speed.isFinite = true)
    (change : (velocity - speed).isFinite = true) :
    ((b.launched position velocity).setVelocity speed .smooth).translation.position.Level
      position := by
  have put := level_launched_position faultless here fast
  have moving : (b.launched position velocity).translation.velocity.Level velocity :=
    level_launched_velocity faultless fast
  rw [translation_setVelocity_smooth]
  apply Vec3.Level.trans _ put
  exact Kinematics.level_drive (isFinite_frequency faultless) (not_isZero_frequency faultless)
    (put.isFinite here) goal (moving.isFinite_sub change)

/-- A tremor that has been at its bound since some moment is there. -/
theorem level_tremorBound {since : Nanos} {bound : Single}
    (resting : b.tremor = .resting since bound) (finite : bound.isFinite = true) :
    Level b.tremorBound.unpack bound.unpack := by
  obtain ⟨rate, positive⟩ := Settings.positive_of_faultless faultless List.mem_cons_self
  have left := (within_decay rate positive since b.now).isFinite
  have offset : IsZero (unpackDouble (bound.widen - bound.widen)) :=
    Double.isZero_sub_self (Single.isFinite_widen finite)
  unfold tremorBound
  rw [resting]
  exact Single.level_narrow_approach left finite offset

end

end Body

/-! ## Surroundings -/

namespace Surroundings

section

variable (s : Surroundings) (c d : Condition) (value : Single) (approach : Approach)

@[simp] theorem now_setCondition : (s.setCondition c value approach).now = s.now := rfl

@[simp] theorem field_setCondition : (s.setCondition c value approach).field = s.field := rfl

theorem get_setCondition : (s.setCondition c value approach).conditions.get d =
    if d = c then .retarget s.now (s.scalarAt (s.conditions.get c)) value approach
    else s.conditions.get d :=
  Conditions.get_set ..

end

variable {s : Surroundings} (faultless : s.settings.fault? = none)
include faultless

theorem isFinite_remaining (since : Nanos) :
    (unpackDouble (s.remaining since)).isFinite = true := by
  obtain ⟨finite, positive⟩ := Settings.positive_of_faultless faultless
    (List.mem_cons_of_mem _ List.mem_cons_self)
  exact (within_decay finite positive since s.now).isFinite

/-- A condition that has been at its target since some moment is there. -/
theorem level_scalarAt {since : Nanos} {value : Single} (finite : value.isFinite = true) :
    Level (s.scalarAt (.resting since value)).unpack value.unpack :=
  Single.level_approach (isFinite_remaining faultless since) finite

theorem level_vectorAt {since : Nanos} {value : Vec3 Single} (finite : value.isFinite = true) :
    (s.vectorAt (.resting since value)).Level value := by
  obtain ⟨x, y, z⟩ := Vec3.isFinite_iff.mp finite
  have left := isFinite_remaining faultless since
  exact ⟨Single.level_approach left x, Single.level_approach left y, Single.level_approach left z⟩

end Surroundings

end Sensorium
