import Sensorium.Proofs.Session.Loading

/-!
# What a new target changes

A new target is read back as it was given, and a parameter that is put in place is there. It
clears all overrides and sets the mark. Every parameter that shares no motion with it is where
it was and is to be where it was to be, and no measurement is counted.
-/

namespace Sensorium

namespace Device

/-- One device is the other with a target that was set. The target of the rotation is read back
    from a quaternion, and so only up to rounding; it is the quaternion that is as it was given. -/
structure Retargeted (d e : Device) (p : Parameter) (value : Value) (approach : Approach) :
    Prop where
  target : p ≠ .rotation → e.value p .target = value
  turn : p = .rotation → ∃ angles, value = .vector angles ∧ e.body.turn.target = .ofEuler angles
  placed : approach = .step → value.isFinite = true → p ≠ .rotation →
    (e.value p .still).eqv value = true
  overrides : ∀ sensor, e.board.override? sensor = none
  changing : e.changing = true
  others : ∀ q : Parameter, q.group ≠ p.group → ∀ aspect, aspect ≠ .current →
    e.value q aspect = d.value q aspect
  measurements : ∀ sensor, e.board.measurement sensor = d.board.measurement sensor
  time : e.time = d.time
  bodySettings : e.body.settings = d.body.settings
  ambientSettings : e.surroundings.settings = d.surroundings.settings

variable {d : Device} {p : Parameter} {value : Value} {approach : Approach}

/-- A target that was set is read back. -/
theorem target_make (kind : value.kind = p.kind) (angles : p ≠ .rotation) :
    (d.make (.target p value approach)).value p .target = value := by
  cases p with
  | rotation => exact (angles rfl).elim
  | position | magneticField =>
    rw [Value.eq_vector kind]
    cases approach <;> rfl
  | velocity =>
    rw [Value.eq_vector kind]
    rfl
  | condition c =>
    rw [Value.eq_scalar kind]
    change Value.scalar ((d.surroundings.setCondition c _ approach).conditions.get c).target = _
    rw [Surroundings.get_setCondition, if_pos rfl]
    cases approach <;> rfl
  | ambientMotion =>
    rw [Value.eq_scalar kind]
    cases approach <;> rfl

theorem turn_make (d : Device) (value : Value) (approach : Approach) :
    (d.make (.target .rotation value approach)).body.turn.target = .ofEuler value.toVector := by
  cases approach <;> rfl

/-- A parameter that was put in place is there. -/
theorem level_make_step (sound : d.Sound) (kind : value.kind = p.kind)
    (finite : value.isFinite = true) (angles : p ≠ .rotation) :
    ((d.make (.target p value .step)).value p .still).Level value := by
  have made : (d.make (.target p value .step)).Sound := sound.make trivial
  cases p with
  | rotation => exact (angles rfl).elim
  | position =>
    rw [Value.eq_vector kind] at finite ⊢
    change (d.body.setPosition _ .step).translation.position.Level _
    rw [Body.translation_setPosition_step]
    exact Kinematics.level_spring (Body.isFinite_frequency sound.body) finite
  | velocity =>
    rw [Value.eq_vector kind] at finite ⊢
    change (d.body.setVelocity _ .step).translation.velocity.Level _
    rw [Body.translation_setVelocity_step]
    exact Kinematics.level_drive_velocity (Body.isFinite_frequency sound.body) finite
  | magneticField =>
    rw [Value.eq_vector kind] at finite ⊢
    exact Surroundings.level_vectorAt made.surroundings finite
  | condition c =>
    rw [Value.eq_scalar kind] at finite ⊢
    change Level ((d.surroundings.setCondition c _ .step).scalarAt
      ((d.surroundings.setCondition c _ .step).conditions.get c)).unpack _
    rw [Surroundings.get_setCondition, if_pos rfl]
    exact Surroundings.level_scalarAt made.surroundings finite
  | ambientMotion =>
    rw [Value.eq_scalar kind] at finite ⊢
    exact Body.level_tremorBound made.body rfl finite

theorem measurement_make_target (d : Device) (p : Parameter) (value : Value) (approach : Approach)
    (sensor : Sensor) :
    (d.make (.target p value approach)).board.measurement sensor = d.board.measurement sensor := by
  rw [make, retarget_eq, clearOverrides, Board.measurement, Board.gauge_clear]
  rfl

theorem retargeted_make (sound : d.Sound) (kind : value.kind = p.kind) (approach : Approach) :
    d.Retargeted (d.make (.target p value approach)) p value approach where
  target := target_make kind
  turn := by
    rintro rfl
    exact ⟨value.toVector, Value.eq_vector kind, d.turn_make value approach⟩
  placed := by
    rintro rfl finite angles
    exact (level_make_step sound kind finite angles).eqv finite
  overrides := d.override?_make_target p value approach
  changing := d.changing_make _
  others q apart aspect steady := by
    have other : (Change.target p value approach).group ≠ some q.group :=
      fun same => apart (Option.some.inj same).symm
    exact (d.contemporary_make _).value_eq (d.agree_make_of_apart other) steady
  measurements := d.measurement_make_target p value approach
  time := d.time_make _
  bodySettings := (d.contemporary_make _).body
  ambientSettings := (d.contemporary_make _).surroundings

end Device

namespace Session

variable {s : Session}

/-- When nobody who listens makes calls, setting a target of a session that can be reached
    retargets its device to what the place of the parameter keeps of the value, and does nothing
    else to it. -/
theorem Reachable.retargeted (reachable : s.Reachable) (passive : s.Passive) (p : Parameter)
    (value : Value) (approach : Approach) :
    ∃ target, p.kind.Keeps value target ∧
      s.device.Retargeted (s.respond (.setTarget p value approach)).1.device p target approach := by
  have device : (s.respond (.setTarget p value approach)).1.device =
      s.device.make (.target p (value.conform p.kind) approach) :=
    congrArg Session.device (run_ask_setTarget passive p value approach)
  refine ⟨value.conform p.kind, p.kind.keeps_conform value, ?_⟩
  rw [device]
  exact Device.retargeted_make reachable.sound.device (value.kind_conform p.kind) approach

/-- A drifting body is put in a place that is given as a vector, and in the origin where a number
    is given for one. -/
theorem retargeted_drifting :
    drifting.Reachable ∧ drifting.Passive ∧
      drifting.device.Retargeted
        (drifting.respond (.setTarget .position (.vector ⟨1, 2, 0⟩) .step)).1.device .position
        (.vector ⟨1, 2, 0⟩) .step ∧
      drifting.device.Retargeted
        (drifting.respond (.setTarget .position (.scalar 2) .step)).1.device .position
        (.vector ⟨0, 0, 0⟩) .step := by
  have passive : drifting.Passive := passive_unused.respondAll (by simp [Call.plain])
  refine ⟨reachable_drifting, passive, ?_, ?_⟩
  · obtain ⟨target, kept, retargeted⟩ :=
      Reachable.retargeted reachable_drifting passive .position (.vector ⟨1, 2, 0⟩) .step
    cases kept
    exact retargeted
  · obtain ⟨target, kept, retargeted⟩ :=
      Reachable.retargeted reachable_drifting passive .position (.scalar 2) .step
    cases kept
    exact retargeted

end Session

end Sensorium
