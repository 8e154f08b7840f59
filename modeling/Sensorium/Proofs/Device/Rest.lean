import Sensorium.Device.Basic
import Sensorium.Proofs.Numeric.Finite

/-!
# Devices at rest

A body or surroundings that have come to rest are put exactly onto their targets. Such a
device is `Settled`: every track starts now and starts at its target. Nothing of it
depends on the time any more, so a later moment at which it is still at rest finds every
sensor measuring the same. `AtRest` says only that nothing is in motion, and does not
mention the moment at which the tracks start.
-/

namespace Sensorium

/-! ## Bodies -/

/-- Without a bound there is no tremor. -/
theorem Kinematics.tremble_resting {w : Float} (h : (unpackDouble w).isFinite = true)
    (frequencies : Vec3 Single) (now : Nanos) : tremble frequencies w 0 now 0 0 = zero := by
  have still : ((0 : Single).widen + ((0 : Single).widen - (0 : Single).widen) * 1 == 0 &&
      ((0 : Single).widen - (0 : Single).widen) * (1 : Float) == 0) = true := by
    decide
  unfold tremble
  rw [decay_zero h]
  exact if_pos still

namespace Body

/-- Everything starts now and from its target, and nothing trembles. -/
def Settled (b : Body) : Prop := b.settled = b

theorem settled_start (settings : Settings) : (start settings).Settled := rfl

theorem settled_settled (b : Body) : b.settled.Settled := rfl

theorem advance_of_stable {b : Body} {now : Nanos} (h : (b.advance now).2 = .stable) :
    b.advance now = ({ b with now }.settled, .stable) := by
  simp only [advance] at h ⊢
  split at h
  · rename_i rest
    exact if_pos rest
  · cases h

/-- What an advance has found at rest is settled. -/
theorem settled_of_stable {b rested : Body} {now : Nanos}
    (h : b.advance now = (rested, .stable)) : rested.Settled := by
  rw [advance_of_stable (congrArg Prod.snd h)] at h
  cases h
  exact settled_settled _

section

variable {b : Body} (h : b.Settled)
include h

theorem Settled.aim : b.motion.aim = .position b.motion.position := by
  unfold Settled at h
  rw [← h]
  rfl

theorem Settled.motion : b.motion = .resting b.now b.motion.position := by
  have settled : b.settled.motion = b.motion := by rw [h]
  rw [← settled]
  simp only [Body.settled, positionAs, h.aim, Motion.resting]

theorem Settled.turn : b.turn = .resting b.now b.turn.target := by
  unfold Settled at h
  rw [← h]
  rfl

theorem Settled.tremor : b.tremor = .resting b.now 0 := by
  unfold Settled at h
  rw [← h]
  rfl

/-- A settled body that is settled again later has only other starting moments. -/
theorem Settled.later (now : Nanos) :
    { b with now }.settled =
      { b with
        now
        motion := .resting now b.motion.position
        turn := .resting now b.turn.target
        tremor := .resting now 0 } := by
  simp only [Body.settled, positionAs, h.aim, Track.arrived]

theorem Settled.rotation_later (now : Nanos) : { b with now }.settled.rotation = b.rotation := by
  rw [h.later now]
  unfold rotation turnAhead turnProgress
  rw [h.turn]
  simp only [Track.resting, Nanos.secondsSince_self, frequency]

theorem Settled.angularVelocity_later (now : Nanos) :
    { b with now }.settled.angularVelocity = b.angularVelocity := by
  rw [h.later now]
  unfold angularVelocity turnAhead
  rw [h.turn]
  simp only [Track.resting, Nanos.secondsSince_self, frequency]

theorem Settled.translation_later (now : Nanos) :
    { b with now }.settled.translation = b.translation := by
  rw [h.later now]
  unfold translation
  rw [h.motion]
  simp only [Motion.resting, Nanos.secondsSince_self, frequency]

/-- A settled body does not tremble. -/
theorem Settled.tremble (finite : b.settings.inertialFrequency.isFinite = true) :
    b.tremble = .zero := by
  unfold Body.tremble
  rw [h.tremor]
  simp only [Track.resting, Nanos.secondsSince_self]
  exact Kinematics.tremble_resting (Single.isFinite_widen finite) _ _

end

end Body

/-! ## Surroundings -/

namespace Surroundings

/-- Everything starts now and from its target. -/
def Settled (s : Surroundings) : Prop := s.settled = s

theorem settled_start (settings : Settings) : (start settings).Settled := rfl

theorem settled_settled (s : Surroundings) : s.settled.Settled := rfl

/-- Surroundings that are settled keep their targets. -/
theorem target_settled (s : Surroundings) (c : Condition) :
    (s.settled.conditions.get c).target = (s.conditions.get c).target := by
  rw [settled, Conditions.get_map]
  rfl

theorem advance_of_stable {s : Surroundings} {now : Nanos} (h : (s.advance now).2 = .stable) :
    s.advance now = ({ s with now }.settled, .stable) := by
  simp only [advance] at h ⊢
  split at h
  · rename_i rest
    exact if_pos rest
  · cases h

/-- What an advance has found at rest is settled. -/
theorem settled_of_stable {s rested : Surroundings} {now : Nanos}
    (h : s.advance now = (rested, .stable)) : rested.Settled := by
  rw [advance_of_stable (congrArg Prod.snd h)] at h
  cases h
  exact settled_settled _

section

variable {s : Surroundings} (h : s.Settled)
include h

theorem Settled.field : s.field = .resting s.now s.field.target := by
  unfold Settled at h
  rw [← h]
  rfl

theorem Settled.condition (c : Condition) :
    s.conditions.get c = .resting s.now (s.conditions.get c).target := by
  unfold Settled at h
  rw [← h]
  cases c <;> rfl

theorem Settled.fieldAs_later (now : Nanos) :
    { s with now }.settled.fieldAs .current = s.fieldAs .current := by
  unfold fieldAs vectorAt remaining
  rw [h.field]
  simp only [settled, Track.arrived, Track.resting, Nanos.secondsSince_self]

theorem Settled.conditionAs_later (now : Nanos) (c : Condition) :
    { s with now }.settled.conditionAs c .current = s.conditionAs c .current := by
  unfold conditionAs scalarAt remaining
  rw [h.condition c]
  simp only [settled, Conditions.get_map, Track.arrived, Track.resting,
    Nanos.secondsSince_self]

end

end Surroundings

/-! ## Devices -/

namespace Device

/-- Everything of the device starts now and from its target. -/
structure Settled (d : Device) : Prop where
  body : d.body.Settled
  surroundings : d.surroundings.Settled

/-- Nothing of the device is in motion: the body stands still where it is to be, turned as
    it is to be, without tremor, and the surroundings are as they are to be. -/
structure AtRest (d : Device) : Prop where
  aim : d.body.motion.aim = .position d.body.motion.position
  velocity : d.body.motion.velocity = .zero
  turn : d.body.turn.start = d.body.turn.target
  tremor : d.body.tremor.start = 0 ∧ d.body.tremor.target = 0
  field : d.surroundings.field.start = d.surroundings.field.target
  conditions : ∀ c,
    (d.surroundings.conditions.get c).start = (d.surroundings.conditions.get c).target

theorem Settled.atRest {d : Device} (h : d.Settled) : d.AtRest where
  aim := h.body.aim
  velocity := by rw [h.body.motion]; rfl
  turn := by rw [h.body.turn]; rfl
  tremor := by rw [h.body.tremor]; exact ⟨rfl, rfl⟩
  field := by rw [h.surroundings.field]; rfl
  conditions c := by rw [h.surroundings.condition c]; rfl

theorem AtRest.congr {d e : Device} (h : d.AtRest) (body : e.body = d.body)
    (surroundings : e.surroundings = d.surroundings) : e.AtRest := by
  obtain ⟨aim, velocity, turn, tremor, field, conditions⟩ := h
  rw [← body] at aim velocity turn tremor
  rw [← surroundings] at field conditions
  exact ⟨aim, velocity, turn, tremor, field, conditions⟩

theorem settled_start (settings : Settings) : (start settings).Settled :=
  ⟨Body.settled_start settings, Surroundings.settled_start settings⟩

/-- Settings without a fault let the body be pulled at a finite rate. -/
theorem finite_of_start? {settings : Settings} {d : Device} (h : start? settings = .ok d) :
    d = start settings ∧ d.body.settings.inertialFrequency.isFinite = true := by
  unfold start? at h
  split at h
  · cases h
  · rename_i faultless
    cases h
    refine ⟨rfl, ?_⟩
    unfold Settings.fault? at faultless
    split at faultless
    · cases faultless
    · rename_i sound
      have checked := List.find?_eq_none.mp sound _ (List.mem_cons_self ..)
      simp only [Bool.not_eq_true, Bool.not_eq_false', Bool.and_eq_true] at checked
      exact checked.1

/-- What a sensor measures depends on the body and its surroundings only. -/
theorem measured_congr {d e : Device} (body : e.body = d.body)
    (surroundings : e.surroundings = d.surroundings) (sensor : Sensor) :
    e.measured sensor = d.measured sensor := by
  unfold measured
  rw [body, surroundings]

/-- Settling again at another moment changes no measurement. -/
theorem Settled.measured_later {d e : Device} {now : Nanos} (h : d.Settled)
    (finite : d.body.settings.inertialFrequency.isFinite = true)
    (body : e.body = { d.body with now }.settled)
    (surroundings : e.surroundings = { d.surroundings with now }.settled) (sensor : Sensor) :
    e.measured sensor = d.measured sensor := by
  have rotation : e.body.rotation = d.body.rotation := by
    rw [body, h.body.rotation_later]
  have angularVelocity : e.body.angularVelocity = d.body.angularVelocity := by
    rw [body, h.body.angularVelocity_later]
  have acceleration : e.body.acceleration = d.body.acceleration := by
    have calm : ({ d.body with now }.settled).tremble = .zero :=
      Body.Settled.tremble (Body.settled_settled _) finite
    unfold Body.acceleration
    rw [body, h.body.translation_later, calm, h.body.tremble finite]
  have field : e.surroundings.fieldAs .current = d.surroundings.fieldAs .current := by
    rw [surroundings, h.surroundings.fieldAs_later]
  have gravity : e.surroundings.gravity = d.surroundings.gravity := by
    rw [surroundings]
    rfl
  cases sensor with
  | condition c =>
    simp only [measured]
    rw [surroundings, h.surroundings.conditionAs_later]
  | _ =>
    simp only [measured, Body.rotationAs, rotation, angularVelocity, acceleration, field,
      gravity]

/-! ## What changes a device -/

/-- A new target changes nothing of a device but its body or its surroundings. -/
theorem retarget_eq (d : Device) (p : Parameter) (value : Value) (approach : Approach) :
    d.retarget p value approach =
      { d with
        body := (d.retarget p value approach).body
        surroundings := (d.retarget p value approach).surroundings } := by
  cases p <;> rfl

theorem settings_retarget (d : Device) (p : Parameter) (value : Value) (approach : Approach) :
    (d.retarget p value approach).body.settings = d.body.settings := by
  cases p with
  | position => cases approach <;> rfl
  | _ => rfl

theorem settings_advance (b : Body) (now : Nanos) :
    (b.advance now).1.settings = b.settings := by
  simp only [Body.advance]
  split <;> rfl

/-- Advancing is ignored when the moment is past; otherwise it leaves everything settled
    and the mark cleared, or something on its way and the mark set. -/
theorem advance_cases (d : Device) (now : Nanos) :
    now < d.time ∧ d.advance now = (d, none) ∨
    ¬ now < d.time ∧
      (d.advance now =
        ({ d with
            body := { d.body with now }.settled
            surroundings := { d.surroundings with now }.settled
            board := if d.changing then d.board.countAll else d.board
            changing := false
            time := now }, if d.changing then some .stabilized else none) ∨
      ∃ body surroundings, body.settings = d.body.settings ∧
        d.advance now = ({ d with body, surroundings, changing := true, time := now },
          if d.changing then none else some .changing)) := by
  by_cases past : now < d.time
  · exact .inl ⟨past, by rw [advance, if_pos past]⟩
  · refine .inr ⟨past, ?_⟩
    rw [advance, if_neg past]
    by_cases stable : (d.body.advance now).2 = .stable ∧ (d.surroundings.advance now).2 = .stable
    · left
      obtain ⟨body, surroundings⟩ := stable
      rw [Body.advance_of_stable body, Surroundings.advance_of_stable surroundings]
      cases d.changing <;> rfl
    · refine .inr ⟨(d.body.advance now).1, (d.surroundings.advance now).1,
        settings_advance d.body now, ?_⟩
      simp only [if_neg stable, markChanging]
      cases d.changing <;> rfl

theorem markChanging_eq (d : Device) :
    d.markChanging = ({ d with changing := true }, if d.changing then none else some .changing) := by
  unfold markChanging
  cases h : d.changing with
  | false => rfl
  | true =>
    simp only [if_true]
    rw [← h]

/-- Neither a new target nor time changes who listens to a device. -/
theorem listeners_retarget (d : Device) (p : Parameter) (value : Value) (approach : Approach) :
    (d.retarget p value approach).observer = d.observer ∧
      (d.retarget p value approach).sink = d.sink := by
  rw [retarget_eq]
  exact ⟨rfl, rfl⟩

theorem listeners_advance (d : Device) (now : Nanos) :
    (d.advance now).1.observer = d.observer ∧ (d.advance now).1.sink = d.sink := by
  rcases d.advance_cases now with ⟨-, same⟩ | ⟨-, stable | ⟨body, surroundings, -, moving⟩⟩
  · rw [same]
    exact ⟨rfl, rfl⟩
  · rw [stable]
    exact ⟨rfl, rfl⟩
  · rw [moving]
    exact ⟨rfl, rfl⟩

end Device

end Sensorium
