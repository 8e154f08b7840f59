import Sensorium.Proofs.Motion.Arrived
import Sensorium.Proofs.Numeric.Extremes

/-!
# Long and short steps

The forms of motion are closed, so a body that is looked at on its way is later where it would have
been anyhow. One that is found at rest is not: it is put onto its targets and everything begins
anew. It is in the same place later, as fast and turned the same way exactly if it would not have
moved on by itself.
-/

namespace Sensorium

/-! ## Springs -/

/-- A spring that is let go at its end is somewhere only if its end is. -/
theorem Single.isFinite_of_spring {w t share : Float} {x y v : Single}
    (h : (x + narrow (((x - x).widen + (v.widen + (x - x).widen * w) * t) * share)).eqv y = true) :
    x.isFinite = true := by
  by_contra infinite
  rw [Bool.not_eq_true, isFinite_eq] at infinite
  apply ne_notANumber_of_eqv h
  have none : (x - x).unpack = .notANumber := by
    rw [unpack_sub, sub_self_notANumber infinite]
    exact unpack_pack_notANumber _
  apply add_notANumber
  apply narrow_notANumber
  apply Double.mul_notANumber
  exact Double.add_notANumber (widen_notANumber none)

/-! ## Bodies -/

namespace Body

/-- The two bodies are numerically in the same place, as fast, turned the same way and given to the
    same tremor. -/
def sameStill (a b : Body) : Bool :=
  (a.positionAs .still).eqv (b.positionAs .still) &&
    (a.velocityAs .still).eqv (b.velocityAs .still) &&
    (a.rotationAs .still).eqv (b.rotationAs .still) &&
    (a.tremorAs .still).eqv (b.tremorAs .still)

/-- The body was put at rest in a place at some moment, without tremor. -/
structure Parked (b : Body) (place : Vec3 Single) : Prop where
  motion : ∃ since, b.motion = .resting since place
  tremor : ∃ since, b.tremor = .resting since 0

variable {a b : Body} {place : Vec3 Single} {first : Nanos}

theorem parked_settled (b : Body) : b.settled.Parked (b.positionAs .target) :=
  ⟨⟨b.now, rfl⟩, ⟨b.now, rfl⟩⟩

/-- A settled body stays where it is, whether it counts as at rest later or not. -/
theorem parked_advance_settled (b : Body) (now : Nanos) :
    (b.settled.advance now).1.Parked (b.positionAs .target) := by
  cases activity : (b.settled.advance now).2 with
  | changing =>
    rw [advance_of_changing activity]
    exact ⟨⟨b.now, rfl⟩, ⟨b.now, rfl⟩⟩
  | stable =>
    rw [advance_of_stable activity, (settled_settled b).later now]
    exact ⟨⟨now, rfl⟩, ⟨now, rfl⟩⟩

section

variable (parked : b.Parked place) (faultless : b.settings.fault? = none)
include parked faultless

theorem Parked.values (finite : place.isFinite = true) :
    (b.positionAs .still).Level place ∧ (b.velocityAs .still).IsZero := by
  obtain ⟨since, motion⟩ := parked.motion
  obtain ⟨there, standing, -⟩ := translation_resting faultless motion finite
  exact ⟨there, standing⟩

theorem Parked.isZero_tremor : IsZero (b.tremorAs .still).unpack := by
  obtain ⟨since, tremor⟩ := parked.tremor
  exact tremorBound_resting faultless tremor

omit faultless in
/-- A body is somewhere only if it was put somewhere. -/
theorem Parked.isFinite_place {v : Vec3 Single} (h : (b.positionAs .still).eqv v = true) :
    place.isFinite = true := by
  obtain ⟨since, motion⟩ := parked.motion
  simp only [positionAs, translation, motion, Motion.resting, Kinematics.spring, Vec3.eqv,
    Bool.and_eq_true] at h
  obtain ⟨⟨x, y⟩, z⟩ := h
  exact Vec3.isFinite_iff.mpr ⟨Single.isFinite_of_spring x, Single.isFinite_of_spring y,
    Single.isFinite_of_spring z⟩

end

section

variable (faultless : b.settings.fault? = none)
include faultless

theorem faultless_settled : b.settled.settings.fault? = none := faultless

theorem values_settled (finite : (b.positionAs .target).isFinite = true) :
    (b.settled.positionAs .still).Level (b.positionAs .target) ∧
      (b.settled.velocityAs .still).IsZero :=
  b.parked_settled.values (faultless_settled faultless) finite

theorem isZero_tremor_settled : IsZero (b.settled.tremorAs .still).unpack :=
  b.parked_settled.isZero_tremor (faultless_settled faultless)

/-- A settled body has its target rotation. -/
theorem level_rotation_settled (moderate : b.turn.target.moderate = true) :
    (b.settled.rotationAs .still).Level b.turn.target :=
  (turn_arrived (faultless_settled faultless) (settled_settled b).turn
    (Rotation.within_of_moderate moderate)).1

end

/-- How the body is turned at the second moment if it is put onto its target rotation at the first.
    Undone by its inverse, a rotation may leave something over for rounding, and that is then taken
    for a turn still to be made. -/
def turnedOn (b : Body) (first second : Nanos) : Rotation :=
  let w := b.frequency
  let t := Nanos.secondsSince first second
  let share := 1 - (1 + w * t) * decay w t
  match (b.turn.target * b.turn.target.inverse).axisAngle with
  | some (axis, angle) => .ofAxisAngle axis (Single.narrow (angle.widen * share)) * b.turn.target
  | none => b.turn.target

theorem rotationAs_settled (b : Body) (first second : Nanos) :
    { { b with now := first }.settled with now := second }.rotationAs .still =
      b.turnedOn first second :=
  rfl

/-- What the body is put onto at the first moment is also what it would have come to by itself at
    the second. -/
structure Unmoved (b : Body) (first second : Nanos) : Prop where
  finite : ({ b with now := first }.positionAs .target).isFinite = true
  /-- A body that is pulled to a position has one place to be put onto. One that is to stand still
      is put where it is, and it may still be rolling out. -/
  place : ({ b with now := second }.positionAs .target).eqv
    ({ b with now := first }.positionAs .target) = true
  /-- A body that does not count as at rest at the second moment is numerically so. -/
  moving : (b.advance second).2 = .changing →
    ({ b with now := second }.positionAs .still).eqv ({ b with now := second }.positionAs .target) =
        true ∧
      ({ b with now := second }.velocityAs .still).eqv .zero = true ∧
      ({ b with now := second }.tremorAs .still).eqv 0 = true
  turned : ((b.advance first).1.advance second).2 = .stable → (b.advance second).2 = .changing →
    ({ b with now := second }.rotationAs .still).eqv b.turn.target = true
  /-- A body that counts as turning on from its target gets no farther than the other. -/
  turning : ((b.advance first).1.advance second).2 = .changing →
    ((b.advance second).2 = .changing →
        (b.turnedOn first second).eqv ({ b with now := second }.rotationAs .still) = true) ∧
      ((b.advance second).2 = .stable → (b.turnedOn first second).eqv b.turn.target = true)

/-- The place to be put onto is given, or it is where the body is. -/
theorem positionAs_target_cases (b : Body) (first second : Nanos) :
    { b with now := second }.positionAs .target = { b with now := first }.positionAs .target ∨
      { b with now := second }.positionAs .target = { b with now := second }.positionAs .still := by
  cases aim : b.motion.aim with
  | position target => exact .inl (by simp only [positionAs, aim])
  | velocity target => exact .inr (by simp only [positionAs, aim])

/-- Where a body that was put into a place agrees with one that was not. -/
theorem Parked.position_iff (parked : a.Parked ({ b with now := first }.positionAs .target))
    (faultless : a.settings.fault? = none) (usable : b.settings.fault? = none) (second : Nanos) :
    (a.positionAs .still).eqv ((b.advance second).1.positionAs .still) = true ↔
      ({ b with now := first }.positionAs .target).isFinite = true ∧
        ({ b with now := second }.positionAs .target).eqv
          ({ b with now := first }.positionAs .target) = true ∧
        ((b.advance second).2 = .changing → ({ b with now := second }.positionAs .still).eqv
          ({ b with now := second }.positionAs .target) = true) := by
  have goals := b.positionAs_target_cases first second
  have values := @values_settled { b with now := second } usable
  have put := { b with now := second }.parked_settled
  generalize { b with now := first }.positionAs .target = goal at *
  cases activity : (b.advance second).2 with
  | changing =>
    rw [advance_of_changing activity]
    generalize { b with now := second } = later at *
    constructor
    · intro same
      have finite := parked.isFinite_place same
      have here := (Vec3.level_of_eqv same).symm.trans (parked.values faultless finite).1
      rcases goals with given | rolling
      · rw [given]
        exact ⟨finite, (Vec3.Level.refl _).eqv finite, fun _ => here.eqv finite⟩
      · rw [rolling]
        exact ⟨finite, here.eqv finite, fun _ => (Vec3.Level.refl _).eqv (here.isFinite finite)⟩
    · rintro ⟨finite, same, moving⟩
      have here := (Vec3.level_of_eqv (moving rfl)).trans (Vec3.level_of_eqv same)
      exact ((parked.values faultless finite).1.trans here.symm).eqv (here.isFinite finite)
  | stable =>
    rw [advance_of_stable activity]
    generalize { b with now := second } = later at *
    constructor
    · intro same
      have finite := parked.isFinite_place same
      have here := (Vec3.level_of_eqv same).symm.trans (parked.values faultless finite).1
      have placed := put.isFinite_place ((Vec3.Level.refl _).eqv (here.isFinite finite))
      exact ⟨finite, ((values placed).1.symm.trans here).eqv finite, nofun⟩
    · rintro ⟨finite, same, -⟩
      have goal := Vec3.level_of_eqv same
      have here := (values (goal.isFinite finite)).1.trans goal
      exact ((parked.values faultless finite).1.trans here.symm).eqv (here.isFinite finite)

/-- When it is as fast as that one. -/
theorem Parked.velocity_iff (parked : a.Parked place) (faultless : a.settings.fault? = none)
    (usable : b.settings.fault? = none) (finite : place.isFinite = true)
    {second : Nanos} (later : ({ b with now := second }.positionAs .target).isFinite = true) :
    (a.velocityAs .still).eqv ((b.advance second).1.velocityAs .still) = true ↔
      ((b.advance second).2 = .changing →
        ({ b with now := second }.velocityAs .still).eqv .zero = true) := by
  have standing := (parked.values faultless finite).2.level
  have values := @values_settled { b with now := second } usable later
  cases activity : (b.advance second).2 with
  | changing =>
    rw [advance_of_changing activity]
    constructor
    · intro same _
      exact ((Vec3.level_of_eqv same).symm.trans standing).eqv Vec3.isZero_zero.isFinite
    · intro moving
      have halted := Vec3.isZero_of_eqv (moving rfl)
      exact (standing.trans halted.level.symm).eqv halted.isFinite
  | stable =>
    rw [advance_of_stable activity]
    have same := (standing.trans values.2.level.symm).eqv values.2.isFinite
    exact ⟨fun _ => nofun, fun _ => same⟩

/-- When it trembles as much. -/
theorem Parked.tremor_iff (parked : a.Parked place) (faultless : a.settings.fault? = none)
    (usable : b.settings.fault? = none) (second : Nanos) :
    (a.tremorAs .still).eqv ((b.advance second).1.tremorAs .still) = true ↔
      ((b.advance second).2 = .changing →
        ({ b with now := second }.tremorAs .still).eqv 0 = true) := by
  have calm := parked.isZero_tremor faultless
  have ended := @isZero_tremor_settled { b with now := second } usable
  have finite {x : Single} (zero : IsZero x.unpack) : x.isFinite = true := by
    rw [Single.isFinite_eq]
    exact zero.finite
  cases activity : (b.advance second).2 with
  | changing =>
    rw [advance_of_changing activity]
    constructor
    · intro same _
      exact Single.eqv_zero ((Single.level_of_eqv same).symm.isZero calm)
    · intro moving
      have none := Single.isZero_of_eqv (moving rfl)
      exact Single.eqv_of_level (.inr ⟨calm, none⟩) (finite none)
  | stable =>
    rw [advance_of_stable activity]
    have same := Single.eqv_of_level (.inr ⟨calm, ended⟩) (finite ended)
    exact ⟨fun _ => nofun, fun _ => same⟩

/-- When two bodies with one target rotation are turned the same way. -/
theorem rotation_iff (usable : b.settings.fault? = none) (faultless : a.settings.fault? = none)
    (moderate : b.turn.target.moderate = true) (target : a.turn.target = b.turn.target)
    (second : Nanos) :
    ((a.advance second).1.rotationAs .still).eqv ((b.advance second).1.rotationAs .still) = true ↔
      ((a.advance second).2 = .stable → (b.advance second).2 = .changing →
          ({ b with now := second }.rotationAs .still).eqv b.turn.target = true) ∧
        ((a.advance second).2 = .changing →
          ((b.advance second).2 = .changing → ({ a with now := second }.rotationAs .still).eqv
              ({ b with now := second }.rotationAs .still) = true) ∧
            ((b.advance second).2 = .stable →
              ({ a with now := second }.rotationAs .still).eqv b.turn.target = true)) := by
  have small := Rotation.within_of_moderate moderate
  cases rested : (a.advance second).2 with
  | changing =>
    rw [advance_of_changing rested]
    cases activity : (b.advance second).2 with
    | changing =>
      rw [advance_of_changing activity]
      exact ⟨fun same => ⟨nofun, fun _ => ⟨fun _ => same, nofun⟩⟩, fun same => (same.2 rfl).1 rfl⟩
    | stable =>
      have put := @level_rotation_settled { b with now := second } usable moderate
      rw [advance_of_stable activity]
      constructor
      · intro same
        have turned := (Rotation.level_of_eqv same).trans put
        exact ⟨nofun, fun _ => ⟨nofun, fun _ => turned.eqv small⟩⟩
      · intro same
        have turned := Rotation.level_of_eqv ((same.2 rfl).2 rfl)
        exact (turned.trans put.symm).eqv (put.within small)
  | stable =>
    have put := @level_rotation_settled { a with now := second } faultless
      (show a.turn.target.moderate = true by rw [target, moderate])
    change Rotation.Level _ a.turn.target at put
    rw [target] at put
    rw [advance_of_stable rested]
    cases activity : (b.advance second).2 with
    | changing =>
      rw [advance_of_changing activity]
      constructor
      · intro same
        have turned := (Rotation.level_of_eqv same).symm.trans put
        exact ⟨fun _ _ => turned.eqv small, nofun⟩
      · intro same
        have turned := Rotation.level_of_eqv (same.1 rfl rfl)
        exact (put.trans turned.symm).eqv (turned.within small)
    | stable =>
      rw [advance_of_stable activity]
      have there := @level_rotation_settled { b with now := second } usable moderate
      have same := (put.trans there.symm).eqv (there.within small)
      exact ⟨fun _ => ⟨fun _ => nofun, nofun⟩, fun _ => same⟩

/-- A body that is looked at on its way is later as if it had not been. One that is put onto its
    targets is numerically the same later exactly if it would not have moved on by itself. -/
theorem advance_advance (faultless : b.settings.fault? = none)
    (moderate : b.turn.target.moderate = true) (first second : Nanos) :
    ((b.advance first).2 = .changing →
        (b.advance first).1.advance second = b.advance second) ∧
      ((b.advance first).2 = .stable →
        (sameStill ((b.advance first).1.advance second).1 (b.advance second).1 = true ↔
          b.Unmoved first second)) := by
  refine ⟨?_, ?_⟩
  · intro moving
    rw [advance_of_changing moving]
    rfl
  · intro stable
    have parked := { b with now := first }.parked_advance_settled second
    have usable : ({ b with now := first }.settled.advance second).1.settings.fault? = none := by
      rw [Device.settings_advance]
      exact faultless
    have target : { b with now := first }.settled.turn.target = b.turn.target := rfl
    have sound : { b with now := first }.settled.settings.fault? = none := faultless
    have turns := b.rotationAs_settled first second
    have put := advance_of_stable stable
    rw [put]
    generalize { b with now := first }.settled = rested at *
    have position := parked.position_iff usable faultless second
    have tremor := parked.tremor_iff usable faultless second
    have rotation := rotation_iff faultless sound moderate target second
    rw [turns] at rotation
    simp only [sameStill, Bool.and_eq_true, position, tremor, rotation]
    constructor
    · rintro ⟨⟨⟨⟨finite, place, there⟩, speed⟩, turned, turning⟩, calm⟩
      have later := (Vec3.level_of_eqv place).isFinite finite
      rw [parked.velocity_iff usable faultless finite later] at speed
      refine ⟨finite, place, fun moving => ⟨there moving, speed moving, calm moving⟩, ?_, ?_⟩
      · rw [put]
        exact turned
      · rw [put]
        exact turning
    · rintro ⟨finite, place, moving, turned, turning⟩
      have later := (Vec3.level_of_eqv place).isFinite finite
      rw [parked.velocity_iff usable faultless finite later]
      rw [put] at turned turning
      exact ⟨⟨⟨⟨finite, place, fun h => (moving h).1⟩, fun h => (moving h).2.1⟩, turned, turning⟩,
        fun h => (moving h).2.2⟩

/-- A body that is found at rest on its way to a place, and again later. -/
theorem advance_advance_approaching :
    (approaching.advance 5000000000).2 = .stable ∧
      sameStill ((approaching.advance 5000000000).1.advance 6000000000).1
        (approaching.advance 6000000000).1 = true := by
  have stable : (approaching.advance 5000000000).2 = .stable := by decide +kernel
  have later : (approaching.advance 6000000000).2 = .stable := by decide +kernel
  have again : ((approaching.advance 5000000000).1.advance 6000000000).2 = .stable := by
    decide +kernel
  obtain ⟨-, same⟩ := @advance_advance approaching (by decide +kernel) (by decide +kernel)
    5000000000 6000000000
  refine ⟨stable, (same stable).mpr ⟨by decide +kernel, by decide +kernel, ?_, ?_, ?_⟩⟩
  · rw [later]
    exact nofun
  · rw [later]
    exact fun _ => nofun
  · rw [again]
    exact nofun

/-- A body that was fast and is to stand still. -/
def braking : Body := ((Body.start {}).setVelocity ⟨1, 0, 0⟩ .step).setVelocity .zero .smooth

/-- A body that brakes is put where it is once it is slow enough, and does not roll out. -/
theorem braking_stops_short :
    braking.settings.fault? = none ∧ braking.turn.target.moderate = true ∧ braking.now = 0 ∧
      (braking.advance 1000000000).2 = .stable ∧
      sameStill ((braking.advance 1000000000).1.advance 2000000000).1
        (braking.advance 2000000000).1 = false := by
  refine ⟨?_, ?_, ?_, ?_, ?_⟩ <;> decide +kernel

end Body

end Sensorium
