import Sensorium.Proofs.Motion.Arrived
import Sensorium.Proofs.Motion.Staying
import Sensorium.Proofs.Session.Passive

/-!
# Rest is absorbing

A device that is not changing, and whose body and surroundings were found at rest by the last
advance, is found at rest by every later one: nothing that it reports changes any more, and nobody
is told anything. This needs finite numbers and a target rotation that is undone by its inverse
without a remainder.
-/

namespace Sensorium

/-! ## Devices -/

namespace Device

/-- The device is not changing, and the last advance has found its body and its surroundings at
    rest. -/
structure Rested (d : Device) : Prop where
  changing : d.changing = false
  body : ∃ (before : Body) (now : Nanos), before.advance now = (d.body, .stable)
  surroundings : ∃ (before : Surroundings) (now : Nanos),
    before.advance now = (d.surroundings, .stable)

/-- The position and all values of the surroundings are finite, and the target rotation followed
    by its inverse turns nothing. -/
structure Regular (d : Device) : Prop where
  position : (d.body.positionAs .current).isFinite = true
  field : (d.surroundings.fieldAs .current).isFinite = true
  condition : ∀ c, (d.surroundings.conditionAs c .current).isFinite = true
  rotation : (d.body.turn.target * d.body.turn.target.inverse).imaginary.eqv .zero = true

/-- Everything that a device reports is the same. -/
structure SameReports (d e : Device) : Prop where
  values : ∀ p aspect, e.value p aspect = d.value p aspect
  readings : ∀ sensor, (e.read sensor).2 = (d.read sensor).2

/-- Settings without a fault, everything settled at finite targets, and nothing to turn. -/
structure Staying (d : Device) : Prop where
  body : d.body.settings.fault? = none
  surroundings : d.surroundings.settings.fault? = none
  settled : d.Settled
  changing : d.changing = false
  position : d.body.motion.position.isFinite = true
  field : d.surroundings.field.target.isFinite = true
  conditions : ∀ c, (d.surroundings.conditions.get c).target.isFinite = true
  still : (d.body.turn.target * d.body.turn.target.inverse).imaginary.IsZero

variable {d e : Device}

theorem SameReports.refl (d : Device) : d.SameReports d := ⟨fun _ _ => rfl, fun _ => rfl⟩

theorem SameReports.trans {f : Device} (first : d.SameReports e) (second : e.SameReports f) :
    d.SameReports f :=
  ⟨fun p aspect => (second.values p aspect).trans (first.values p aspect),
    fun sensor => (second.readings sensor).trans (first.readings sensor)⟩

theorem Rested.settled (h : d.Rested) : d.Settled := by
  obtain ⟨_, _, body⟩ := h.body
  obtain ⟨_, _, surroundings⟩ := h.surroundings
  exact ⟨Body.settled_of_stable body, Surroundings.settled_of_stable surroundings⟩

/-- What has been put onto its targets reports finite values only if those are finite. -/
theorem Rested.staying (h : d.Rested) (regular : d.Regular)
    (body : d.body.settings.fault? = none) (surroundings : d.surroundings.settings.fault? = none) :
    d.Staying := by
  have place := (Vec3.isFinite_of_add regular.position).1
  simp only [Body.translation, h.settled.body.aim, Kinematics.spring] at place
  exact {
    body, surroundings
    settled := h.settled
    changing := h.changing
    position := (Vec3.isFinite_of_add place).1
    field := (Vec3.isFinite_of_add regular.field).1
    conditions := fun c => (Single.isFinite_of_add (regular.condition c)).1
    still := Vec3.isZero_of_eqv regular.rotation }

section

variable (h : d.Staying) (now : Nanos)
include h

theorem Staying.stable :
    (d.body.advance now).2 = .stable ∧ (d.surroundings.advance now).2 = .stable := by
  have body := h.settled.body.atRest_later h.body now h.position h.still
  have surroundings := h.settled.surroundings.atRest_later h.surroundings now h.field h.conditions
  simp only [Body.advance, body, Surroundings.advance, surroundings, if_true, and_self]

/-- Advancing changes only the moments, and no notice is due. -/
theorem Staying.advance_cases :
    d.advance now = (d, none) ∨
      d.advance now =
        ({ d with
            body := { d.body with now }.settled
            surroundings := { d.surroundings with now }.settled
            time := now }, none) := by
  obtain ⟨body, surroundings⟩ := h.stable now
  by_cases past : now < d.time
  · exact .inl (if_pos past)
  · right
    rw [advance, if_neg past, Body.advance_of_stable body,
      Surroundings.advance_of_stable surroundings]
    simp only [h.changing, and_self, if_true]
    rfl

/-- A device that stays at rest still does so after an advance, and reports the same. -/
theorem Staying.advance :
    (d.advance now).1.Staying ∧ d.SameReports (d.advance now).1 ∧ (d.advance now).2 = none := by
  have rate := (Settings.positive_of_faultless h.body List.mem_cons_self).1
  have settledBody := h.settled.body
  have settledSurroundings := h.settled.surroundings
  rcases h.advance_cases now with same | later
  · rw [same]
    exact ⟨h, .refl d, rfl⟩
  · rw [later]
    refine ⟨?_, ⟨?_, ?_⟩, rfl⟩
    · exact {
        body := h.body
        surroundings := h.surroundings
        settled := ⟨Body.settled_settled _, Surroundings.settled_settled _⟩
        changing := h.changing
        position := by
          rw [settledBody.later]
          exact h.position
        field := h.field
        conditions := fun c => by
          rw [Surroundings.target_settled]
          exact h.conditions c
        still := h.still }
    · intro p aspect
      cases p with
      | position => exact congrArg Value.vector (settledBody.positionAs_later rate now aspect)
      | velocity => exact congrArg Value.vector (settledBody.velocityAs_later rate now aspect)
      | rotation =>
        exact congrArg (fun q : Rotation => Value.vector q.toEuler)
          (settledBody.rotationAs_later now aspect)
      | magneticField => exact congrArg Value.vector (settledSurroundings.fieldAs_at now aspect)
      | condition c =>
        exact congrArg Value.scalar (settledSurroundings.conditionAs_at now c aspect)
      | ambientMotion => exact congrArg Value.scalar (settledBody.tremorAs_later now aspect)
    · intro sensor
      have measured : ({ d with
          body := { d.body with now }.settled
          surroundings := { d.surroundings with now }.settled
          time := now } : Device).measured sensor = d.measured sensor :=
        h.settled.measured_later rate rfl rfl sensor
      simp only [read, h.changing]
      cases d.board.override? sensor with
      | none => exact congrArg (Reading.mk · _) measured
      | some value => rfl

end

end Device

/-! ## Sessions -/

namespace Session

variable {s t : Session}

/-- An advance of which no notice is due only moves the device. -/
theorem run_ask_advance_silent {now : Nanos} (silent : (s.device.advance now).2 = none) :
    (s.ask (.advance now)).run =
      { s.cleared with device := (s.device.advance now).1 }.reply .done := by
  have moved : (s.cleared.begin (.advance now)).step =
      { s.cleared with device := (s.device.advance now).1, tasks := [.answer .done] } := by
    change Session.announce { s.cleared with
      device := (s.device.advance now).1, tasks := [.answer .done] } (s.device.advance now).2 = _
    rw [silent]
    rfl
  rw [run_ask, run_of_tasks rfl, moved, run_of_tasks rfl]
  exact run_of_no_tasks rfl

/-- Any number of advances leaves such a device at rest, and nobody is told anything. -/
theorem respondAll_advances (staying : s.device.Staying) {times : List Nanos}
    {responses : List Response} (asked : s.respondAll (times.map .advance) = (t, responses)) :
    t.device.Staying ∧ s.device.SameReports t.device ∧ t.observers = s.observers ∧
      ∀ response ∈ responses, response.log = [] ∧ response.changing = false := by
  induction times generalizing s responses with
  | nil =>
    cases asked
    refine ⟨staying, .refl _, rfl, ?_⟩
    intro response mem
    cases mem
  | cons now times ih =>
    obtain ⟨next, same, silent⟩ := staying.advance now
    have moved := run_ask_advance_silent silent
    simp only [List.map_cons, respondAll, respond, moved] at asked
    cases asked
    obtain ⟨rest, reports, observers, quiet⟩ := ih next rfl
    refine ⟨rest, same.trans reports, observers, ?_⟩
    intro response mem
    rcases List.mem_cons.mp mem with rfl | mem
    · exact ⟨rfl, next.changing⟩
    · exact quiet response mem

/-- A device that is at rest stays so, whatever the moments are to which it is moved: body and
    surroundings are at rest at each of them, everything that is reported stays the same, and no
    observer is told anything. -/
theorem stays_at_rest {times : List Nanos} {responses : List Response}
    (body : s.device.body.settings.fault? = none)
    (surroundings : s.device.surroundings.settings.fault? = none) (rested : s.device.Rested)
    (regular : s.device.Regular)
    (asked : s.respondAll (times.map .advance) = (t, responses)) :
    (∀ now, (t.device.body.advance now).2 = .stable ∧
      (t.device.surroundings.advance now).2 = .stable ∧ (t.device.advance now).2 = none) ∧
      s.device.SameReports t.device ∧ t.device.changing = false ∧ t.observers = s.observers ∧
      ∀ response ∈ responses, response.log = [] ∧ response.changing = false := by
  obtain ⟨staying, same, observers, quiet⟩ :=
    respondAll_advances (rested.staying regular body surroundings) asked
  refine ⟨?_, same, staying.changing, observers, quiet⟩
  intro now
  obtain ⟨still, calm⟩ := staying.stable now
  exact ⟨still, calm, (staying.advance now).2.2⟩

/-- A device that has come to rest in surroundings that have got warm, and somebody to tell of
    everything. -/
def come : Session where
  device := { Device.start {} with
    body := (Body.approaching.advance 5000000000).1
    surroundings := (Surroundings.warming.advance 5000000000).1
    time := 5000000000
    observer := some 0 }
  observers := [{ changing := some [], stabilized := some [], targetChanged := some [] }]
  files := ⟨[]⟩
  places := ⟨none, "/"⟩

/-- Moments at which it is looked after. -/
def looks : List Nanos := [5000000001, 5000000001, 6000000000, 9000000000000000000]

theorem stays_at_rest_come :
    ((come.respondAll (looks.map .advance)).1.device.body.advance Nanos.greatest).2 = .stable ∧
      come.device.SameReports (come.respondAll (looks.map .advance)).1.device ∧
      ∀ response ∈ (come.respondAll (looks.map .advance)).2, response.log = [] := by
  have body : (Body.approaching.advance 5000000000).2 = .stable := by decide +kernel
  have surroundings : (Surroundings.warming.advance 5000000000).2 = .stable := by decide +kernel
  have rested : come.device.Rested := by
    refine ⟨rfl, ⟨Body.approaching, 5000000000, ?_⟩, ⟨Surroundings.warming, 5000000000, ?_⟩⟩
    · simp only [come, ← body]
    · simp only [come, ← surroundings]
  have regular : come.device.Regular := by
    refine ⟨by decide +kernel, by decide +kernel, ?_, by decide +kernel⟩
    intro c
    cases c <;> decide +kernel
  have faultless : come.device.body.settings.fault? = none ∧
      come.device.surroundings.settings.fault? = none := by decide +kernel
  obtain ⟨stable, same, -, -, quiet⟩ :=
    stays_at_rest faultless.1 faultless.2 rested regular
      (Prod.mk.eta (p := come.respondAll (looks.map .advance))).symm
  exact ⟨(stable Nanos.greatest).1, same, fun response mem => (quiet response mem).1⟩

end Session

end Sensorium
