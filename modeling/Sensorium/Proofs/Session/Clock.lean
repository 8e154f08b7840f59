import Sensorium.Proofs.Session.Forgetting

/-!
# The clock

The time of a device is the latest moment that it was ever given, and never less than zero. The
body and the surroundings are at the same moment, and everything that a value is computed from
starts between zero and then: whatever is given a new target starts when that is set, and
whatever comes to rest starts when it does. So no span of time is negative, and none is too long
to be counted. Observers and sinks may give the device any moments in the midst of a call; the
ones that are past do nothing at all.
-/

namespace Sensorium

/-! ## What starts when -/

/-- The moments at which the motion, the turn, the tremor and the tracks of the surroundings
    start. -/
inductive Device.StartsAt (d : Device) : Nanos → Prop
  | motion : d.StartsAt d.body.motion.since
  | turn : d.StartsAt d.body.turn.since
  | tremor : d.StartsAt d.body.tremor.since
  | field : d.StartsAt d.surroundings.field.since
  | condition (c : Condition) : d.StartsAt (d.surroundings.conditions.get c).since

theorem Track.since_retarget {α : Type} (now : Nanos) (current target : α) (approach : Approach) :
    (Track.retarget now current target approach).since = now := by
  cases approach <;> rfl

namespace Device

variable {d e : Device} {since now : Nanos}

theorem StartsAt.congr (h : e.StartsAt since) (body : e.body = d.body)
    (surroundings : e.surroundings = d.surroundings) : d.StartsAt since := by
  cases h with
  | motion => rw [body]; exact .motion
  | turn => rw [body]; exact .turn
  | tremor => rw [body]; exact .tremor
  | field => rw [surroundings]; exact .field
  | condition c => rw [surroundings]; exact .condition c

/-- Everything starts at moment zero with a new device. -/
theorem startsAt_start {settings : Settings} (h : (start settings).StartsAt since) : since = 0 := by
  cases h with
  | condition c => cases c <;> rfl
  | _ => rfl

/-- A new target starts what it moves now and nothing else. -/
theorem startsAt_retarget {p : Parameter} {value : Value} {approach : Approach}
    (h : (d.retarget p value approach).StartsAt since) :
    d.StartsAt since ∨ since = d.body.now ∨ since = d.surroundings.now := by
  cases h with
  | motion =>
    cases p with
    | position => right; left; cases approach <;> rfl
    | velocity => exact .inr (.inl rfl)
    | _ => exact .inl .motion
  | turn =>
    cases p with
    | rotation => exact .inr (.inl (Track.since_retarget ..))
    | position => left; cases approach <;> exact .turn
    | _ => exact .inl .turn
  | tremor =>
    cases p with
    | ambientMotion => exact .inr (.inl (Track.since_retarget ..))
    | position => left; cases approach <;> exact .tremor
    | _ => exact .inl .tremor
  | field =>
    cases p with
    | magneticField => exact .inr (.inr (Track.since_retarget ..))
    | _ => exact .inl .field
  | condition c =>
    cases p with
    | condition c' =>
      simp only [retarget, Surroundings.setCondition, Conditions.get_set]
      split
      · exact .inr (.inr (Track.since_retarget ..))
      · exact .inl (.condition c)
    | _ => exact .inl (.condition c)

/-- A moment that is not past is one for the body and for the surroundings. -/
theorem parts_advance (later : d.time ≤ now) :
    (d.advance now).1.body = (d.body.advance now).1 ∧
      (d.advance now).1.surroundings = (d.surroundings.advance now).1 := by
  rw [advance, if_neg (Int.not_lt.mpr later)]
  simp only [markChanging_eq]
  split
  · split <;> exact ⟨rfl, rfl⟩
  · exact ⟨rfl, rfl⟩

/-- In time everything starts when it started before, or now if it has come to rest. -/
theorem startsAt_advance (later : d.time ≤ now) (h : (d.advance now).1.StartsAt since) :
    d.StartsAt since ∨ since = now := by
  obtain ⟨body, surroundings⟩ := parts_advance later
  cases h with
  | motion =>
    rw [body, Body.advance]
    split
    · exact .inr rfl
    · exact .inl .motion
  | turn =>
    rw [body, Body.advance]
    split
    · exact .inr rfl
    · exact .inl .turn
  | tremor =>
    rw [body, Body.advance]
    split
    · exact .inr rfl
    · exact .inl .tremor
  | field =>
    rw [surroundings, Surroundings.advance]
    split
    · exact .inr rfl
    · exact .inl .field
  | condition c =>
    rw [surroundings, Surroundings.advance]
    split
    · right
      cases c <;> rfl
    · exact .inl (.condition c)

end Device

namespace Nanos

/-- From a moment not before zero to a later one the time is the difference of the two. -/
theorem span_eq {since now : Nanos} (start : 0 ≤ since) (later : since ≤ now)
    (bound : now ≤ greatest) : span since now = now - since := by
  have short : now - since ≤ greatest := Int.le_trans (Int.sub_le_self now start) bound
  have forward : least ≤ now - since :=
    Int.le_trans (show least ≤ 0 by decide) (Int.sub_nonneg_of_le later)
  rw [span, min_eq_right short, max_eq_right forward]

end Nanos

/-! ## Moments -/

namespace Session

/-- The moment that the device is given by the next step. -/
def moment? (s : Session) : Option Nanos :=
  match s.tasks with
  | .advance now :: _ => some now
  | _ => none

/-- The moments that the device was given, the last one first. -/
def moments (past : List Session) : List Nanos := past.filterMap moment?

variable {s : Session}

/-- Only a moment that is given changes the time, and then only to a later one. -/
theorem time_step (s : Session) :
    s.step.device.time = (s.moment?.toList).foldr max s.device.time := by
  unfold moment?
  cases found : s.tasks with
  | nil =>
    rw [step_of_no_tasks found]
    rfl
  | cons task rest =>
    rw [step_of_tasks found]
    cases task with
    | advance now =>
      rw [device_advance]
      change (s.device.advance now).1.time = max now s.device.time
      by_cases later : s.device.time ≤ now
      · rw [Device.time_advance _ later, Int.max_eq_left later]
      · rw [Device.advance, if_pos (Int.not_le.mp later)]
        exact (Int.max_eq_right (Int.le_of_lt (Int.not_le.mp later))).symm
    | call call =>
      obtain ⟨board, observer, sink, trace, -, device⟩ := { s with tasks := rest }.device_begin call
      rw [perform, device]
      rfl
    | mark =>
      rw [device_mark]
      rfl
    | retarget p value approach =>
      simp only [perform]
      rw [Device.retarget_eq]
      rfl
    | clearOverrides =>
      simp only [perform, device_announce]
      rfl
    | settle now step rounds limit =>
      simp only [perform]
      split <;> rfl
    | tell id notice =>
      simp only [perform, device_tell]
      rfl
    | override sensor value => rfl
    | leave notice | resume | answer answer => rfl

theorem moments_cons (s : Session) (past : List Session) :
    moments (s :: past) = s.moment?.toList ++ moments past := by
  rw [moments, List.filterMap_cons]
  cases s.moment? <;> rfl

theorem foldr_max_nonneg (moments : List Nanos) : 0 ≤ moments.foldr max 0 := by
  induction moments with
  | nil => exact Int.le_refl 0
  | cons now rest ih => exact Int.le_trans ih (Int.le_max_right ..)

theorem foldr_max_le {bound : Nanos} {moments : List Nanos} (start : 0 ≤ bound)
    (h : ∀ now ∈ moments, now ≤ bound) : moments.foldr max 0 ≤ bound := by
  induction moments with
  | nil => exact start
  | cons now rest ih =>
    refine Int.max_le.mpr ⟨h now List.mem_cons_self, ?_⟩
    exact ih fun later mem => h later (List.mem_cons_of_mem _ mem)

/-- A step starts things only at the moment of the device. -/
theorem startsAt_step {settings : Settings} (h : s.device.From settings) {since : Nanos}
    (starts : s.step.device.StartsAt since) :
    s.device.StartsAt since ∨ since = s.step.device.time := by
  cases found : s.tasks with
  | nil =>
    rw [step_of_no_tasks found] at starts
    exact .inl starts
  | cons task rest =>
    have step := step_of_tasks found
    rw [step] at starts ⊢
    by_cases moves : task.moves = true
    · cases task with
      | mark =>
        rw [device_mark] at starts
        exact .inl (starts.congr rfl rfl)
      | retarget p value approach =>
        have time : (s.device.retarget p value approach).time = s.device.time := by
          rw [Device.retarget_eq]
        rcases Device.startsAt_retarget (d := s.device) starts with before | now | now
        · exact .inl before
        · exact .inr (by rw [now, h.bodyNow]; exact time.symm)
        · exact .inr (by rw [now, h.surroundingsNow]; exact time.symm)
      | advance now =>
        rw [device_advance] at starts ⊢
        change (s.device.advance now).1.StartsAt since at starts
        change _ ∨ since = (s.device.advance now).1.time
        by_cases later : s.device.time ≤ now
        · rw [Device.time_advance _ later]
          exact Device.startsAt_advance later starts
        · rw [Device.advance, if_pos (Int.not_le.mp later)] at starts
          exact .inl starts
      | _ => cases moves
    · have same := { s with tasks := rest }.sameMotion_perform (Bool.eq_false_iff.mpr moves)
      exact .inl (starts.congr same.body same.surroundings)

/-- A moment that is past is passed over. -/
theorem step_of_past {now : Nanos} {rest : List Task} (found : s.tasks = .advance now :: rest)
    (past : now < s.device.time) : s.step = { s with tasks := rest } := by
  have same : s.device.advance now = (s.device, none) := by rw [Device.advance, if_pos past]
  rw [step_of_tasks found]
  simp only [perform, same]
  rfl

/-- So a call that gives it is only answered. -/
theorem respond_of_past {now : Nanos} (past : now < s.device.time) :
    s.respond (.advance now) =
      ({ s with answers := [.done], log := [], tasks := [] },
        { answer := .done, changing := s.device.changing, time := s.device.time, log := [] }) := by
  let begun := { s with answers := [], log := [], tasks := [.advance now, .answer .done] }
  let left := { s with answers := [], log := [], tasks := [.answer .done] }
  have skipped : begun.step = left := step_of_past (s := begun) rfl past
  have run : (s.ask (.advance now)).run =
      { s with answers := [.done], log := [], tasks := [] } :=
    calc (s.ask (.advance now)).run
      _ = begun.run := run_of_tasks rfl
      _ = left.run := by rw [run_of_tasks (s := begun) rfl, skipped]
      _ = { s with answers := [.done], log := [], tasks := [] }.run := run_of_tasks rfl
      _ = { s with answers := [.done], log := [], tasks := [] } := run_of_no_tasks rfl
  rw [respond, run]
  rfl

/-! ## Whole runs -/

/-- What the time of a session has to do with the states that it has gone through, the latest
    first, and with where everything starts. -/
structure OnTime (past : List Session) (s : Session) : Prop where
  /-- The time is the greatest moment that was given, or zero. -/
  time : s.device.time = (moments past).foldr max 0
  body : s.device.body.now = s.device.time
  surroundings : s.device.surroundings.now = s.device.time
  starts : ∀ since, s.device.StartsAt since → 0 ≤ since ∧ since ≤ s.device.time
  /-- If only moments are given that there are, there is one for the time. -/
  bound : (∀ now ∈ moments past, now ≤ Nanos.greatest) → s.device.time ≤ Nanos.greatest
  /-- What has passed of anything, now or at the next moment that is given, is a difference that
      is not negative. -/
  span : ∀ since now, s.device.StartsAt since → s.device.time ≤ now → now ≤ Nanos.greatest →
    Nanos.span since now = now - since ∧ 0 ≤ Nanos.span since now
  /-- A moment that is past is passed over, in the midst of a call. -/
  late : ∀ now rest, s.tasks = .advance now :: rest → now < s.device.time →
    s.step = { s with tasks := rest }
  /-- It is also when a call gives it, and nobody is told. -/
  ignored : ∀ now, s.tasks = [] → now < s.device.time →
    s.respond (.advance now) =
      ({ s with answers := [.done], log := [] },
        { answer := .done, changing := s.device.changing, time := s.device.time, log := [] })

variable {asked : Call → Prop} {origin : Session} {past : List Session}

theorem History.time (run : History asked origin past s) (fresh : origin.Fresh) :
    s.device.time = (moments past).foldr max 0 := by
  induction run with
  | start =>
    obtain ⟨settings, started⟩ := fresh.device
    rw [(Device.finite_of_start? started).1]
    rfl
  | step _ _ _ _ ih => rw [time_step, moments_cons, List.foldr_append, ih]
  | @ask past s call run idle _ ih =>
    have none : s.moment? = none := by
      rw [moment?, idle]
    rw [moments_cons, none]
    exact ih

/-- Everything starts between zero and the moment of the device. -/
theorem History.startsAt (run : History asked origin past s) (fresh : origin.Fresh)
    {since : Nanos} (starts : s.device.StartsAt since) : 0 ≤ since ∧ since ≤ s.device.time := by
  obtain ⟨settings, started⟩ := fresh.device
  induction run with
  | start =>
    rw [(Device.finite_of_start? started).1] at starts ⊢
    rw [Device.startsAt_start starts]
    exact ⟨Int.le_refl 0, Int.le_refl 0⟩
  | @step past s task rest run found ih =>
    have after := (run.step task rest found).time fresh
    have onward : s.device.time ≤ s.step.device.time := by
      rw [time_step]
      cases s.moment? with
      | none => exact Int.le_refl _
      | some now => exact Int.le_max_right ..
    -- a step starts something only at its own moment, which is the maximum of zero and others
    rcases startsAt_step (run.madeFrom started) starts with before | now
    · obtain ⟨start, later⟩ := ih before
      exact ⟨start, Int.le_trans later onward⟩
    · rw [now]
      refine ⟨?_, Int.le_refl _⟩
      rw [after]
      exact foldr_max_nonneg _
  | ask _ _ _ _ ih => exact ih starts

/-- Every session is on time, whatever moments it is given and whoever gives them. -/
theorem onTime (run : History asked origin past s) (fresh : origin.Fresh) : s.OnTime past where
  time := run.time fresh
  body := by
    obtain ⟨settings, started⟩ := fresh.device
    exact (run.madeFrom started).bodyNow
  surroundings := by
    obtain ⟨settings, started⟩ := fresh.device
    exact (run.madeFrom started).surroundingsNow
  starts since starts := run.startsAt fresh starts
  bound given := by
    rw [run.time fresh]
    exact foldr_max_le (by decide) given
  span since now starts later bound := by
    obtain ⟨start, before⟩ := run.startsAt fresh starts
    have passed := Nanos.span_eq start (Int.le_trans before later) bound
    refine ⟨passed, ?_⟩
    rw [passed]
    exact Int.sub_nonneg_of_le (Int.le_trans before later)
  late now rest found past := step_of_past found past
  ignored now idle past := by
    rw [respond_of_past past, ← idle]

/-- An observer that gives the device two moments when it is told that it has stabilized, the
    earlier one last. -/
def hurried : Observer Script where
  stabilized := some [[.advance 7, .advance 3]]

/-- The later moment stays. -/
theorem onTime_hurried :
    let greeting := unused.ask (.attach hurried)
    let past := greeting.trail 8 ++ [unused]
    History (fun _ => True) unused past (step^[8] greeting) ∧ unused.Fresh ∧
      moments past = [3, 7] ∧ (step^[8] greeting).OnTime past := by
  intro greeting past
  have busy : ∀ k < 8, (step^[k] greeting).tasks ≠ [] := by decide +kernel
  have given : moments past = [3, 7] := by decide +kernel
  have begun : History (fun _ => True) unused [unused] greeting := .ask _ .start rfl trivial
  have run : History (fun _ => True) unused past (step^[8] greeting) := begun.trail 8 busy
  exact ⟨run, fresh_unused, given, onTime run fresh_unused⟩

end Session

end Sensorium
