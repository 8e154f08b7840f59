import Sensorium.Proofs.Session.History

/-!
# The mark and what moves

A device is marked as changing before a target of it changes, and the mark goes when all has
come to rest. Between the two an observer is told, and its script may let time pass; if all
is at rest still, that takes the mark away again, and the target then changes without it.
`atRest_iff` says that this is the only way for a device without the mark to be in motion.
-/

namespace Sensorium

namespace Device

theorem SameMotion.atRest {d e : Device} (h : d.SameMotion e) : e.AtRest ↔ d.AtRest :=
  ⟨fun rest => rest.congr h.body.symm h.surroundings.symm,
    fun rest => rest.congr h.body h.surroundings⟩

end Device

namespace Session

/-- The last thing in a history that marked the device, moved it in time or changed a target
    was a change of a target without the mark, and left the device in motion. -/
def Astray : List Session → Prop
  | [] => False
  | s :: past =>
    match s.tasks with
    | .mark :: _ => False
    | .advance now :: _ => now < s.device.time ∧ Astray past
    | .retarget _ _ _ :: _ => s.device.changing = false ∧ ¬ s.step.device.AtRest
    | _ => Astray past

variable {asked : Call → Prop} {origin s : Session} {past : List Session}

/-- A step keeps the mark right, unless it leads the history astray. -/
theorem atRest_step (before : s.device.changing = false → (s.device.AtRest ↔ ¬ Astray past))
    (still : s.step.device.changing = false) :
    s.step.device.AtRest ↔ ¬ Astray (s :: past) := by
  cases found : s.tasks with
  | nil =>
    rw [step_of_no_tasks found] at still ⊢
    simp only [Astray, found]
    exact before still
  | cons task rest =>
    have step := step_of_tasks found
    by_cases moves : task.moves = true
    · cases task with
      | mark =>
        rw [step, device_mark] at still
        cases still
      | retarget p value approach =>
        have unmarked : s.device.changing = false := by
          rw [step, perform, Device.retarget_eq] at still
          exact still
        simp only [Astray, found, unmarked, true_and, not_not]
      | advance now =>
        simp only [Astray, found]
        rw [step, device_advance] at still ⊢
        rcases s.device.advance_cases now with
          ⟨early, same⟩ | ⟨due, stable | ⟨body, surroundings, -, moving⟩⟩
        · simp only [same, early, true_and] at still ⊢
          exact before still
        · have settled : (s.device.advance now).1.Settled := by
            rw [stable]
            exact ⟨Body.settled_settled _, Surroundings.settled_settled _⟩
          simp only [due, false_and, not_false_eq_true, iff_true]
          exact settled.atRest
        · rw [moving] at still
          cases still
      | _ => cases moves
    · have same := sameMotion_perform { s with tasks := rest } (Bool.eq_false_iff.mpr moves)
      rw [step, same.atRest]
      rw [step, same.changing] at still
      have astray : Astray (s :: past) ↔ Astray past := by
        cases task <;> first | exact (moves rfl).elim | simp only [Astray, found]
      rw [astray]
      exact before still

/-- In the run of a device whose mark is not set, nothing is in motion, unless the run has
    gone astray. Observers and sinks may make any calls at any time. -/
theorem atRest_iff (run : History asked origin past s) (fresh : origin.Fresh)
    (still : s.device.changing = false) : s.device.AtRest ↔ ¬ Astray past := by
  induction run with
  | start =>
    obtain ⟨settings, started⟩ := fresh.device
    rw [(Device.finite_of_start? started).1]
    simp only [Astray, not_false_eq_true, iff_true]
    exact (Device.settled_start settings).atRest
  | step _ _ _ _ ih => exact atRest_step ih still
  | @ask past s call _ idle _ ih =>
    have astray : Astray (s :: past) ↔ Astray past := by
      simp only [Astray, idle]
    rw [astray]
    exact ih still

/-- An observer that lets time pass up to the present moment as soon as it is told of a change
    to come. -/
def hasty : Observer Script where
  changing := some [[], [.advance 0]]

/-- The calls by which a target moves without the mark. -/
def interrupted : List Call := [.attach hasty, .setTarget (.condition .light) (.scalar 1) .smooth]

theorem respondAll_interrupted :
    (unused.respondAll interrupted).1.tasks = [] ∧
      (unused.respondAll interrupted).1.device.changing = false ∧
      ¬ (unused.respondAll interrupted).1.device.AtRest := by
  let attached := step^[6] (unused.ask (.attach hasty))
  let changed := step^[12] (attached.ask (.setTarget (.condition .light) (.scalar 1) .smooth))
  have idle : attached.tasks = [] := by decide +kernel
  have outcome : changed.tasks = [] ∧ changed.device.changing = false ∧
      (changed.device.surroundings.conditions.get .light).start ≠
        (changed.device.surroundings.conditions.get .light).target := by
    decide +kernel
  obtain ⟨done, still, moving⟩ := outcome
  have reached : (unused.respondAll interrupted).1 = changed := by
    simp only [interrupted, respondAll, respond]
    rw [run_eq_iterate 6 idle, run_eq_iterate 12 done]
  rw [reached]
  exact ⟨done, still, fun rest => moving (rest.conditions .light)⟩

/-- When the calls have come to an end, the light is on its way, and the mark says that the
    device is at rest. -/
theorem moving_unmarked :
    unused.Fresh ∧ (unused.respondAll interrupted).1.tasks = [] ∧
      (unused.respondAll interrupted).1.device.changing = false ∧
      ¬ (unused.respondAll interrupted).1.device.AtRest :=
  ⟨fresh_unused, respondAll_interrupted⟩

/-- It does so because the run has gone astray. -/
theorem astray_interrupted :
    ∃ past, History (fun _ => True) unused past (unused.respondAll interrupted).1 ∧
      (unused.respondAll interrupted).1.device.changing = false ∧ Astray past := by
  have begun : History (fun _ => True) unused [] unused := .start
  obtain ⟨past, run, -⟩ := begun.respondAll rfl interrupted fun _ _ => trivial
  obtain ⟨-, still, moving⟩ := respondAll_interrupted
  refine ⟨past ++ [], run, still, ?_⟩
  by_contra straight
  exact moving ((atRest_iff run fresh_unused still).mpr straight)

end Session

/-! ## Listeners that let no time pass -/

/-- True for a call that lets no time pass. -/
def Call.timeless : Call → Bool
  | .advance _ | .settle _ _ => false
  | _ => true

/-- Whoever is attached by the call never lets time pass. -/
def Call.Patient (call : Call) : Prop := AllCalls (·.Throughout timeless) call.scripts

/-- Those who only read are patient. -/
theorem Call.throughout_of_onlyReads {call : Call} (h : call.onlyReads = true) :
    call.Throughout timeless := by
  apply throughout_of_test
  · cases call <;> first | rfl | cases h
  · cases call <;> first | rfl | cases h

/-- A target is only moved, and the overrides are only cleared, while the mark is set, when
    these tasks are done and the mark is as given at first. A call that lets time pass may
    take it away. -/
def Marked : Bool → List Task → Prop
  | _, [] => True
  | _, .mark :: rest => Marked true rest
  | marked, .retarget _ _ _ :: rest => marked = true ∧ Marked marked rest
  | marked, .clearOverrides :: rest => marked = true ∧ Marked marked rest
  | _, .advance _ :: rest => Marked false rest
  | _, .settle _ _ _ _ :: rest => Marked false rest
  | marked, .call call :: rest => Marked (marked && call.timeless) rest
  | marked, _ :: rest => Marked marked rest

/-- A mark that is set does no harm. -/
theorem Marked.mono {marked more : Bool} {tasks : List Task} (h : Marked marked tasks)
    (le : marked = true → more = true) : Marked more tasks := by
  induction tasks generalizing marked more with
  | nil => trivial
  | cons task rest ih =>
    cases task with
    | mark => exact h
    | retarget => exact ⟨le h.1, ih h.2 le⟩
    | clearOverrides => exact ⟨le h.1, ih h.2 le⟩
    | advance => exact h
    | settle => exact h
    | call call =>
      apply ih h
      intro both
      rw [Bool.and_eq_true] at both ⊢
      exact ⟨le both.1, both.2⟩
    | _ => exact ih h le

theorem Marked.any {marked : Bool} {tasks : List Task} (h : Marked false tasks) :
    Marked marked tasks :=
  h.mono nofun

/-- The tasks of a change set the mark themselves. -/
theorem marked_changes {marked : Bool} {tasks : List Task} (changes : List Change)
    (h : Marked marked tasks) : Marked marked (changes.flatMap Change.tasks ++ tasks) := by
  induction changes generalizing marked with
  | nil => exact h
  | cons change rest ih =>
    have set : Marked true (rest.flatMap Change.tasks ++ tasks) := ih (h.mono fun _ => rfl)
    rw [List.flatMap_cons, List.append_assoc]
    cases change with
    | target => exact ⟨rfl, rfl, set⟩
    | override => exact set

theorem marked_script {marked : Bool} {tasks : List Task} {script : Script}
    (timeless : ∀ call ∈ script, call.Throughout Call.timeless) (h : Marked marked tasks) :
    Marked marked (script.map .call ++ tasks) := by
  induction script with
  | nil => exact h
  | cons call rest ih =>
    have here : call.timeless = true := (timeless call List.mem_cons_self).head
    change Marked (marked && call.timeless) _
    rw [here, Bool.and_true]
    exact ih fun call mem => timeless call (List.mem_cons_of_mem _ mem)

namespace Session

/-- Whatever moves or clears the overrides does so while the mark is set, and without the
    mark everything is settled. -/
structure Tidy (s : Session) : Prop where
  scripted : s.Scripted Call.Patient (·.Throughout Call.timeless)
  finite : s.device.body.settings.inertialFrequency.isFinite = true
  settled : s.device.changing = false → s.device.Settled
  marked : Marked s.device.changing s.tasks

theorem Fresh.tidy {s : Session} (h : s.Fresh) : s.Tidy := by
  obtain ⟨settings, started⟩ := h.device
  obtain ⟨start, finite⟩ := Device.finite_of_start? started
  refine ⟨⟨?_, ?_, ?_⟩, finite, ?_, ?_⟩
  · intro call mem
    rw [h.idle] at mem
    cases mem
  · rintro id observer (attached | ⟨notice, mem⟩)
    · rw [start] at attached
      cases attached
    · rw [h.idle] at mem
      cases mem
  · intro id scripts attached
    rw [start] at attached
    cases attached
  · intro _
    rw [start]
    exact Device.settled_start settings
  · rw [h.idle]
    trivial

variable {s : Session}

/-- A script that is taken up and lets no time pass leaves the tasks in order. -/
theorem marked_enter {marked : Bool} (h : Marked marked s.tasks) {script : Script}
    (timeless : ∀ call ∈ script, call.Throughout Call.timeless) {back : Task}
    (ends : back = .resume ∨ ∃ notice, back = .leave notice) :
    Marked marked (s.enter script back).tasks := by
  apply marked_script timeless
  rcases ends with rfl | ⟨notice, rfl⟩ <;> exact h

theorem marked_record (h : s.Scripted Call.Patient (·.Throughout Call.timeless))
    {id : SinkId} (attached : s.device.sink = some id) (event : Event) {marked : Bool}
    (ordered : Marked marked s.tasks) : Marked marked (s.record id event).tasks := by
  rcases s.record_cases id event with noted | ⟨script, rest, found, entered⟩
  · rw [noted]
    exact ordered
  · have timeless := h.sinks id _ attached found script List.mem_cons_self
    rw [entered]
    exact marked_enter ordered timeless (.inl rfl)

theorem marked_tell {id : ObserverId} {notice : Notice}
    (all : ∀ observer, s.observers[id]? = some observer →
      observer.All (·.Throughout Call.timeless)) {marked : Bool}
    (ordered : Marked marked s.tasks) : Marked marked (s.tell id notice).tasks := by
  rcases s.tell_cases id notice with same | noted | ⟨observer, script, rest, found, left, entered⟩
  · rw [same]
    exact ordered
  · rw [noted]
    exact ordered
  · have timeless := all observer found notice _ left script List.mem_cons_self
    rw [entered]
    exact marked_enter ordered timeless (.inr ⟨notice, rfl⟩)

theorem marked_announce {marked : Bool} (ordered : Marked marked s.tasks) (due : Option Notice) :
    Marked marked (s.announce due).tasks := by
  rcases s.announce_cases due with ⟨-, same⟩ | ⟨notice, id, -, -, told⟩
  · rw [same]
    exact ordered
  · rw [told]
    exact ordered

theorem marked_carryOut {marked : Bool} (h : Marked marked s.tasks) (changes : List Change)
    (answer : Answer) : Marked marked (s.carryOut changes answer).tasks := by
  rw [carryOut, first, List.append_assoc]
  exact marked_changes changes h

theorem marked_attach {marked : Bool} (h : Marked marked s.tasks) (observer : Observer Script) :
    Marked marked (s.attach observer).tasks := by
  unfold attach
  split <;> exact h

/-- Beginning a call leaves the tasks in order if the call lets no time pass or the rest of
    them can do without the mark. -/
theorem marked_begin (h : s.Scripted Call.Patient (·.Throughout Call.timeless))
    {call : Call} (ordered : Marked (s.device.changing && call.timeless) s.tasks) :
    Marked (s.begin call).device.changing (s.begin call).tasks := by
  have begun := s.begins_begin call
  generalize s.begin call = next at begun
  have kept : Marked s.device.changing s.tasks :=
    ordered.mono fun both => ((Bool.and_eq_true _ _).mp both).1
  cases begun with
  | reads => exact kept
  | configures => exact kept
  | changes => exact marked_carryOut kept _ _
  | records _ attached =>
    rw [device_record]
    exact marked_record (h.carryOut _ _) attached _ (marked_carryOut kept _ _)
  | advances =>
    rw [Call.timeless, Bool.and_false] at ordered
    exact ordered
  | settles =>
    rw [Call.timeless, Bool.and_false] at ordered
    exact ordered
  | attaches => exact marked_attach kept _
  | attachesSink => exact kept

theorem marked_perform (h : s.Scripted Call.Patient (·.Throughout Call.timeless))
    {task : Task} (told : ∀ id notice, task = .tell id notice →
      ∀ observer, s.observers[id]? = some observer →
        observer.All (·.Throughout Call.timeless))
    (ordered : Marked s.device.changing (task :: s.tasks)) :
    Marked (s.perform task).device.changing (s.perform task).tasks := by
  cases task with
  | call call => exact marked_begin h ordered
  | mark =>
    rw [device_mark]
    exact marked_announce (s := { s with device := s.device.markChanging.1 }) ordered _
  | retarget p value approach =>
    simp only [perform]
    rw [Device.retarget_eq]
    exact ordered.2
  | clearOverrides =>
    simp only [perform, device_announce]
    exact marked_announce (s := { s with device := s.device.clearOverrides }) ordered.2 _
  | override sensor value => exact ordered
  | advance now =>
    exact marked_announce (s := { s with device := (s.device.advance now).1 }) ordered.any _
  | settle now step rounds limit =>
    simp only [perform]
    split
    · exact ordered
    · exact ordered.any
  | tell id notice =>
    simp only [perform, device_tell]
    exact marked_tell (told id notice rfl) ordered
  | leave notice => exact ordered
  | resume => exact ordered
  | answer answer => exact ordered

/-- Without the mark everything is settled after a task as well, unless it moves a target
    without the mark. -/
theorem settled_perform {task : Task} (settled : s.device.changing = false → s.device.Settled)
    (ordered : Marked s.device.changing (task :: s.tasks))
    (still : (s.perform task).device.changing = false) : (s.perform task).device.Settled := by
  by_cases moves : task.moves = true
  · cases task with
    | mark =>
      rw [device_mark] at still
      cases still
    | retarget p value approach =>
      simp only [perform] at still
      rw [Device.retarget_eq] at still
      change s.device.changing = false at still
      rw [ordered.1] at still
      cases still
    | advance now =>
      rw [device_advance] at still ⊢
      rcases s.device.advance_cases now with
        ⟨-, same⟩ | ⟨-, stable | ⟨body, surroundings, -, moving⟩⟩
      · rw [same] at still ⊢
        exact settled still
      · rw [stable]
        exact ⟨Body.settled_settled _, Surroundings.settled_settled _⟩
      · rw [moving] at still
        cases still
    | _ => cases moves
  · have same := s.sameMotion_perform (Bool.eq_false_iff.mpr moves)
    rw [same.changing] at still
    refine ⟨?_, ?_⟩
    · rw [same.body]
      exact (settled still).body
    · rw [same.surroundings]
      exact (settled still).surroundings

/-- No task changes the settings. -/
theorem settings_perform (task : Task) :
    (s.perform task).device.body.settings = s.device.body.settings := by
  by_cases moves : task.moves = true
  · cases task with
    | mark => rw [device_mark]
    | retarget p value approach => exact s.device.settings_retarget p value approach
    | advance now =>
      rw [device_advance]
      rcases s.device.advance_cases now with
        ⟨-, same⟩ | ⟨-, stable | ⟨body, surroundings, kept, moving⟩⟩
      · rw [same]
      · rw [stable]
        rfl
      · rw [moving]
        exact kept
    | _ => cases moves
  · rw [(s.sameMotion_perform (Bool.eq_false_iff.mpr moves)).body]

theorem Tidy.step (h : s.Tidy) : s.step.Tidy := by
  cases found : s.tasks with
  | nil =>
    rw [step_of_no_tasks found]
    exact h
  | cons task rest =>
    have first : task ∈ s.tasks := by
      rw [found]
      exact List.mem_cons_self
    have ordered : Marked s.device.changing (task :: rest) := by
      rw [← found]
      exact h.marked
    refine ⟨h.scripted.step Call.hereditary_scripts, ?_, ?_, ?_⟩
    · rw [step_of_tasks found, settings_perform]
      exact h.finite
    · rw [step_of_tasks found]
      exact settled_perform (s := { s with tasks := rest }) h.settled ordered
    · rw [step_of_tasks found]
      refine marked_perform (h.scripted.tail found) ?_ ordered
      rintro id notice rfl observer listed
      exact h.scripted.observers id observer (.inr ⟨notice, first⟩) listed

theorem Tidy.ask (h : s.Tidy) {call : Call} (patient : call.Patient) : (s.ask call).Tidy :=
  ⟨h.scripted.ask patient, h.finite, h.settled, trivial⟩

theorem History.tidy {origin : Session} {past : List Session}
    (h : History Call.Patient origin past s) (start : origin.Tidy) : s.Tidy := by
  induction h with
  | start => exact start
  | step _ _ _ _ ih => exact ih.step
  | ask _ _ _ patient ih => exact ih.ask patient

/-- As long as nobody who listens lets time pass, a device without the mark is at rest, also
    in the midst of a call. -/
theorem History.atRest (run : History Call.Patient origin past s) (fresh : origin.Fresh)
    (still : s.device.changing = false) : s.device.AtRest :=
  ((run.tidy fresh.tidy).settled still).atRest

end Session

end Sensorium
