import Sensorium.Proofs.Session.Notices
import Sensorium.Proofs.Session.Returning

/-!
# The notices with which an observer is attached

An observer that is attached to a device at rest is told that the device is changing, and then
that it has stabilized. That the second is due is settled before it is told the first, but what
the observer does when it is told of a change may set the device in motion; then it is told that
the device has stabilized while it is changing. `upToDate_iff` says that this is all that can go
wrong: when the observer has been attached, the mark is what it was told last, unless that was
told so. The call that attaches it may be made in the midst of others.
-/

namespace Sensorium

namespace Session

/-- What an observer was told last of the mark is that the device has stabilized, and the mark was
    set at the time. The states are those that the session has gone through, the latest first. -/
def Misled (id : ObserverId) : List Session → Prop
  | [] => False
  | s :: past =>
    match s.edge? id with
    | some notice => notice = .stabilized ∧ s.device.changing = true
    | none => Misled id past

variable {s : Session} {id : ObserverId} {past : List Session}

theorem misled_cons_of_none (none : s.edge? id = none) :
    Misled id (s :: past) ↔ Misled id past := by
  simp only [Misled, none]

theorem misled_cons_of_some {notice : Notice} (told : s.edge? id = some notice) :
    Misled id (s :: past) ↔ notice = .stabilized ∧ s.device.changing = true := by
  simp only [Misled, told]

theorem head?_edges_cons_of_none (none : s.edge? id = none) :
    (edges id (s :: past)).head? = (edges id past).head? := by
  rw [edges_cons, none]
  rfl

theorem head?_edges_cons_of_some {notice : Notice} (told : s.edge? id = some notice) :
    (edges id (s :: past)).head? = some notice := by
  rw [edges_cons, told]
  rfl

/-! ## One step -/

/-- How far an observer is with what it is told while it is being attached, to a device that was
    at rest or was not. -/
inductive Stage (id : ObserverId) (rested : Bool) (s : Session) (past : List Session) : Prop
  /-- It has yet to be told that the device has stabilized, whatever comes before. -/
  | greeting (front back : List Task) (tasks : s.tasks = front ++ .tell id .stabilized :: back)
      (due : dueEdges back = []) (rest : rested = true)
  /-- It is told of the mark next. -/
  | due (back : List Task) (tasks : s.tasks = .tell id (.ofMark s.device.changing) :: back)
      (due : dueEdges back = [])
  /-- The mark is what it was told last, unless that was wrong. -/
  | told (due : dueEdges s.tasks = [])
      (right : (edges id past).head? = some (.ofMark s.device.changing) ↔ ¬ Misled id past)
      (honest : rested = false → ¬ Misled id past)

variable {rested : Bool}

/-- The observer is told what was decided when it was attached. -/
theorem stage_step_of_greeting {back : List Task} (tasks : s.tasks = .tell id .stabilized :: back)
    (due : dueEdges back = []) (rest : rested = true) : Stage id rested s.step (s :: past) := by
  have told : s.edge? id = some .stabilized := edge?_tell tasks rfl
  obtain ⟨free, same⟩ := step_of_tell tasks due
  refine .told free ?_ ?_
  · rw [head?_edges_cons_of_some told, misled_cons_of_some told, same]
    cases s.device.changing <;> decide
  · intro moving
    rw [rest] at moving
    cases moving

/-- The observer is told of the mark as it is. -/
theorem stage_step_of_due {back : List Task}
    (tasks : s.tasks = .tell id (.ofMark s.device.changing) :: back)
    (due : dueEdges back = []) : Stage id rested s.step (s :: past) := by
  have told : s.edge? id = some (.ofMark s.device.changing) := edge?_ofMark tasks
  obtain ⟨free, same⟩ := step_of_tell tasks due
  have honest : ¬ Misled id (s :: past) := by
    rw [misled_cons_of_some told]
    cases s.device.changing <;> decide
  refine .told free ?_ fun _ => honest
  rw [head?_edges_cons_of_some told, same]
  exact iff_of_true rfl honest

/-- Nothing is due to be told, and the task at hand may change that. -/
theorem stage_step_of_told (attached : Attached id s) (due : dueEdges s.tasks = [])
    (right : (edges id past).head? = some (.ofMark s.device.changing) ↔ ¬ Misled id past)
    (honest : rested = false → ¬ Misled id past) : Stage id rested s.step (s :: past) := by
  have unchanged (none : s.edge? id = none) (free : dueEdges s.step.tasks = [])
      (same : s.step.device.changing = s.device.changing) :
      Stage id rested s.step (s :: past) := by
    refine .told free ?_ ?_
    · rw [head?_edges_cons_of_none none, misled_cons_of_none none, same]
      exact right
    · rw [misled_cons_of_none none]
      exact honest
  cases tasks : s.tasks with
  | nil =>
    have none : s.edge? id = none := by
      rw [edge?, tasks]
    apply unchanged none <;> rw [step_of_no_tasks tasks]
    exact due
  | cons task rest =>
    rw [tasks] at due
    obtain ⟨free, due⟩ := free_of_dueEdges due
    have step := step_of_tasks tasks
    rcases announced_perform (s := { s with tasks := rest }) attached.observer
      (attached.keeps tasks) due with ⟨free', same⟩ | ⟨next, -⟩
    · apply unchanged (edge?_of_tasks tasks free) <;> rw [step]
      · exact free'
      · exact same
    · rw [← step] at next
      exact .due rest next due

theorem Stage.step (attached : Attached id s) (h : Stage id rested s past) :
    Stage id rested s.step (s :: past) := by
  cases h with
  | greeting front back tasks due rest =>
    cases front with
    | nil => exact stage_step_of_greeting tasks due rest
    | cons task front =>
      -- whatever the task leads to comes before what is still to be told
      let left := { s with tasks := front ++ Task.tell id .stabilized :: back }
      obtain ⟨before, changes, after, next, -, -⟩ := left.leadsTo_perform task
      have step : s.step = left.perform task := step_of_tasks tasks
      refine .greeting (before ++ changes.flatMap Change.tasks ++ after ++ front) back ?_ due rest
      rw [step, next, List.append_assoc (before ++ changes.flatMap Change.tasks ++ after)]
  | due back tasks due => exact stage_step_of_due tasks due
  | told due right honest => exact stage_step_of_told attached due right honest

/-! ## The whole call -/

/-- What is told first when an observer is attached. -/
theorem stage_attach (idle : s.tasks = []) (observer : Observer Script) (past : List Session) :
    Stage s.observers.length (!s.device.changing) (s.attach observer) past := by
  let back : List Task := [.tell s.observers.length .targetChanged, .answer .done]
  cases changing : s.device.changing with
  | true =>
    refine .due back ?_ rfl
    simp [attach, first, idle, changing, Notice.ofMark, back]
  | false =>
    refine .greeting [.tell s.observers.length .changing] back ?_ rfl rfl
    simp [attach, first, idle, changing, back]

/-- The stage is kept through all steps, beginning with the one that attaches the observer. -/
theorem stage_trail (attached : Attached id s.step) (h : Stage id rested s.step [s]) (count : Nat) :
    Attached id (step^[count + 1] s) ∧
      Stage id rested (step^[count + 1] s) (s.trail (count + 1)) := by
  induction count with
  | zero => exact ⟨attached, h⟩
  | succ count ih =>
    obtain ⟨attached, stage⟩ := ih
    rw [Function.iterate_succ_apply']
    exact ⟨attached.step, stage.step attached⟩

/-- With nothing left to do, all has been told. -/
theorem Stage.of_idle (h : Stage id rested s past) (idle : s.tasks = []) :
    ((edges id past).head? = some (.ofMark s.device.changing) ↔ ¬ Misled id past) ∧
      (rested = false → ¬ Misled id past) := by
  cases h with
  | greeting front back tasks =>
    rw [idle] at tasks
    cases front <;> cases tasks
  | due back tasks =>
    rw [idle] at tasks
    cases tasks
  | told due right honest => exact ⟨right, honest⟩

theorem edge?_above (busy : s.tasks ≠ []) (others : List Task) :
    (s.above others).edge? id = s.edge? id := by
  cases found : s.tasks with
  | nil => exact (busy found).elim
  | cons task rest =>
    simp only [edge?, tasks_above, found, List.cons_append]
    cases task <;> rfl

theorem edges_above (busy : ∀ u ∈ past, u.tasks ≠ []) (others : List Task) :
    edges id (past.map (·.above others)) = edges id past := by
  induction past with
  | nil => rfl
  | cons u past ih =>
    have here : (u.above others).edge? id = u.edge? id :=
      edge?_above (busy u List.mem_cons_self) others
    rw [List.map_cons, edges_cons, edges_cons, here,
      ih fun v mem => busy v (List.mem_cons_of_mem _ mem)]

theorem misled_above (busy : ∀ u ∈ past, u.tasks ≠ []) (others : List Task) :
    Misled id (past.map (·.above others)) ↔ Misled id past := by
  induction past with
  | nil => exact Iff.rfl
  | cons u past ih =>
    have here : (u.above others).edge? id = u.edge? id :=
      edge?_above (busy u List.mem_cons_self) others
    have before := ih fun v mem => busy v (List.mem_cons_of_mem _ mem)
    simp only [List.map_cons, Misled, here, before, device_above]

/-- A call that attaches an observer returns, and when it does, the mark is what the observer was
    told of it last, unless that was that the device has stabilized while it was changing. This
    only happens if the device was at rest when the call was made. The observer and the sink may
    do anything in their scripts, as long as they leave the observer attached. -/
theorem upToDate_iff {observer : Observer Script} {others : List Task}
    (found : s.tasks = .call (.attach observer) :: others)
    (scripts : observer.All (·.Throughout Call.keepsObserver))
    (sinks : ∀ id left, s.device.sink = some id → s.sinks[id]? = some left →
      AllCalls (·.Throughout Call.keepsObserver) left) :
    ∃ count, s.Returns others count ∧
      ((edges s.observers.length (s.trail count)).head? =
          some (.ofMark (step^[count] s).device.changing) ↔
        ¬ Misled s.observers.length (s.trail count)) ∧
      (s.device.changing = true → ¬ Misled s.observers.length (s.trail count)) := by
  obtain ⟨count, returned, run, busy, same⟩ := returns found
  refine ⟨count, returned, ?_⟩
  -- it is enough to look at the call when it is the only one
  let alone := { s with tasks := [.call (.attach observer)] }
  have idle : (step^[count] alone).tasks = [] := by
    rw [← run]
    exact tasks_run _
  cases count with
  | zero => cases idle
  | succ count =>
    have attached : Attached s.observers.length alone.step :=
      attached_attach (s := { s with tasks := [] }) rfl scripts sinks
    have stage : Stage s.observers.length (!s.device.changing) alone.step [alone] :=
      stage_attach (s := { s with tasks := [] }) rfl observer [alone]
    obtain ⟨right, honest⟩ := (stage_trail attached stage count).2.of_idle idle
    have trail : s.trail (count + 1) = (alone.trail (count + 1)).map (·.above others) := by
      rw [same]
      exact trail_above (count + 1) busy
    have mark : (step^[count + 1] s).device = (step^[count + 1] alone).device := by
      rw [same, iterate_above (count + 1) busy]
      rfl
    have working : ∀ u ∈ alone.trail (count + 1), u.tasks ≠ [] := by
      intro u mem
      exact busy_of_mem_trail busy mem
    rw [trail, edges_above working others, misled_above working others, mark]
    refine ⟨right, ?_⟩
    intro moving
    apply honest
    rw [moving]
    rfl

/-- An observer that sets a target as soon as it is told of a change. -/
def eager : Observer Script where
  changing := some [[.setTarget (.condition .light) (.scalar 1) .smooth]]
  stabilized := some []
  targetChanged := some []

theorem keeps_eager : eager.All (·.Throughout Call.keepsObserver) := by
  apply Observer.all_of_left
  intro script mem call made
  cases List.mem_singleton.mp mem
  cases List.mem_singleton.mp made
  exact Call.throughout_of_test rfl rfl

/-- It is up to date or misled, also if there is something else to do. -/
theorem upToDate_eager :
    let s := { unused with tasks := [.call (.attach eager), .call .summary] }
    s.tasks = [.call (.attach eager), .call .summary] ∧
      eager.All (·.Throughout Call.keepsObserver) ∧ s.device.sink = none ∧
      ∃ count, s.Returns [.call .summary] count ∧
        ((edges s.observers.length (s.trail count)).head? =
            some (.ofMark (step^[count] s).device.changing) ↔
          ¬ Misled s.observers.length (s.trail count)) ∧
        (s.device.changing = true → ¬ Misled s.observers.length (s.trail count)) := by
  intro s
  exact ⟨rfl, keeps_eager, rfl, upToDate_iff rfl keeps_eager nofun⟩

/-- In fact it is misled: when it has been attached, the light is on its way, and what it was told
    last is that the device has stabilized. -/
theorem stabilized_while_changing :
    unused.Fresh ∧ eager.All (·.Throughout Call.keepsObserver) ∧
      let s := unused.ask (.attach eager)
      s.Returns [] 13 ∧ (step^[13] s).device.changing = true ∧
        edges 0 (s.trail 13) = [.stabilized, .changing, .changing] ∧
        (edges 0 (s.trail 13)).head? ≠ some (.ofMark (step^[13] s).device.changing) := by
  refine ⟨fresh_unused, keeps_eager, ?_⟩
  intro s
  have busy : ∀ k < 13, (step^[k] s).tasks ≠ [] := by decide +kernel
  have done : (step^[13] s).tasks = [] := by decide +kernel
  have moving : (step^[13] s).device.changing = true := by decide +kernel
  have told : edges 0 (s.trail 13) = [.stabilized, .changing, .changing] := by decide +kernel
  refine ⟨⟨done, ?_⟩, moving, told, ?_⟩
  · intro k bound
    exact ⟨(step^[k] s).tasks, busy k bound, (List.append_nil _).symm⟩
  · rw [told, moving]
    decide

end Session

end Sensorium
