import Sensorium.Proofs.Session.Returning

/-!
# Answers

While a call is going on, observers and sinks may work off scripts, and so may those that are let
know by the calls in them. The answers of a script are kept apart from those of the one around it.
So a call that makes changes has its own answer in the end, whatever is answered on the way:
`Owing` says what is left until then, `Interrupted` that scripts may come in between, and
`returns_carryOut` that it comes to the answer.
-/

namespace Sensorium

namespace Task

/-- True for the tasks that end a script. -/
def returns : Task → Bool
  | .leave _ | .resume => true
  | _ => false

/-- True for the tasks that neither answer, nor begin a call, nor end a script. -/
def silent : Task → Bool
  | .mark | .retarget _ _ _ | .clearOverrides | .override _ _ | .advance _ | .tell _ _ => true
  | _ => false

theorem returns_of_silent {task : Task} (h : task.silent = true) : task.returns = false := by
  cases task <;> first | rfl | cases h

end Task

theorem silent_changes (changes : List Change) :
    ∀ task ∈ changes.flatMap Change.tasks, task.silent = true := by
  intro task mem
  obtain ⟨change, -, mem⟩ := List.mem_flatMap.mp mem
  cases change with
  | target p value approach =>
    simp only [Change.tasks, List.mem_cons, List.not_mem_nil, or_false] at mem
    rcases mem with rfl | rfl | rfl <;> rfl
  | override sensor value =>
    simp only [Change.tasks, List.mem_cons, List.not_mem_nil, or_false] at mem
    rcases mem with rfl | rfl <;> rfl

theorem inside_changes (changes : List Change) (answer : Answer) :
    ∀ task ∈ changes.flatMap Change.tasks ++ [.answer answer], task.returns = false := by
  intro task mem
  rcases List.mem_append.mp mem with mem | mem
  · exact Task.returns_of_silent (silent_changes changes task mem)
  · rw [List.mem_singleton.mp mem]
    rfl

namespace Session

/-! ## One step -/

/-- What the first task does to the scripts that are being worked off, if others were to come after
    it and there were some answers, in the script at hand and in those around it. -/
inductive Frames (task : Task) (rest : List Task) (answers : List Answer)
    (outer : List (List Answer)) (t : Session) : Prop
  /-- The script at hand goes on, after what the task leads to. -/
  | stays (front : List Task) (tasks : t.tasks = front ++ rest) (around : t.outer = outer)
      (inside : ∀ other ∈ front, other.returns = false)
      (kept : task.silent = true → t.answers = answers ∧ ∀ other ∈ front, other.silent = true)
  /-- Another script comes before all that. -/
  | enters (script : Script) (back : Task) (front : List Task)
      (tasks : t.tasks = script.map .call ++ back :: (front ++ rest))
      (around : t.outer = answers :: outer) (ends : back.returns = true)
      (inside : ∀ other ∈ front, other.returns = false) (kept : task.silent = true → front = [])
  /-- The script at hand has ended. -/
  | leaves (ends : task.returns = true) (tasks : t.tasks = rest)
      (here : t.answers = outer.headD []) (around : t.outer = outer.tail)

variable {s t : Session} {task : Task} {rest : List Task} {answers : List Answer}
  {outer : List (List Answer)}

/-- A silent task may lead to others. -/
theorem Frames.of_silent (front : List Task) (tasks : t.tasks = front ++ rest)
    (around : t.outer = outer) (here : t.answers = answers)
    (silent : ∀ other ∈ front, other.silent = true) : Frames task rest answers outer t :=
  .stays front tasks around (fun other mem => Task.returns_of_silent (silent other mem))
    fun _ => ⟨here, silent⟩

/-- A task that is not silent may answer, and lead to any tasks but the end of a script. -/
theorem Frames.of_not_silent (front : List Task) (loud : task.silent = false)
    (tasks : t.tasks = front ++ rest) (around : t.outer = outer)
    (inside : ∀ other ∈ front, other.returns = false) : Frames task rest answers outer t := by
  refine .stays front tasks around inside ?_
  intro silent
  rw [loud] at silent
  cases silent

variable (s)

theorem frames_attach (observer : Observer Script) :
    Frames (.call (.attach observer)) s.tasks s.answers s.outer (s.attach observer) := by
  refine .of_not_silent _ rfl rfl rfl ?_
  intro other mem
  split at mem <;> simp only [List.cons_append, List.nil_append, List.mem_cons,
    List.not_mem_nil, or_false] at mem
  · rcases mem with rfl | rfl | rfl <;> rfl
  · rcases mem with rfl | rfl | rfl | rfl <;> rfl

theorem frames_begin (call : Call) :
    Frames (.call call) s.tasks s.answers s.outer (s.begin call) := by
  have begun := s.begins_begin call
  generalize s.begin call = next at begun
  cases begun with
  | reads | configures | attachesSink => exact .of_not_silent [] rfl rfl rfl nofun
  | changes => exact .of_not_silent _ rfl rfl rfl (inside_changes _ _)
  | @records _ id event answer =>
    rcases (s.carryOut (s.plan call) answer).record_cases id event with
      noted | ⟨script, rest, -, entered⟩
    · rw [noted]
      exact .of_not_silent _ rfl rfl rfl (inside_changes _ _)
    · rw [entered]
      exact .enters script .resume _ rfl rfl rfl (inside_changes _ _) nofun
  | advances | settles => exact .of_not_silent _ rfl rfl rfl (by simp [Task.returns])
  | attaches => exact s.frames_attach _

theorem frames_announce (device : Device) (due : Option Notice) :
    Frames task s.tasks s.answers s.outer ({ s with device }.announce due) := by
  rcases { s with device }.announce_cases due with ⟨-, same⟩ | ⟨notice, id, -, -, told⟩
  · rw [same]
    exact .of_silent [] rfl rfl rfl nofun
  · rw [told]
    exact .of_silent _ rfl rfl rfl (by simp [Task.silent])

theorem frames_tell (id : ObserverId) (notice : Notice) :
    Frames (.tell id notice) s.tasks s.answers s.outer (s.tell id notice) := by
  rcases s.tell_cases id notice with same | noted | ⟨observer, script, rest, -, -, entered⟩
  · rw [same]
    exact .of_silent [] rfl rfl rfl nofun
  · rw [noted]
    exact .of_silent [] rfl rfl rfl nofun
  · rw [entered]
    exact .enters script (.leave notice) [] rfl rfl rfl nofun fun _ => rfl

theorem frames_perform (task : Task) :
    Frames task s.tasks s.answers s.outer (s.perform task) := by
  cases task with
  | call call => exact s.frames_begin call
  | tell id notice => exact s.frames_tell id notice
  | mark => exact s.frames_announce s.device.markChanging.1 _
  | clearOverrides => exact s.frames_announce s.device.clearOverrides _
  | advance now => exact s.frames_announce (s.device.advance now).1 _
  | retarget p value approach => exact .of_silent [] rfl rfl rfl nofun
  | override sensor value => exact .of_silent [] rfl rfl rfl nofun
  | answer answer => exact .of_not_silent [] rfl rfl rfl nofun
  | leave notice => exact .leaves rfl rfl rfl rfl
  | resume => exact .leaves rfl rfl rfl rfl
  | settle now step rounds limit =>
    simp only [perform]
    split
    · exact .of_not_silent _ rfl rfl rfl (by simp [Task.returns])
    · exact .of_not_silent [] rfl rfl rfl nofun

variable {s}

theorem frames_step (found : s.tasks = task :: rest) :
    Frames task rest s.answers s.outer s.step := by
  rw [step_of_tasks found]
  exact { s with tasks := rest }.frames_perform task

/-- The end of a script is the end of nothing else. -/
theorem step_of_returns {back : Task} (ends : back.returns = true)
    (found : s.tasks = back :: rest) :
    s.step.tasks = rest ∧ s.step.answers = s.outer.headD [] ∧ s.step.outer = s.outer.tail := by
  rw [step_of_tasks found]
  cases back <;> first | exact ⟨rfl, rfl, rfl⟩ | cases ends

/-! ## Scripts in between -/

/-- Something holds of what is to be done and of what has been answered, in the script at hand and
    in those around it; or it does when a script has been worked off that was begun then, and all
    those that were begun in the midst of it. -/
inductive Interrupted (holds : List Task → List Answer → List (List Answer) → Prop) :
    List Task → List Answer → List (List Answer) → Prop
  | here {tasks : List Task} {answers : List Answer} {outer : List (List Answer)}
      (h : holds tasks answers outer) : Interrupted holds tasks answers outer
  /-- A script is worked off first. -/
  | within {tasks : List Task} {answers : List Answer} {outer : List (List Answer)}
      (front : List Task) (back : Task) (inner : List Answer)
      (inside : ∀ task ∈ front, task.returns = false) (ends : back.returns = true)
      (below : Interrupted holds tasks answers outer) :
      Interrupted holds (front ++ back :: tasks) inner (answers :: outer)

variable {holds : List Task → List Answer → List (List Answer) → Prop} {inner : List Answer}

/-- A step of a script leaves what it was begun in front of as it is. -/
theorem interrupted_step_of_within {front below : List Task} {back : Task}
    (inside : ∀ task ∈ front, task.returns = false) (ends : back.returns = true)
    (h : Interrupted holds below inner outer) (tasks : s.tasks = front ++ back :: below)
    (out : s.outer = inner :: outer) :
    Interrupted holds s.step.tasks s.step.answers s.step.outer := by
  cases front with
  | nil =>
    obtain ⟨tasks', here', around'⟩ := step_of_returns ends tasks
    rw [tasks', here', around', out]
    exact h
  | cons task front =>
    obtain ⟨first, others⟩ := List.forall_mem_cons.mp inside
    have frames : Frames task (front ++ back :: below) s.answers s.outer s.step :=
      frames_step tasks
    cases frames with
    | stays more tasks' around' apart =>
      rw [tasks', around', out, ← List.append_assoc]
      exact .within _ back _ (List.forall_mem_append.mpr ⟨apart, others⟩) ends h
    | enters script back' more tasks' around' ends' apart =>
      have lower := Interrupted.within (more ++ front) back s.answers
        (List.forall_mem_append.mpr ⟨apart, others⟩) ends h
      rw [tasks', around', out, ← List.append_assoc more]
      exact .within _ back' _ (by simp [Task.returns]) ends' lower
    | leaves returns =>
      rw [first] at returns
      cases returns

/-- With nothing left to do, no script is being worked off. -/
theorem Interrupted.of_idle (h : Interrupted holds [] answers outer) : holds [] answers outer := by
  generalize none : ([] : List Task) = left at h ⊢
  cases h with
  | here h => exact h
  | within front back inner inside ends below => simp at none

/-! ## All steps of a call -/

/-- What is to be done and what has been answered when a call owes an answer or has given it. It
    was called when the answers were `given`, in a script with others `around` it. -/
inductive Owing (answer : Answer) (given : List Answer) (around : List (List Answer)) :
    List Task → List Answer → List (List Answer) → Prop
  /-- The answer comes after tasks that give none. -/
  | due (parts : List Task) (silent : ∀ part ∈ parts, part.silent = true) :
      Owing answer given around (parts ++ [.answer answer]) given around
  /-- The answer has been given. -/
  | paid : Owing answer given around [] (answer :: given) around

/-- The answer is still owed, or has been given. -/
def Owes (s : Session) (answer : Answer) (given : List Answer) (around : List (List Answer)) :
    Prop :=
  Interrupted (Owing answer given around) s.tasks s.answers s.outer

variable {answer : Answer} {given : List Answer} {around : List (List Answer)}

theorem owes_step_of_due {parts : List Task} (silent : ∀ part ∈ parts, part.silent = true)
    (tasks : s.tasks = parts ++ [.answer answer]) (here : s.answers = given)
    (out : s.outer = around) : s.step.Owes answer given around := by
  cases parts with
  | nil =>
    rw [step_of_tasks tasks]
    simp only [Owes, perform, reply, here, out]
    exact .here .paid
  | cons part parts =>
    obtain ⟨quiet, others⟩ := List.forall_mem_cons.mp silent
    have frames : Frames part (parts ++ [.answer answer]) s.answers s.outer s.step :=
      frames_step tasks
    cases frames with
    | stays front tasks' around' inside kept =>
      obtain ⟨same, more⟩ := kept quiet
      rw [Owes, tasks', around', same, here, out, ← List.append_assoc]
      exact .here (.due (front ++ parts) (List.forall_mem_append.mpr ⟨more, others⟩))
    | enters script back front tasks' around' ends inside alone =>
      rw [Owes, tasks', around', alone quiet, here, out]
      exact .within _ back _ (by simp [Task.returns]) ends (.here (.due parts others))
    | leaves ends =>
      rw [Task.returns_of_silent quiet] at ends
      cases ends

/-- Whatever a step does, the answer is not lost. -/
theorem Owes.step (h : s.Owes answer given around) : s.step.Owes answer given around := by
  unfold Owes at h
  generalize tasks : s.tasks = left, here : s.answers = answers, out : s.outer = outer at h
  cases h with
  | within front back inner inside ends below =>
    exact interrupted_step_of_within inside ends below tasks out
  | here h =>
    cases h with
    | due parts silent => exact owes_step_of_due silent tasks here out
    | paid =>
      rw [step_of_no_tasks tasks, Owes, tasks, here, out]
      exact .here .paid

theorem Owes.iterate (h : s.Owes answer given around) (count : Nat) :
    (Session.step^[count] s).Owes answer given around := by
  induction count with
  | zero => exact h
  | succ count ih =>
    rw [Function.iterate_succ_apply']
    exact ih.step

/-- With nothing left to do, the answer is there. -/
theorem Owes.of_idle (h : s.Owes answer given around) (idle : s.tasks = []) :
    s.answers = answer :: given ∧ s.outer = around := by
  rw [Owes, idle] at h
  have owing := h.of_idle
  generalize none : ([] : List Task) = left, s.answers = answers, s.outer = outer at owing ⊢
  cases owing with
  | paid => exact ⟨rfl, rfl⟩
  | due parts silent => simp at none

theorem owes_step_of_begin {call : Call} {changes : List Change}
    (begun : { s with tasks := [] }.begin call = { s with tasks := [] }.carryOut changes answer)
    (tasks : s.tasks = [.call call]) : s.step.Owes answer s.answers s.outer := by
  rw [step_of_tasks tasks, perform, begun, Owes]
  simp only [carryOut, first, List.append_nil]
  exact .here (.due _ (silent_changes changes))

/-- A call that makes changes returns with its answer, also in the midst of others, and whatever
    observers and sinks do. -/
theorem returns_carryOut {call : Call} {others : List Task} {changes : List Change}
    (found : s.tasks = .call call :: others)
    (begun : { s with tasks := [] }.begin call = { s with tasks := [] }.carryOut changes answer) :
    ∃ count, s.Returns others count ∧ (Session.step^[count] s).answers = answer :: s.answers ∧
      (Session.step^[count] s).outer = s.outer := by
  obtain ⟨count, returned, run, busy, same⟩ := returns found
  generalize alone_eq : { s with tasks := [.call call] } = alone at run busy same
  have owed : alone.step.Owes answer s.answers s.outer := by
    subst alone_eq
    exact owes_step_of_begin begun rfl
  have idle : (Session.step^[count] alone).tasks = [] := by rw [← run, tasks_run]
  cases count with
  | zero =>
    subst alone_eq
    cases idle
  | succ count =>
    have after : (Session.step^[count + 1] alone).Owes answer s.answers s.outer :=
      owed.iterate count
    have there : Session.step^[count + 1] s = (Session.step^[count + 1] alone).above others := by
      conv_lhs => rw [same, iterate_above _ busy]
    refine ⟨count + 1, returned, ?_⟩
    rw [there]
    exact after.of_idle idle

end Session

end Sensorium
