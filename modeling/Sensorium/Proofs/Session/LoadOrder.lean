import Sensorium.Proofs.Record.Events
import Sensorium.Proofs.Session.Passive

/-!
# Saved states in any order

Loading a saved state takes one event after the other. Events about different parameters
change different parts of a device, and those about position and velocity, which share one
motion, wait until all the others are done. So only the order among the events about one
parameter matters.
-/

namespace Sensorium

/-! ## Folds in another order -/

section

variable {σ α κ : Type} [DecidableEq κ] {f : σ → α → σ}

/-- An item that may change places with all before it may come first. -/
theorem foldl_move {x : α} (before after : List α)
    (commutes : ∀ y ∈ before, ∀ s, f (f s x) y = f (f s y) x) (s : σ) :
    (before ++ x :: after).foldl f s = (before ++ after).foldl f (f s x) := by
  induction before generalizing s with
  | nil => rfl
  | cons y rest ih =>
    rw [List.cons_append, List.foldl_cons, ih fun z mem => commutes z (List.mem_cons_of_mem _ mem)]
    rw [List.cons_append, List.foldl_cons, commutes y List.mem_cons_self]

/-- Two lists that agree on the order of items with the same key come to the same, if items
    with different keys may change places. -/
theorem foldl_eq_of_filter_eq (key : α → κ) (xs ys : List α)
    (commutes : ∀ x ∈ xs, ∀ y ∈ ys, key x ≠ key y → ∀ s, f (f s x) y = f (f s y) x)
    (same : ∀ k, xs.filter (key · = k) = ys.filter (key · = k)) (s : σ) :
    xs.foldl f s = ys.foldl f s := by
  induction xs generalizing ys s with
  | nil =>
    cases ys with
    | nil => rfl
    | cons y rest =>
      have none := same (key y)
      simp at none
  | cons x rest ih =>
    have mine := same (key x)
    rw [List.filter_cons_of_pos (by simp)] at mine
    obtain ⟨before, after, rfl, others, -, left⟩ := List.filter_eq_cons_iff.mp mine.symm
    have apart : ∀ y ∈ before, key x ≠ key y := by
      intro y mem equal
      apply others y mem
      simp [equal]
    rw [List.foldl_cons, foldl_move before after]
    · apply ih
      · intro z hz y hy
        apply commutes z (List.mem_cons_of_mem _ hz)
        rcases List.mem_append.mp hy with hy | hy
        · exact List.mem_append_left _ hy
        · exact List.mem_append_right _ (List.mem_cons_of_mem _ hy)
      · intro k
        by_cases equal : key x = k
        · subst equal
          have none : before.filter (key · = key x) = [] := by
            rw [List.filter_eq_nil_iff]
            exact others
          rw [List.filter_append, none, left, List.nil_append]
        · have whole := same k
          rw [List.filter_append, List.filter_cons_of_neg (by simpa using equal),
            List.filter_cons_of_neg (by simpa using equal)] at whole
          rw [List.filter_append]
          exact whole
    · intro y mem
      exact commutes x List.mem_cons_self y (List.mem_append_left _ mem) (apart y mem)

/-- Two such lists hold the same items. -/
theorem perm_of_filter_eq [DecidableEq α] (key : α → κ) {xs ys : List α}
    (same : ∀ k, xs.filter (key · = k) = ys.filter (key · = k)) : xs.Perm ys := by
  rw [List.perm_iff_count]
  intro x
  have among (zs : List α) : zs.count x = (zs.filter (key · = key x)).count x := by
    rw [List.count_filter]
    simp
  rw [among xs, among ys, same]

end

/-! ## Changes in another order -/

/-- What a parameter moves: position and velocity share one motion, and every other parameter
    has something of its own. -/
def Parameter.group : Parameter → Parameter
  | .velocity => .position
  | p => p

def Change.group : Change → Option Parameter
  | .target p _ _ => some p.group
  | .override _ _ => none

theorem Conditions.set_comm {α : Type} (items : Conditions α) {c d : Condition} (other : c ≠ d)
    (x y : α) : (items.set c x).set d y = (items.set d y).set c x := by
  cases c <;> cases d <;> first | rfl | exact (other rfl).elim

theorem Surroundings.setCondition_comm (s : Surroundings) {c d : Condition} (other : c ≠ d)
    (x y : Single) (a b : Approach) :
    (s.setCondition c x a).setCondition d y b = (s.setCondition d y b).setCondition c x a := by
  simp only [setCondition, Conditions.get_set, if_neg other, if_neg other.symm,
    Conditions.set_comm s.conditions other]
  rfl

namespace Device

/-- New targets of parameters that share nothing may change places. -/
theorem make_comm (d : Device) {p q : Parameter} (other : p.group ≠ q.group) (v w : Value)
    (a b : Approach) :
    (d.make (.target p v a)).make (.target q w b) =
      (d.make (.target q w b)).make (.target p v a) := by
  cases p <;> cases q
  case condition.condition c c' =>
    have apart : c ≠ c' := by
      rintro rfl
      exact other rfl
    have both := d.surroundings.setCondition_comm apart v.toScalar w.toScalar a b
    simp only [make, marked, retarget, clearOverrides, both]
  all_goals
    first
    | exact (other rfl).elim
    | rfl
    | cases a <;> rfl
    | cases b <;> rfl

end Device

namespace Session

variable {s : Session}

/-- What a second change of a target adds to the first. -/
theorem make_make (s : Session) (first : Change) (q : Parameter) (w : Value) (b : Approach) :
    (s.make first).make (.target q w b) =
      { ((s.device.notices first).foldl hear s).hear .targetChanged with
        device := (s.device.make first).make (.target q w b) } := by
  let told := (s.device.notices first).foldl hear s
  have same : (s.device.make first).observer = told.device.observer := by
    rw [device_foldl_hear, Device.observer_make]
  have edge : (s.device.make first).edge = [] := by
    rw [Device.edge, Device.changing_make]
    rfl
  have due : (s.make first).device.notices (.target q w b) = [.targetChanged] := by
    change (s.device.make first).edge ++ _ = _
    rw [edge, List.nil_append]
  have heard := hear_with told same told.tasks .targetChanged
  obtain ⟨observers, log, later⟩ := told.hear_eq .targetChanged
  rw [later] at heard ⊢
  rw [make, due]
  exact congrArg (fun t : Session =>
    { t with device := (s.device.make first).make (.target q w b) }) heard

/-- Changes of targets that share nothing may change places: not even an observer can tell. -/
theorem make_comm (s : Session) {p q : Parameter} (other : p.group ≠ q.group) (v w : Value)
    (a b : Approach) :
    (s.make (.target p v a)).make (.target q w b) =
      (s.make (.target q w b)).make (.target p v a) := by
  rw [make_make, make_make, s.device.make_comm other]
  rfl

end Session

/-! ## Events in another order -/

/-- In both lists the events about each number are the same and in the same order. -/
def SameByNumber (xs ys : List Event) : Prop :=
  ∀ n, xs.filter (·.number = n) = ys.filter (·.number = n)

theorem SameByNumber.filter_parameter? {xs ys : List Event} (same : SameByNumber xs ys)
    (p : Parameter) :
    xs.filter (·.parameter? = some p) = ys.filter (·.parameter? = some p) := by
  simp only [Event.parameter?, Parameter.ofNumber?_eq_some_iff]
  exact same p.index

namespace SavedState

/-- An event that is made in its turn changes targets of the parameter that it is about. -/
theorem mem_immediate {event : Event} {change : Change} (mem : change ∈ immediate event) :
    ∃ p value approach, change = .target p value approach ∧ event.parameter? = some p ∧
      p.group = p := by
  unfold immediate at mem
  cases about : event.parameter? with
  | none => simp [about, Event.plan] at mem
  | some p =>
    have target : change ∈ event.plan ∧ p.group = p := by
      cases p <;> simp only [about, List.not_mem_nil] at mem <;> exact ⟨mem, rfl⟩
    obtain ⟨mem, alone⟩ := target
    simp only [Event.plan, about] at mem
    obtain ⟨⟨value, approach⟩, -, rfl⟩ := List.mem_map.mp mem
    exact ⟨p, value, approach, rfl, rfl, alone⟩

/-- The immediate changes about a parameter are those of the events about it. -/
theorem filter_flatMap_immediate (events : List Event) (p : Parameter) :
    (events.flatMap immediate).filter (·.group = some p) =
      (events.filter (·.parameter? = some p)).flatMap immediate := by
  induction events with
  | nil => rfl
  | cons event rest ih =>
    rw [List.flatMap_cons, List.filter_append, ih]
    by_cases about : event.parameter? = some p
    · rw [List.filter_cons_of_pos (by simpa using about), List.flatMap_cons,
        List.filter_eq_self.mpr]
      intro change mem
      obtain ⟨q, value, approach, rfl, found, alone⟩ := mem_immediate mem
      rw [about] at found
      cases found
      simpa [Change.group] using alone
    · rw [List.filter_cons_of_neg (by simpa using about), List.filter_eq_nil_iff.mpr,
        List.nil_append]
      intro change mem
      obtain ⟨q, value, approach, rfl, found, alone⟩ := mem_immediate mem
      simp only [Change.group, alone, decide_eq_true_eq, Option.some.injEq]
      rintro rfl
      exact about found

theorem filter_group_none (events : List Event) :
    (events.flatMap immediate).filter (·.group = none) = [] := by
  apply List.filter_eq_nil_iff.mpr
  intro change mem
  obtain ⟨event, -, mem⟩ := List.mem_flatMap.mp mem
  obtain ⟨p, value, approach, rfl, -, -⟩ := mem_immediate mem
  simp [Change.group]

variable {a b : SavedState}

theorem lastVector_eq (same : SameByNumber a.events b.events) (p : Parameter)
    (slot : Event → Parameter → Option Value) : a.lastVector p slot = b.lastVector p slot := by
  unfold lastVector
  rw [same.filter_parameter? p]

/-- Two saved states with the same events for each number come to the same changes, up to the
    order in which targets that share nothing are changed. -/
theorem foldl_plan_eq (same : SameByNumber a.events b.events) (s : Session) :
    a.plan.foldl Session.make s = b.plan.foldl Session.make s := by
  have immediate : (a.events.flatMap immediate).foldl Session.make s =
      (b.events.flatMap immediate).foldl Session.make s := by
    apply foldl_eq_of_filter_eq Change.group
    · intro x hx y hy other s
      obtain ⟨_, _, hx⟩ := List.mem_flatMap.mp hx
      obtain ⟨_, _, hy⟩ := List.mem_flatMap.mp hy
      obtain ⟨p, v, approach, rfl, -, -⟩ := mem_immediate hx
      obtain ⟨q, w, other', rfl, -, -⟩ := mem_immediate hy
      apply s.make_comm
      intro equal
      exact other (congrArg some equal)
    · intro group
      cases group with
      | some p => rw [filter_flatMap_immediate, filter_flatMap_immediate, same.filter_parameter?]
      | none => rw [filter_group_none, filter_group_none]
  simp only [plan, List.foldl_append, lastVector_eq same, immediate]

end SavedState

namespace Session

/-- Loading a saved state does not depend on the order of events about different parameters:
    everything is as it would be with the other order, the device, what the observer has noted
    and what it will do. -/
theorem respond_loadState_eq {s : Session} (passive : s.ObserverPassive) {a b : SavedState}
    (same : SameByNumber a.events b.events) :
    s.respond (.loadState (.state a)) = s.respond (.loadState (.state b)) := by
  have loaded (state : SavedState) : (s.ask (.loadState (.state state))).run =
      (state.plan.foldl make s.cleared).reply .done := run_ask_of_carryOut passive rfl
  simp only [respond, loaded, SavedState.foldl_plan_eq same]

/-- Events about light, about position, and about no parameter. -/
def someEvents : List Event :=
  [⟨6, some [2], none⟩, ⟨0, some [1, 2, 1], some [1]⟩, ⟨6, none, some [1]⟩, ⟨99, some [1], none⟩]

/-- The same events, with those about light still in the same order. -/
def shuffledEvents : List Event :=
  [⟨99, some [1], none⟩, ⟨6, some [2], none⟩, ⟨6, none, some [1]⟩, ⟨0, some [1, 2, 1], some [1]⟩]

theorem respond_loadState_shuffled :
    watched.ObserverPassive ∧ SameByNumber someEvents shuffledEvents ∧
      watched.respond (.loadState (.state ⟨5, someEvents⟩)) =
        watched.respond (.loadState (.state ⟨0, shuffledEvents⟩)) := by
  have same : SameByNumber someEvents shuffledEvents := by
    intro n
    by_cases light : n = 6
    · subst light
      decide
    · by_cases position : n = 0
      · subst position
        decide
      · by_cases unknown : n = 99
        · subst unknown
          decide
        · simp [someEvents, shuffledEvents, eq_comm, light, position, unknown]
  refine ⟨observerPassive_watched, same, ?_⟩
  exact respond_loadState_eq observerPassive_watched same

end Session

end Sensorium
