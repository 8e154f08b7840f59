import Sensorium.Device.Change
import Sensorium.Proofs.Record.SnapshotRoundTrip

/-!
# Events about parameters

A parameter is found again by its number, and a value by its components. So an event that was
made for a parameter and values of its kind says just what it was made for.
-/

namespace Sensorium

theorem Parameter.getElem_all_index (p : Parameter) : all[p.index]? = some p := by
  cases p with
  | condition c => cases c <;> rfl
  | _ => rfl

theorem Parameter.ofNumber?_eq_some_iff {n : Int} {p : Parameter} :
    ofNumber? n = some p ↔ n = p.index := by
  constructor
  · intro found
    cases n with
    | negSucc k => cases found
    | ofNat k =>
      change all[k]? = some p at found
      have bound : k < all.length := (List.getElem?_eq_some_iff.mp found).1
      have nodup : all.Nodup := by decide
      have same : k = p.index :=
        (List.getElem?_inj bound nodup).mp (found.trans p.getElem_all_index.symm)
      rw [same]
      rfl
  · rintro rfl
    exact p.getElem_all_index

theorem Value.ofList_toList (value : Value) : ofList value.kind value.toList = value := by
  cases value <;> rfl

namespace Event

variable {p : Parameter}

/-- Playing back the event of a target sets that target, and nothing else. -/
theorem plan_ofTarget {value : Value} (kind : value.kind = p.kind) (approach : Approach) :
    (ofTarget p value approach).plan = [.target p value approach] := by
  have found : Parameter.ofNumber? p.index = some p := Parameter.ofNumber?_eq_some_iff.mpr rfl
  have read : Value.ofList p.kind value.toList = value := by rw [← kind, Value.ofList_toList]
  cases approach <;>
    simp only [ofTarget, plan, parameter?, found, changes, currentAs, targetAs, Option.map_some,
      Option.map_none, Option.toList_some, Option.toList_none, List.append_nil, List.nil_append,
      List.map_cons, List.map_nil, read]

theorem parameter?_ofValues (p : Parameter) (current target : Value) :
    (ofValues p current target).parameter? = some p :=
  Parameter.ofNumber?_eq_some_iff.mpr rfl

variable {current target : Value}

theorem currentAs_ofValues (kind : current.kind = p.kind) :
    (ofValues p current target).currentAs p = some current := by
  rw [currentAs, ofValues, Option.map_some, ← kind, Value.ofList_toList]

theorem targetAs_ofValues (kind : target.kind = p.kind) :
    (ofValues p current target).targetAs p = some target := by
  rw [targetAs, ofValues, Option.map_some, ← kind, Value.ofList_toList]

/-- Playing back the event of two values puts the first in place and approaches the second. -/
theorem plan_ofValues (current_kind : current.kind = p.kind) (target_kind : target.kind = p.kind) :
    (ofValues p current target).plan = [.target p current .step, .target p target .smooth] := by
  simp only [plan, parameter?_ofValues, changes, currentAs_ofValues current_kind,
    targetAs_ofValues target_kind, Option.map_some, Option.toList_some, List.cons_append,
    List.nil_append, List.map_cons, List.map_nil]

end Event

namespace SavedState

/-- Of the events about two values, those about position and velocity have to wait. -/
theorem immediate_ofValues {p : Parameter} {still target : Value}
    (still_kind : still.kind = p.kind) (target_kind : target.kind = p.kind) :
    immediate (.ofValues p still target) =
      if p = .position ∨ p = .velocity then []
      else [.target p still .step, .target p target .smooth] := by
  have plan := Event.plan_ofValues still_kind target_kind
  rw [immediate, Event.parameter?_ofValues]
  cases p with
  | position | velocity => rfl
  | _ => exact plan

variable {s : SavedState} {still target : Parameter → Value}
  (saved : s.events = Parameter.all.map fun p => .ofValues p (still p) (target p))
include saved

/-- A state with one event for every parameter has one about each. -/
theorem filter_parameter? (p : Parameter) :
    s.events.filter (·.parameter? = some p) = [.ofValues p (still p) (target p)] := by
  have only : Parameter.all.filter (· = p) = [p] := by
    cases p with
    | condition c => cases c <;> rfl
    | _ => rfl
  rw [saved, List.filter_map]
  simp only [Function.comp_def, Event.parameter?_ofValues, Option.some.injEq, only, List.map_cons,
    List.map_nil]

theorem lastVector_current {p : Parameter} (kind : (still p).kind = p.kind) :
    s.lastVector p Event.currentAs = (still p).toVector := by
  simp only [lastVector, filter_parameter? saved, List.filterMap_cons,
    Event.currentAs_ofValues kind]
  rfl

theorem lastVector_target {p : Parameter} (kind : (target p).kind = p.kind) :
    s.lastVector p Event.targetAs = (target p).toVector := by
  simp only [lastVector, filter_parameter? saved, List.filterMap_cons,
    Event.targetAs_ofValues kind]
  rfl

end SavedState

end Sensorium
