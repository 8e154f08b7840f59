import Sensorium.Record.Trace

/-!
# Trace files

What becomes of one file when another one is written, and where a path leads: to the same file
as long as the directories are the same. The text of a number holds no blank, so a line of a trace
falls apart into its fields again.
-/

namespace Sensorium

namespace FileTree

variable {tree other : FileTree} {location target : Location} {path : String}

/-! ## Writing -/

theorem get?_put_self (node : Node) (h : location ≠ []) :
    (tree.put location node).get? location = some node := by
  have gone : (tree.nodes.filter (·.1 ≠ location)).find? (·.1 = location) = none := by
    rw [List.find?_eq_none]
    intro item mem here
    exact of_decide_eq_true (List.mem_filter.mp mem).2 (of_decide_eq_true here)
  rw [get?, if_neg h, put, List.find?_append, gone]
  simp

theorem get?_put_other (node : Node) (h : location ≠ target) :
    (tree.put target node).get? location = tree.get? location := by
  have kept : (tree.nodes.filter (·.1 ≠ target)).find? (·.1 = location) =
      tree.nodes.find? (·.1 = location) := by
    rw [List.find?_filter]
    congr 1
    funext item
    by_cases here : item.1 = location <;> simp [here, h]
  have missed : [(target, node)].find? (·.1 = location) = none := by simp [h.symm]
  simp only [get?, put, List.find?_append, kept, missed, Option.or_none]

/-- Files were written at most: everything that is no text file is the same. -/
def Rewritten (tree other : FileTree) : Prop :=
  ∀ location node, (∀ lines, node ≠ .text lines) →
    (other.get? location = some node ↔ tree.get? location = some node)

theorem Rewritten.refl (tree : FileTree) : tree.Rewritten tree := fun _ _ _ => Iff.rfl

theorem Rewritten.symm (h : tree.Rewritten other) : other.Rewritten tree :=
  fun location node special => (h location node special).symm

theorem Rewritten.trans {last : FileTree} (h : tree.Rewritten other) (h' : other.Rewritten last) :
    tree.Rewritten last :=
  fun location node special => (h' location node special).trans (h location node special)

/-- A text file may be made or written where there is nothing else. -/
theorem rewritten_put (lines : List String) (directory : tree.get? location ≠ some .directory)
    (device : tree.get? location ≠ some .fullDevice) :
    tree.Rewritten (tree.put location (.text lines)) := by
  intro place node special
  by_cases here : place = location
  · subst here
    have nonempty : place ≠ [] := by
      rintro rfl
      exact directory rfl
    rw [get?_put_self _ nonempty]
    constructor
    · intro same
      exact (special lines (Option.some.inj same).symm).elim
    · intro before
      cases node with
      | directory => exact (directory before).elim
      | text lines' => exact (special lines' rfl).elim
      | fullDevice => exact (device before).elim
  · rw [get?_put_other _ here]

theorem get?_appendLine_self {lines : List String}
    (found : tree.get? location = some (.text lines)) (line : String) :
    (tree.appendLine location line).get? location = some (.text (lines ++ [line])) := by
  have nonempty : location ≠ [] := by
    rintro rfl
    cases found
  rw [appendLine, found]
  exact get?_put_self _ nonempty

theorem rewritten_appendLine (tree : FileTree) (location : Location) (line : String) :
    tree.Rewritten (tree.appendLine location line) := by
  unfold appendLine
  split
  · rename_i lines found
    apply rewritten_put <;> rw [found] <;> nofun
  · exact .refl tree

theorem get?_appendLine_other (line : String) (h : location ≠ target) :
    (tree.appendLine target line).get? location = tree.get? location := by
  unfold appendLine
  split
  · exact get?_put_other _ h
  · rfl

/-! ## Finding -/

/-- Names lead to the same directory as long as the directories are the same. -/
theorem walk_of_rewritten (h : tree.Rewritten other) {base directory : Location}
    {names : List String} (found : tree.walk base names = .ok directory) :
    other.walk base names = .ok directory := by
  fun_induction walk tree base names with
  | case1 base => exact found
  | case2 base rest ih => exact ih found
  | case3 base rest ih => exact ih found
  | case4 base name rest here up long => cases found
  | case5 base name rest here up long entered ih =>
    rw [walk.eq_4 _ _ _ _ here up, if_neg long, (h _ .directory nofun).mpr entered]
    exact ih found
  | case6 base name rest here up long node other => cases found
  | case7 base name rest here up long none => cases found

/-- The names in a path. -/
def names (path : String) : List String := (path.splitOn "/").filter (· ≠ "")

/-- What is known of a location that was found: it is a name in a directory, and no directory
    itself. -/
theorem locate_eq_ok (found : tree.locate path = .ok location) :
    ∃ directory name, tree.walk [] (names path).dropLast = .ok directory ∧
      (names path).getLast? = some name ∧ location = directory ++ [name] ∧
      tree.get? location ≠ some .directory := by
  simp only [locate, bind, Except.bind, pure, Except.pure, throw, throwThe,
    MonadExceptOf.throw] at found
  split at found
  · cases found
  · split at found
    · cases found
    · split at found
      · cases found
      · rename_i directory walked
        split at found
        · cases found
        · cases found
        · cases found
        · rename_i name _ _ last
          split at found
          · cases found
          · split at found
            · cases found
            · split at found
              · cases found
              · rename_i free
                cases found
                exact ⟨directory, name, walked, last, rfl, free⟩

theorem ne_nil_of_locate (found : tree.locate path = .ok location) : location ≠ [] := by
  obtain ⟨directory, name, -, -, rfl, -⟩ := locate_eq_ok found
  exact List.append_ne_nil_of_right_ne_nil _ (List.cons_ne_nil _ _)

/-- A path leads to one file only, as long as the directories are the same. -/
theorem locate_unique (h : tree.Rewritten other) (found : tree.locate path = .ok location)
    (later : other.locate path = .ok target) : target = location := by
  obtain ⟨directory, name, walked, last, rfl, -⟩ := locate_eq_ok found
  obtain ⟨directory', name', walked', last', rfl, -⟩ := locate_eq_ok later
  rw [walk_of_rewritten h walked] at walked'
  rw [last] at last'
  cases walked'
  cases last'
  rfl

/-- A file that is opened for writing is empty then, unless it is a device. -/
theorem create_eq_ok (created : tree.create path = .ok (other, location)) :
    tree.locate path = .ok location ∧
      (tree.get? location = some .fullDevice ∧ other = tree ∨
        tree.get? location ≠ some .fullDevice ∧ other = tree.put location (.text [])) := by
  simp only [create, bind, Except.bind] at created
  split at created
  · cases created
  · rename_i place located
    split at created
    · rename_i device
      cases created
      exact ⟨located, .inl ⟨device, rfl⟩⟩
    · rename_i other
      cases created
      exact ⟨located, .inr ⟨other, rfl⟩⟩

theorem get?_create_self (created : tree.create path = .ok (other, location))
    (device : tree.get? location ≠ some .fullDevice) :
    other.get? location = some (.text []) := by
  obtain ⟨located, ⟨full, -⟩ | ⟨-, rfl⟩⟩ := create_eq_ok created
  · exact (device full).elim
  · exact get?_put_self _ (ne_nil_of_locate located)

theorem get?_create_other (created : tree.create path = .ok (other, target))
    (h : location ≠ target) : other.get? location = tree.get? location := by
  obtain ⟨-, ⟨-, rfl⟩ | ⟨-, rfl⟩⟩ := create_eq_ok created
  · rfl
  · exact get?_put_other _ h

theorem rewritten_create (created : tree.create path = .ok (other, location)) :
    tree.Rewritten other := by
  obtain ⟨located, ⟨-, rfl⟩ | ⟨device, rfl⟩⟩ := create_eq_ok created
  · exact .refl _
  · obtain ⟨-, -, -, -, -, free⟩ := locate_eq_ok located
    exact rewritten_put [] free device

end FileTree

theorem Recorder.start_eq_ok {places : Places} {tree other : FileTree} {path : String}
    {recorder : Recorder} (started : start places tree path = .ok (other, recorder)) :
    recorder.path = places.resolve path ∧
      tree.create recorder.path = .ok (other, recorder.location) := by
  simp only [start] at started
  split at started
  · rename_i created
    cases started
    exact ⟨rfl, created⟩
  · cases started

/-! ## Lines -/

/-- A text without blanks, tabs and ends of lines. -/
def Unbroken (text : String) : Prop := ∀ c ∈ text.toList, c.isWhitespace = false

theorem isWhitespace_of_isDigit {c : Char} (digit : c.isDigit = true) : c.isWhitespace = false := by
  rw [Bool.eq_false_iff]
  intro blank
  simp only [Char.isWhitespace, Bool.or_eq_true, decide_eq_true_eq] at blank
  rcases blank with ((rfl | rfl) | rfl) | rfl <;> cases digit

theorem isWhitespace_of_mem_digits {n : Nat} {c : Char} (mem : c ∈ Nat.toDigits 10 n) :
    c.isWhitespace = false :=
  isWhitespace_of_isDigit (Nat.isDigit_of_mem_toDigits (by decide) (by decide) mem)

theorem Unbroken.append {text more : String} (h : Unbroken text) (h' : Unbroken more) :
    Unbroken (text ++ more) := by
  intro c mem
  rw [String.toList_append] at mem
  rcases List.mem_append.mp mem with mem | mem
  · exact h c mem
  · exact h' c mem

theorem unbroken_repr (n : Nat) : Unbroken n.repr := by
  intro c mem
  rw [Nat.toList_repr] at mem
  exact isWhitespace_of_mem_digits mem

theorem unbroken_time (time : Nanos) : Unbroken (toString time) := by
  have minus : Unbroken "-" := by simp [Unbroken]
  rw [Int.toString_eq_repr, Int.repr_eq_if]
  split
  · exact unbroken_repr _
  · exact minus.append (unbroken_repr _)

theorem unbroken_positional (units places : Nat) : Unbroken (Decimal.positional units places) := by
  intro c mem
  have padded : c ∈ List.replicate (places + 1 - (Decimal.digits units).length) '0' ++
      Decimal.digits units → c.isWhitespace = false := by
    intro mem
    rcases List.mem_append.mp mem with mem | mem
    · rw [List.eq_of_mem_replicate mem]
      decide
    · exact isWhitespace_of_mem_digits mem
  simp only [Decimal.positional, String.toList_ofList] at mem
  split at mem
  · exact padded (List.mem_of_mem_take mem)
  · rcases List.mem_append.mp mem with mem | mem
    · exact padded (List.mem_of_mem_take mem)
    · rcases List.mem_cons.mp mem with rfl | mem
      · decide
      · exact padded (List.mem_of_mem_drop mem)

theorem unbroken_fixed (places : Nat) (x : Single) : Unbroken (x.fixed places) := by
  have sign (s : Float.Model.UnpackedFloat.Sign) : Unbroken (Decimal.signText s) := by
    cases s <;> simp [Unbroken, Decimal.signText]
  unfold Single.fixed
  split
  · simp [Unbroken]
  · exact (sign _).append (by simp [Unbroken])
  · exact (sign _).append (unbroken_positional _ _)
  · exact (sign _).append (unbroken_positional _ _)

namespace Pose

theorem unbroken_fields (pose : Pose) : ∀ field ∈ pose.fields, Unbroken field := by
  intro field mem
  rcases List.mem_cons.mp mem with rfl | mem
  · exact unbroken_time pose.time
  · obtain ⟨x, -, rfl⟩ := List.mem_map.mp mem
    exact unbroken_fixed tracePlaces x

/-- A line is one line. -/
theorem newline_not_mem_line (pose : Pose) : '\n' ∉ pose.line.toList := by
  have inside (fields : List String) (unbroken : ∀ field ∈ fields, Unbroken field) :
      '\n' ∉ (" ".intercalate fields).toList := by
    induction fields with
    | nil => simp
    | cons field rest ih =>
      obtain ⟨here, others⟩ := List.forall_mem_cons.mp unbroken
      have whole : '\n' ∉ field.toList := fun mem => absurd (here _ mem) (by decide)
      cases rest with
      | nil => simpa using whole
      | cons next rest => simpa [String.intercalate_cons_cons, whole] using ih others
  exact inside pose.fields pose.unbroken_fields

/-- A line falls apart into its fields at its blanks. -/
theorem split_line (pose : Pose) : (pose.line.split ' ').toList.map (·.copy) = pose.fields := by
  have blank : ∀ field ∈ pose.fields, ' ' ∉ field.toList := by
    intro field mem inside
    exact absurd (pose.unbroken_fields field mem ' ' inside) (by decide)
  have split := String.toList_split_intercalate blank
  have nonempty : pose.fields ≠ [] := List.cons_ne_nil _ _
  rw [if_neg nonempty] at split
  exact split

end Pose

end Sensorium
