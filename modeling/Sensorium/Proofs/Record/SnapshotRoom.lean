import Sensorium.Proofs.Record.SnapshotRoundTrip

/-!
# Snapshots where room is short

A snapshot is written word by word to a place that takes what fits of each word and then no more.
The place may be full at the end of a word or in its midst, so nothing depends on how the bytes are
cut into words: `writeWithin_eq` says that the place always takes the first bytes of the snapshot,
and that it has been too small exactly if the snapshot is longer than the room. `Snapshot.size`
counts the bytes by the kinds of the places, since every value is written in the kind of its place.
-/

namespace Sensorium

theorem Value.length_toList (value : Value) : value.toList.length = value.kind.size := by
  cases value <;> rfl

namespace Snapshot

/-! ## How long a snapshot is -/

/-- The number of bytes of the entry of a sensor, which are a flag and the value if there is one. -/
def entrySize (sensor : Sensor) (entry : Option Value) : Nat :=
  4 + if entry.isSome then 4 * sensor.kind.size else 0

/-- The number of bytes of a snapshot: two counts, the targets of the first parameters and the
    entries of the first sensors. -/
def size (s : Snapshot) : Nat :=
  8 + ((Parameter.all.take s.targets.length).map fun p => 4 * p.kind.size).sum +
    ((Sensor.all.zip s.overrides).map fun (x, entry) => entrySize x entry).sum

/-- A value takes as many words as there are in its place, whatever its own kind is. -/
theorem length_valueWords (kind : Kind) (value : Value) :
    (valueWords kind value).length = kind.size := by
  rw [valueWords, List.length_map, Value.length_toList, Value.kind_conform]

theorem length_overrideWords (sensor : Sensor) (entry : Option Value) :
    4 * (overrideWords sensor entry).length = entrySize sensor entry := by
  cases entry with
  | none => rfl
  | some value =>
    simp only [overrideWords, List.length_cons, length_valueWords, entrySize, Option.isSome_some,
      if_true]
    omega

/-- The targets take what the first parameters have places for. -/
theorem length_targets (ps : List Parameter) (values : List Value) :
    4 * ((ps.zip values).flatMap fun place => valueWords place.1.kind place.2).length =
      ((ps.take values.length).map fun p => 4 * p.kind.size).sum := by
  induction ps generalizing values with
  | nil => simp
  | cons p ps ih =>
    cases values with
    | nil => rfl
    | cons value values =>
      simp only [List.zip_cons_cons, List.flatMap_cons, List.length_append, length_valueWords,
        List.length_cons, List.take_succ_cons, List.map_cons, List.sum_cons, ← ih values]
      omega

theorem length_overrides (entries : List (Sensor × Option Value)) :
    4 * (entries.flatMap fun place => overrideWords place.1 place.2).length =
      (entries.map fun place => entrySize place.1 place.2).sum := by
  induction entries with
  | nil => rfl
  | cons place rest ih =>
    have first := length_overrideWords place.1 place.2
    simp only [List.flatMap_cons, List.length_append, List.map_cons, List.sum_cons]
    omega

theorem length_words (s : Snapshot) : 4 * s.words.length = s.size := by
  have targets := length_targets Parameter.all s.targets
  have overrides := length_overrides (Sensor.all.zip s.overrides)
  simp only [words, size, List.length_append, List.length_cons, List.length_nil]
  omega

theorem length_encode (s : Snapshot) : s.encode.length = s.size := by
  rw [encode, length_flatMap_wordBytes, length_words]

/-! ## Where it ends -/

/-- What a place takes of some words is the first bytes of them, and it is full if there are
    more. -/
theorem writeWords_eq (words : List UInt32) (room : Nat) :
    writeWords room words =
      ((words.flatMap wordBytes).take room,
        if 4 * words.length ≤ room then .ok () else .error (.stream .full)) := by
  induction words generalizing room with
  | nil => simp [writeWords]
  | cons word rest ih =>
    have four := length_wordBytes word
    rw [writeWords, List.flatMap_cons, List.length_cons]
    by_cases fits : 4 ≤ room
    · have later : 4 * (rest.length + 1) ≤ room ↔ 4 * rest.length ≤ room - 4 := by omega
      have whole : (wordBytes word).take room = wordBytes word :=
        List.take_of_length_le (by rw [four]; exact fits)
      simp only [if_pos fits, ih, later, List.take_append, whole, four]
    · -- the place is full in the midst of this word, or before it
      have cut : ¬ 4 * (rest.length + 1) ≤ room := by omega
      have front : room ≤ (wordBytes word).length := by omega
      rw [if_neg fits, if_neg cut, List.take_append_of_le_length front]

/-- A snapshot has as many bytes as the places of its entries. A place with some room takes the
    first of them, as many as there is room for, and all goes well exactly if that is all of them;
    otherwise the place is full. -/
theorem writeWithin_eq (s : Snapshot) (room : Nat) :
    s.encode.length = s.size ∧ (s.writeWithin room).1 = s.encode.take (min room s.size) ∧
      (s.writeWithin room).2 = if s.size ≤ room then .ok () else .error (.stream .full) := by
  have length := s.length_encode
  have written := writeWords_eq s.words room
  rw [length_words] at written
  refine ⟨length, ?_, ?_⟩
  · rw [writeWithin, written, ← length, ← List.take_eq_take_min]
    rfl
  · rw [writeWithin, written]

/-- The first ten targets and the first eleven entries count, in the kinds of their places. -/
example : (⟨List.replicate 12 (.scalar 1), [some (.scalar 1), none]⟩ : Snapshot).size = 100 := by
  decide

end Snapshot

end Sensorium
