import Sensorium.Proofs.Record.SnapshotGrammar

/-!
# Snapshots written as they were read

A snapshot can be spelled in more than one way, since any flag but zero says that a value
follows. `Snapshot.Layout` keeps the parts of the bytes of a snapshot apart, so that the flags
can be told from all the rest. `encode_of_decode` says that what has been read is written as it
was, only that every flag is zero or one.
-/

namespace Sensorium

theorem Value.toList_ofList {kind : Kind} {components : List Single}
    (h : components.length = kind.size) : (ofList kind components).toList = components ∧
      (ofList kind components).kind = kind := by
  cases kind with
  | scalar =>
    obtain ⟨x, rfl⟩ := List.length_eq_one_iff.mp h
    exact ⟨rfl, rfl⟩
  | vector =>
    obtain ⟨x, y, z, rfl⟩ := List.length_eq_three.mp h
    exact ⟨rfl, rfl⟩

namespace Snapshot

/-! ## The parts of a snapshot -/

/-- An override entry as it stands in a snapshot: the flag, and the bytes of the value. -/
structure Flagged where
  flag : UInt32
  value : List UInt8
  deriving DecidableEq, Repr

namespace Flagged

def bytes (entry : Flagged) : List UInt8 := wordBytes entry.flag ++ entry.value

/-- The entry may be that of a sensor: after a flag of zero there is nothing, and after any
    other a value of the kind of the sensor. -/
def Fits (sensor : Sensor) (entry : Flagged) : Prop :=
  entry.value.length = if entry.flag = 0 then 0 else 4 * sensor.kind.size

/-- The entry with one for a flag that is not zero. -/
def plain (entry : Flagged) : Flagged :=
  { entry with flag := if entry.flag = 0 then 0 else 1 }

theorem plain_eq_self {entry : Flagged} (h : entry.flag = 0 ∨ entry.flag = 1) :
    entry.plain = entry := by
  obtain ⟨flag, value⟩ := entry
  rcases h with rfl | rfl <;> rfl

end Flagged

/-- The bytes of a snapshot taken apart: those of each target, and each override entry. -/
structure Layout where
  targets : List (List UInt8)
  entries : List Flagged
  deriving DecidableEq, Repr

namespace Layout

/-- All bytes, from the count of the targets to the last override entry. -/
def bytes (layout : Layout) : List UInt8 :=
  wordBytes (.ofNat layout.targets.length) ++ (layout.targets.flatten ++
    (wordBytes (.ofNat layout.entries.length) ++ layout.entries.flatMap Flagged.bytes))

/-- The targets are as wide as those of the first parameters, and the override entries may be
    those of the first sensors. -/
structure Fits (layout : Layout) : Prop where
  targets : List.Forall₂ (fun (p : Parameter) target => target.length = 4 * p.kind.size)
    (Parameter.all.take layout.targets.length) layout.targets
  entries : List.Forall₂ Flagged.Fits (Sensor.all.take layout.entries.length) layout.entries

/-- The same with one for every flag that is not zero. -/
def plain (layout : Layout) : Layout :=
  { layout with entries := layout.entries.map Flagged.plain }

theorem length_bytes_plain (layout : Layout) :
    layout.plain.bytes.length = layout.bytes.length := by
  have entry (e : Flagged) : e.plain.bytes.length = e.bytes.length := rfl
  simp only [bytes, plain, List.length_append, List.length_map, List.length_flatMap,
    length_wordBytes, List.map_map, Function.comp_def, entry]

theorem plain_eq_self {layout : Layout}
    (h : ∀ entry ∈ layout.entries, entry.flag = 0 ∨ entry.flag = 1) : layout.plain = layout := by
  have same : layout.entries.map Flagged.plain = layout.entries := by
    rw [List.map_congr_left fun entry mem => Flagged.plain_eq_self (h entry mem), List.map_id']
  rw [plain, same]

end Layout

/-! ## Writing what was read -/

/-- A table has no more entries than are looked up. -/
theorem zip_take_eq {α β : Type} {n : Nat} (xs : List α) {ys : List β} (h : ys.length ≤ n) :
    (xs.take n).zip ys = xs.zip ys := by
  have few : (xs.zip ys).length ≤ n := by
    rw [List.length_zip]
    omega
  rw [← List.take_of_length_le few, List.zip, List.take_zipWith, List.take_of_length_le h]

/-- The bytes of a value are written again. -/
theorem valueWords_valueOf {kind : Kind} {bytes : List UInt8}
    (width : bytes.length = 4 * kind.size) :
    (valueWords kind (valueOf kind bytes)).flatMap wordBytes = bytes := by
  obtain ⟨length, same⟩ := flatMap_wordsOf kind.size bytes width
  have many : ((wordsOf bytes).map Single.mk).length = kind.size := by
    rw [List.length_map, length]
  obtain ⟨components, fits⟩ := Value.toList_ofList many
  have bits : (wordsOf bytes).map (Single.bits ∘ Single.mk) = wordsOf bytes := List.map_id _
  rw [valueWords, valueOf, Value.conform_of_kind fits, components, List.map_map, bits, same]

/-- Targets are written as they were read. -/
theorem SpellsTargets.layout {ps : List Parameter} {front : List UInt8} {values : List Value}
    (h : SpellsTargets ps front values) :
    values.length = ps.length ∧
      ((ps.zip values).flatMap fun (p, value) => valueWords p.kind value).flatMap wordBytes =
        front ∧
      ∃ targets : List (List UInt8), targets.flatten = front ∧
        List.Forall₂ (fun (p : Parameter) target => target.length = 4 * p.kind.size)
          ps targets := by
  induction h with
  | nil => exact ⟨rfl, rfl, [], rfl, .nil⟩
  | @cons p ps bytes more values width others ih =>
    obtain ⟨length, written, targets, rfl, fits⟩ := ih
    refine ⟨congrArg (· + 1) length, ?_, bytes :: targets, rfl, .cons width fits⟩
    rw [List.zip_cons_cons, List.flatMap_cons, List.flatMap_append, valueWords_valueOf width,
      written]

/-- Override entries are written as they were read, with plain flags, and so they can be read
    again. -/
theorem SpellsOverrides.layout {xs : List Sensor} {back : List UInt8}
    {overrides : List (Option Value)} (h : SpellsOverrides xs back overrides) :
    overrides.length = xs.length ∧
      ∃ entries : List Flagged, entries.flatMap Flagged.bytes = back ∧
        List.Forall₂ Flagged.Fits xs entries ∧
        ((xs.zip overrides).flatMap fun (x, entry) => overrideWords x entry).flatMap wordBytes =
          (entries.map Flagged.plain).flatMap Flagged.bytes ∧
        SpellsOverrides xs ((entries.map Flagged.plain).flatMap Flagged.bytes) overrides := by
  induction h with
  | nil => exact ⟨rfl, [], rfl, .nil, rfl, .nil⟩
  | @absent x xs more overrides others ih =>
    obtain ⟨length, entries, rfl, fits, written, again⟩ := ih
    refine ⟨congrArg (· + 1) length, ⟨0, []⟩ :: entries, rfl, .cons rfl fits, ?_, again.absent⟩
    rw [List.zip_cons_cons, List.flatMap_cons, List.flatMap_append, written]
    rfl
  | @present x xs flag bytes more overrides flagged width others ih =>
    obtain ⟨length, entries, rfl, fits, written, again⟩ := ih
    have one : (⟨flag, bytes⟩ : Flagged).plain = ⟨1, bytes⟩ := by
      rw [Flagged.plain, if_neg flagged]
    have fit : Flagged.Fits x ⟨flag, bytes⟩ := by
      rw [Flagged.Fits, if_neg flagged, width]
    refine ⟨congrArg (· + 1) length, ⟨flag, bytes⟩ :: entries, ?_, .cons fit fits, ?_, ?_⟩
    · rw [List.flatMap_cons, Flagged.bytes, List.append_assoc]
    · have head : (overrideWords x (some (valueOf x.kind bytes))).flatMap wordBytes =
          wordBytes 1 ++ bytes := by
        rw [overrideWords, List.flatMap_cons, valueWords_valueOf width]
      rw [List.zip_cons_cons, List.flatMap_cons, List.flatMap_append, written, head,
        List.map_cons, List.flatMap_cons, one, Flagged.bytes]
    · simp only [List.map_cons, List.flatMap_cons, one, Flagged.bytes, List.append_assoc]
      have nonzero : (1 : UInt32) ≠ 0 := by decide
      exact again.present nonzero width

/-- What spells a snapshot can be taken apart, and the snapshot is written with the same parts
    and plain flags. -/
theorem Spells.layout {front : List UInt8} {snapshot : Snapshot} (h : Spells front snapshot) :
    ∃ layout : Layout, layout.Fits ∧ layout.bytes = front ∧
      snapshot.encode = layout.plain.bytes ∧ Spells layout.plain.bytes snapshot ∧
      snapshot.targets.length = layout.targets.length ∧
      snapshot.overrides.length = layout.entries.length := by
  obtain @⟨parameters, sensors, _, _, values, overrides, few, targets, fewer, entries⟩ := h
  obtain ⟨length, written, targets', rfl, fits⟩ := targets.layout
  obtain ⟨length', entries', rfl, fits', written', again⟩ := entries.layout
  have many : targets'.length = parameters.toNat :=
    fits.length_eq.symm.trans (List.length_take_of_le few)
  have many' : entries'.length = sensors.toNat :=
    fits'.length_eq.symm.trans (List.length_take_of_le fewer)
  have counted : values.length = targets'.length := length.trans fits.length_eq
  have counted' : overrides.length = entries'.length := length'.trans fits'.length_eq
  have count : UInt32.ofNat targets'.length = parameters := by rw [many, UInt32.ofNat_toNat]
  have count' : UInt32.ofNat entries'.length = sensors := by rw [many', UInt32.ofNat_toNat]
  have plain : (⟨targets', entries'⟩ : Layout).plain.bytes =
      wordBytes parameters ++ (targets'.flatten ++
        (wordBytes sensors ++ (entries'.map Flagged.plain).flatMap Flagged.bytes)) := by
    simp only [Layout.bytes, Layout.plain, List.length_map, count, count']
  refine ⟨⟨targets', entries'⟩, ⟨?_, ?_⟩, ?_, ?_, ?_, counted, counted'⟩
  · rw [many]
    exact fits
  · rw [many']
    exact fits'
  · simp only [Layout.bytes, count, count']
  · have paired := zip_take_eq Parameter.all (Nat.le_of_eq (counted.trans many))
    have paired' := zip_take_eq Sensor.all (Nat.le_of_eq (counted'.trans many'))
    have zipped : (Parameter.all.zip values).length = targets'.length := by
      rw [← paired, List.length_zip, ← length, Nat.min_self, counted]
    have zipped' : (Sensor.all.zip overrides).length = entries'.length := by
      rw [← paired', List.length_zip, ← length', Nat.min_self, counted']
    rw [paired] at written
    rw [paired'] at written'
    rw [plain, encode, words, zipped, zipped', count, count']
    simp only [List.flatMap_append, List.flatMap_cons, List.flatMap_nil, List.append_nil,
      written, written', List.append_assoc]
  · rw [plain]
    exact .intro few targets fewer again

/-- What has been read as a snapshot is written as it was, only that every flag that is not zero
    becomes one. So neither the length nor the counts change, what is written is read as the
    same snapshot again, and with no other flags than zero and one the bytes are the same. -/
theorem encode_of_decode {bytes rest : List UInt8} {snapshot : Snapshot}
    (h : decode bytes = .ok (snapshot, rest)) :
    ∃ layout : Layout, layout.Fits ∧ bytes = layout.bytes ++ rest ∧
      (∀ spare, snapshot.writeWithin (snapshot.encode.length + spare) =
        (layout.plain.bytes, .ok ())) ∧
      snapshot.encode.length = layout.bytes.length ∧
      snapshot.targets.length = layout.targets.length ∧
      snapshot.overrides.length = layout.entries.length ∧
      decode (snapshot.encode ++ rest) = .ok (snapshot, rest) ∧
      ((∀ entry ∈ layout.entries, entry.flag = 0 ∨ entry.flag = 1) →
        snapshot.encode ++ rest = bytes) := by
  obtain ⟨front, spelled, rfl⟩ := accepts_read.sound bytes snapshot rest h
  obtain ⟨layout, fits, rfl, written, again, targets, overrides⟩ := spelled.layout
  refine ⟨layout, fits, rfl, ?_, ?_, targets, overrides, ?_, ?_⟩
  · intro spare
    rw [writeWithin_length_add, written]
  · rw [written, layout.length_bytes_plain]
  · rw [written]
    exact accepts_read.complete layout.plain.bytes snapshot rest again
  · intro flags
    rw [written, Layout.plain_eq_self flags]

/-- Two override entries with flags that are not zero, and one without a value between them. -/
def marked : List UInt8 :=
  wordBytes 1 ++ [1, 2, 3, 4, 5, 6, 7, 8, 9, 10, 11, 12] ++ wordBytes 3 ++
    (wordBytes 7 ++ List.replicate 12 5) ++ wordBytes 0 ++ (wordBytes 0x01000000 ++
      List.replicate 12 6)

theorem encode_of_decode_marked :
    ∃ snapshot, decode (marked ++ [4, 2]) = .ok (snapshot, [4, 2]) ∧
      ∃ layout : Layout, layout.Fits ∧ marked ++ [4, 2] = layout.bytes ++ [4, 2] ∧
        (∀ spare, snapshot.writeWithin (snapshot.encode.length + spare) =
          (layout.plain.bytes, .ok ())) ∧
        snapshot.encode.length = layout.bytes.length := by
  have read : ∃ snapshot, decode (marked ++ [4, 2]) = .ok (snapshot, [4, 2]) := ⟨_, rfl⟩
  obtain ⟨snapshot, read⟩ := read
  obtain ⟨layout, fits, same, written, length, -⟩ := encode_of_decode read
  exact ⟨snapshot, read, layout, fits, same, written, length⟩

end Snapshot

end Sensorium
