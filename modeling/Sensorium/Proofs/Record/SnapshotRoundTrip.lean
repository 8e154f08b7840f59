import Mathlib
import Sensorium.Record.Snapshot

/-!
# Snapshots survive being written and read

The bytes of a snapshot do not say how wide they are: where an entry ends depends on the
kind of its place, on the flag before it and on the two counts. Reading them in front of
any other bytes nevertheless takes exactly the bytes of the snapshot, and gives back its
normal form `Snapshot.normal`.
-/

namespace Sensorium

/-- A word is put together from its four bytes again. -/
theorem wordOfBytes_wordBytes (word : UInt32) :
    wordOfBytes (word >>> 24).toUInt8 (word >>> 16).toUInt8 (word >>> 8).toUInt8 word.toUInt8 =
      word := by
  apply UInt32.toNat_inj.mp
  have bound := word.toNat_lt
  simp only [wordOfBytes, UInt32.toNat_or, UInt32.toNat_shiftLeft, UInt32.toNat_shiftRight,
    UInt8.toNat_toUInt32, UInt32.toNat_toUInt8, UInt32.reduceToNat, Nat.reduceMod]
  generalize word.toNat = n at bound
  -- The four bytes cover disjoint ranges of bit positions, and above them there is no bit.
  apply Nat.eq_of_testBit_eq
  intro i
  have high : 32 ≤ i → n.testBit i = false := fun h =>
    Nat.testBit_lt_two_pow (Nat.lt_of_lt_of_le bound (Nat.pow_le_pow_right (by decide) h))
  simp only [Nat.testBit_or, Nat.testBit_mod_two_pow, Nat.testBit_shiftLeft,
    Nat.testBit_shiftRight]
  grind

theorem length_wordBytes (word : UInt32) : (wordBytes word).length = 4 := rfl

theorem length_flatMap_wordBytes (words : List UInt32) :
    (words.flatMap wordBytes).length = 4 * words.length := by
  induction words with
  | nil => rfl
  | cons word rest ih =>
    rw [List.flatMap_cons, List.length_append, length_wordBytes, ih, List.length_cons]
    omega

theorem Value.kind_conform (value : Value) (kind : Kind) : (value.conform kind).kind = kind := by
  unfold conform
  split
  · assumption
  · cases kind <;> rfl

theorem Value.conform_of_kind {value : Value} {kind : Kind} (h : value.kind = kind) :
    value.conform kind = value :=
  if_pos h

/-- What a place of some kind keeps of a value: a number in the place of a number and a vector in
    the place of a vector are kept bit for bit, and what is in the wrong place becomes zero. -/
inductive Kind.Keeps : Kind → Value → Value → Prop
  | number (x : Single) : Keeps .scalar (.scalar x) (.scalar x)
  | vector (v : Vec3 Single) : Keeps .vector (.vector v) (.vector v)
  | noNumber (v : Vec3 Single) : Keeps .scalar (.vector v) (.scalar 0)
  | noVector (x : Single) : Keeps .vector (.scalar x) (.vector ⟨0, 0, 0⟩)

theorem Kind.keeps_conform (kind : Kind) (value : Value) :
    kind.Keeps value (value.conform kind) := by
  cases kind <;> cases value <;> constructor

namespace Snapshot

/-- What is left of a snapshot when it is written: the targets of as many parameters and the
    override entries of as many sensors as there are, each value in the kind of its place. -/
def normal (s : Snapshot) : Snapshot where
  targets := List.zipWith (fun p value => value.conform p.kind) Parameter.all s.targets
  overrides :=
    List.zipWith (fun x entry => entry.map (·.conform x.kind)) Sensor.all s.overrides

theorem length_targets_normal (s : Snapshot) :
    s.normal.targets.length = min 10 s.targets.length := by
  simp [normal, Parameter.all, Condition.all]

theorem length_overrides_normal (s : Snapshot) :
    s.normal.overrides.length = min 11 s.overrides.length := by
  simp [normal, Sensor.all, Condition.all]

/-- Every target that is left is what the place of its parameter keeps of it. -/
theorem getElem?_targets_normal {s : Snapshot} {i : Nat} {p : Parameter} {value : Value}
    (place : Parameter.all[i]? = some p) (given : s.targets[i]? = some value) :
    ∃ kept, s.normal.targets[i]? = some kept ∧ p.kind.Keeps value kept := by
  refine ⟨value.conform p.kind, ?_, p.kind.keeps_conform value⟩
  exact List.getElem?_zipWith_eq_some.mpr ⟨p, value, place, given, rfl⟩

/-- So is every override, and an entry without one stays so. -/
theorem getElem?_overrides_normal {s : Snapshot} {i : Nat} {sensor : Sensor}
    {entry : Option Value} (place : Sensor.all[i]? = some sensor)
    (given : s.overrides[i]? = some entry) :
    ∃ kept, s.normal.overrides[i]? = some kept ∧ Option.Rel sensor.kind.Keeps entry kept := by
  refine ⟨entry.map (·.conform sensor.kind), ?_, ?_⟩
  · exact List.getElem?_zipWith_eq_some.mpr ⟨sensor, entry, place, given, rfl⟩
  · cases entry with
    | none => exact .none
    | some value => exact .some (sensor.kind.keeps_conform value)

/-! ## Writing -/

/-- A place with room for all words takes all of them. -/
theorem writeWords_of_le (words : List UInt32) (room : Nat) (h : 4 * words.length ≤ room) :
    writeWords room words = (words.flatMap wordBytes, .ok ()) := by
  induction words generalizing room with
  | nil => rfl
  | cons word rest ih =>
    rw [List.length_cons] at h
    rw [writeWords, if_pos (by omega), ih (room - 4) (by omega), List.flatMap_cons]

theorem writeWithin_length_add (s : Snapshot) (spare : Nat) :
    s.writeWithin (s.encode.length + spare) = (s.encode, .ok ()) := by
  apply writeWords_of_le
  rw [encode, length_flatMap_wordBytes]
  omega

/-! ## Reading -/

/-- A reader goes on with what another one has read, on what that one has left. -/
theorem run_bind_of_ok {α β : Type} {first : Reader α} {next : α → Reader β}
    {bytes rest : List UInt8} {item : α} (h : first.run bytes = .ok (item, rest)) :
    (first >>= next).run bytes = (next item).run rest := by
  rw [StateT.run_bind, h]
  rfl

theorem run_readWord (word : UInt32) (rest : List UInt8) :
    readWord.run (wordBytes word ++ rest) = .ok (word, rest) := by
  change Except.ok (wordOfBytes _ _ _ _, rest) = _
  rw [wordOfBytes_wordBytes]

theorem run_readSingle (x : Single) (rest : List UInt8) :
    readSingle.run (wordBytes x.bits ++ rest) = .ok (x, rest) := by
  rw [readSingle, run_bind_of_ok (run_readWord x.bits rest)]
  rfl

/-- Reading a value in a place of some kind takes what was written there. -/
theorem run_readValue (kind : Kind) (value : Value) (rest : List UInt8) :
    (readValue kind).run ((valueWords kind value).flatMap wordBytes ++ rest) =
      .ok (value.conform kind, rest) := by
  unfold valueWords
  have same := value.kind_conform kind
  generalize value.conform kind = written at same
  subst same
  cases written with
  | scalar x =>
    simp only [Value.toList, List.map_cons, List.map_nil, List.flatMap_cons, List.flatMap_nil,
      List.append_nil]
    rw [Value.kind, readValue, run_bind_of_ok (run_readSingle x rest)]
    rfl
  | vector v =>
    simp only [Value.toList, Vec3.toList, List.map_cons, List.map_nil, List.flatMap_cons,
      List.flatMap_nil, List.append_nil, List.append_assoc]
    rw [Value.kind, readValue, run_bind_of_ok (run_readSingle v.x _),
      run_bind_of_ok (run_readSingle v.y _), run_bind_of_ok (run_readSingle v.z _)]
    rfl

/-- A count within the supported number is read as it was written. -/
theorem run_readCount (table : Table) (count supported : Nat) (rest : List UInt8)
    (small : supported < 2 ^ 32) (h : count ≤ supported) :
    (readCount table supported).run (wordBytes (UInt32.ofNat count) ++ rest) =
      .ok (count, rest) := by
  have stored : (UInt32.ofNat count).toNat = count :=
    UInt32.toNat_ofNat_of_lt' (Nat.lt_of_le_of_lt h small)
  rw [readCount, run_bind_of_ok (run_readWord _ rest)]
  simp only [stored, if_neg (Nat.not_lt.mpr h)]
  rfl

/-- Reading the targets of as many parameters as were written takes what was written. -/
theorem run_readTargets (ps : List Parameter) (values : List Value) (rest : List UInt8) :
    (readTargets (ps.take (ps.zip values).length)).run
        (((ps.zip values).flatMap fun (p, value) => valueWords p.kind value).flatMap wordBytes ++
          rest) =
      .ok (List.zipWith (fun p value => value.conform p.kind) ps values, rest) := by
  induction ps generalizing values with
  | nil => rfl
  | cons p ps ih =>
    cases values with
    | nil => rfl
    | cons value values =>
      simp only [List.zip_cons_cons, List.length_cons, List.take_succ_cons, List.flatMap_cons,
        List.flatMap_append, List.append_assoc, List.zipWith_cons_cons]
      rw [readTargets, run_bind_of_ok (run_readValue p.kind value _), run_bind_of_ok (ih values)]
      rfl

/-- Reading an override entry takes what was written for it. -/
theorem run_readOverrides_cons (x : Sensor) (xs : List Sensor) (entry : Option Value)
    (rest : List UInt8) :
    (readOverrides (x :: xs)).run ((overrideWords x entry).flatMap wordBytes ++ rest) =
      (do return entry.map (·.conform x.kind) :: (← readOverrides xs) : Reader _).run rest := by
  cases entry with
  | none =>
    simp only [overrideWords, List.flatMap_cons, List.flatMap_nil, List.append_nil]
    rw [readOverrides, run_bind_of_ok (run_readWord 0 rest), if_pos rfl]
    rfl
  | some value =>
    simp only [overrideWords, List.flatMap_cons, List.append_assoc]
    rw [readOverrides, run_bind_of_ok (run_readWord 1 _), if_neg (by decide)]
    have taken : (some <$> readValue x.kind).run
        ((valueWords x.kind value).flatMap wordBytes ++ rest) =
          .ok (some (value.conform x.kind), rest) := by
      rw [StateT.run_map, run_readValue]
      rfl
    rw [run_bind_of_ok taken]
    rfl

/-- Reading the entries of as many sensors as were written takes what was written. -/
theorem run_readOverrides (xs : List Sensor) (entries : List (Option Value))
    (rest : List UInt8) :
    (readOverrides (xs.take (xs.zip entries).length)).run
        (((xs.zip entries).flatMap fun (x, entry) => overrideWords x entry).flatMap wordBytes ++
          rest) =
      .ok (List.zipWith (fun x entry => entry.map (·.conform x.kind)) xs entries, rest) := by
  induction xs generalizing entries with
  | nil => rfl
  | cons x xs ih =>
    cases entries with
    | nil => rfl
    | cons entry entries =>
      simp only [List.zip_cons_cons, List.length_cons, List.take_succ_cons, List.flatMap_cons,
        List.flatMap_append, List.append_assoc, List.zipWith_cons_cons]
      rw [run_readOverrides_cons, run_bind_of_ok (ih entries)]
      rfl

/-- Reading takes exactly the bytes of a snapshot, whatever comes after them. -/
theorem run_read (s : Snapshot) (rest : List UInt8) :
    read.run (s.encode ++ rest) = .ok (s.normal, rest) := by
  simp only [encode, words, List.flatMap_append, List.flatMap_cons, List.flatMap_nil,
    List.append_nil, List.append_assoc]
  have targets : (Parameter.all.zip s.targets).length ≤ Parameter.all.length := by
    rw [List.length_zip]
    exact Nat.min_le_left _ _
  have overrides : (Sensor.all.zip s.overrides).length ≤ Sensor.all.length := by
    rw [List.length_zip]
    exact Nat.min_le_left _ _
  rw [read, run_bind_of_ok (run_readCount .parameters _ _ _ (by decide) targets),
    run_bind_of_ok (run_readTargets Parameter.all s.targets _),
    run_bind_of_ok (run_readCount .sensors _ _ _ (by decide) overrides),
    run_bind_of_ok (run_readOverrides Sensor.all s.overrides rest)]
  rfl

/-- Every snapshot can be written: a place with room for its bytes takes all of them, however
    much it has to spare. Reading them in front of any other bytes succeeds, leaves exactly
    those, and gives the normal form, which holds what is kept of the first ten targets and of the
    first eleven override entries. -/
theorem decode_encode_append (s : Snapshot) (rest : List UInt8) (spare : Nat) :
    s.writeWithin (s.encode.length + spare) = (s.encode, .ok ()) ∧
      decode (s.encode ++ rest) = .ok (s.normal, rest) ∧
      s.normal.targets.length = min 10 s.targets.length ∧
      s.normal.overrides.length = min 11 s.overrides.length ∧
      (∀ (i : Nat) p value, Parameter.all[i]? = some p → s.targets[i]? = some value →
        ∃ kept, s.normal.targets[i]? = some kept ∧ p.kind.Keeps value kept) ∧
      ∀ (i : Nat) sensor entry, Sensor.all[i]? = some sensor → s.overrides[i]? = some entry →
        ∃ kept, s.normal.overrides[i]? = some kept ∧ Option.Rel sensor.kind.Keeps entry kept :=
  ⟨s.writeWithin_length_add spare, s.run_read rest, s.length_targets_normal,
    s.length_overrides_normal, fun _ _ _ => getElem?_targets_normal,
    fun _ _ _ => getElem?_overrides_normal⟩

/-- Targets of the right kind with a NaN, a negative zero and a number among their bits, and then
    one of either wrong kind; overrides of the right and of the wrong kind and none. -/
def motley : Snapshot where
  targets := [.vector ⟨⟨0x7fc12345⟩, ⟨0x80000000⟩, ⟨0x3fc00000⟩⟩, .scalar 1, .vector ⟨1, 2, 1⟩,
    .scalar ⟨0xffa00001⟩, .vector ⟨1, 2, 1⟩]
  overrides := [some (.vector ⟨2, ⟨0xff800000⟩, ⟨0x7f800001⟩⟩), none, some (.scalar 2), none,
    some (.scalar ⟨0x80000000⟩), some (.vector ⟨2, 2, 2⟩)]

theorem decode_encode_motley :
    decode (motley.encode ++ [7]) =
      .ok
        ({ targets := [.vector ⟨⟨0x7fc12345⟩, ⟨0x80000000⟩, ⟨0x3fc00000⟩⟩, .vector ⟨0, 0, 0⟩,
            .vector ⟨1, 2, 1⟩, .scalar ⟨0xffa00001⟩, .scalar 0]
           overrides := [some (.vector ⟨2, ⟨0xff800000⟩, ⟨0x7f800001⟩⟩), none,
            some (.vector ⟨0, 0, 0⟩), none, some (.scalar ⟨0x80000000⟩), some (.scalar 0)] },
          [7]) := by
  obtain ⟨-, read, -⟩ := motley.decode_encode_append [7] 0
  rw [read]
  rfl

/-! ## Kinds -/

/-- What a reader made of two parts has read, both parts have read one after the other. -/
theorem run_bind_eq_ok {α β : Type} {first : Reader α} {next : α → Reader β}
    {bytes rest : List UInt8} {item : β} (h : (first >>= next).run bytes = .ok (item, rest)) :
    ∃ part left, first.run bytes = .ok (part, left) ∧ (next part).run left = .ok (item, rest) := by
  rw [StateT.run_bind] at h
  cases found : first.run bytes with
  | error failure =>
    rw [found] at h
    cases h
  | ok read =>
    rw [found] at h
    exact ⟨read.1, read.2, rfl, h⟩

theorem kind_of_readValue {kind : Kind} {value : Value} {bytes rest : List UInt8}
    (h : (readValue kind).run bytes = .ok (value, rest)) : value.kind = kind := by
  cases kind with
  | scalar =>
    obtain ⟨x, left, -, h⟩ := run_bind_eq_ok h
    cases h
    rfl
  | vector =>
    obtain ⟨x, left, -, h⟩ := run_bind_eq_ok h
    obtain ⟨y, left, -, h⟩ := run_bind_eq_ok h
    obtain ⟨z, left, -, h⟩ := run_bind_eq_ok h
    cases h
    rfl

/-- Override entries that were read are of the kinds of their sensors. -/
theorem kind_of_readOverrides {xs : List Sensor} {count : Nat} {bytes rest : List UInt8}
    {entries : List (Option Value)}
    (h : (readOverrides (xs.take count)).run bytes = .ok (entries, rest)) {x : Sensor}
    {value : Value} (mem : (x, some value) ∈ xs.zip entries) : value.kind = x.kind := by
  induction xs generalizing count bytes entries with
  | nil => cases mem
  | cons y ys ih =>
    cases count with
    | zero =>
      cases h
      cases mem
    | succ count =>
      rw [List.take_succ_cons, readOverrides] at h
      obtain ⟨flag, left, -, h⟩ := run_bind_eq_ok h
      by_cases absent : flag = 0
      · rw [if_pos absent] at h
        obtain ⟨entry, left, first, h⟩ := run_bind_eq_ok h
        obtain ⟨later, left, others, h⟩ := run_bind_eq_ok h
        cases h
        rcases List.mem_cons.mp mem with same | mem
        · cases same
          cases first
        · exact ih others mem
      · rw [if_neg absent] at h
        obtain ⟨entry, left, first, h⟩ := run_bind_eq_ok h
        obtain ⟨later, left, others, h⟩ := run_bind_eq_ok h
        cases h
        rcases List.mem_cons.mp mem with same | mem
        · cases same
          rw [← bind_pure_comp] at first
          obtain ⟨found, left, read, first⟩ := run_bind_eq_ok first
          cases first
          exact kind_of_readValue read
        · exact ih others mem

/-- Overrides that were read from bytes are of the kinds of their sensors. -/
theorem kind_of_decode {bytes rest : List UInt8} {snapshot : Snapshot}
    (h : decode bytes = .ok (snapshot, rest)) {x : Sensor} {value : Value}
    (mem : (x, some value) ∈ Sensor.all.zip snapshot.overrides) : value.kind = x.kind := by
  obtain ⟨parameters, left, -, h⟩ := run_bind_eq_ok h
  obtain ⟨targets, left, -, h⟩ := run_bind_eq_ok h
  obtain ⟨sensors, left, -, h⟩ := run_bind_eq_ok h
  obtain ⟨overrides, left, read, h⟩ := run_bind_eq_ok h
  cases h
  exact kind_of_readOverrides read mem

end Snapshot

end Sensorium
