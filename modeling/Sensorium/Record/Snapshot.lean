import Sensorium.Failure
import Sensorium.Quantity.Parameter

/-!
# Snapshots

A snapshot is the binary form of what a device is set to: the number of parameters and
the target of each, then the number of sensors and for each a word that is zero if the
sensor is not overridden, and the overriding value otherwise. Numbers and components are
words of four bytes, the most significant byte first.

A snapshot may hold fewer entries than there are parameters and sensors, not more.
-/

namespace Sensorium

/-- The four bytes of a word, the most significant first. -/
def wordBytes (word : UInt32) : List UInt8 :=
  [(word >>> 24).toUInt8, (word >>> 16).toUInt8, (word >>> 8).toUInt8, word.toUInt8]

def wordOfBytes (a b c d : UInt8) : UInt32 :=
  a.toUInt32 <<< 24 ||| b.toUInt32 <<< 16 ||| c.toUInt32 <<< 8 ||| d.toUInt32

/-- What a device is set to: targets of the first parameters, and which of the first
    sensors are overridden. -/
structure Snapshot where
  targets : List Value
  overrides : List (Option Value)
  deriving DecidableEq, Repr

namespace Snapshot

/-! ## Writing -/

/-- The words of a value in a place for values of a kind. A value of another kind is
    written as zero, so that what follows stays in place. -/
def valueWords (kind : Kind) (value : Value) : List UInt32 :=
  (value.conform kind).toList.map Single.bits

def overrideWords (sensor : Sensor) : Option Value → List UInt32
  | none => [0]
  | some value => 1 :: valueWords sensor.kind value

/-- The words of a snapshot. Entries beyond the last parameter or sensor are left out. -/
def words (s : Snapshot) : List UInt32 :=
  let targets := Parameter.all.zip s.targets
  let overrides := Sensor.all.zip s.overrides
  [UInt32.ofNat targets.length] ++ targets.flatMap (fun (p, value) => valueWords p.kind value) ++
    [UInt32.ofNat overrides.length] ++ overrides.flatMap (fun (s, entry) => overrideWords s entry)

def encode (s : Snapshot) : List UInt8 := s.words.flatMap wordBytes

/-- Writes words one after the other to a place with room for so many bytes. Gives the
    bytes that were taken, and whether the place became full. -/
def writeWords : Nat → List UInt32 → List UInt8 × Except Failure Unit
  | _, [] => ([], .ok ())
  | room, word :: rest =>
    if 4 ≤ room then
      let (taken, outcome) := writeWords (room - 4) rest
      (wordBytes word ++ taken, outcome)
    else ((wordBytes word).take room, .error (.stream .full))

/-- Writes a snapshot to a place with room for so many bytes. -/
def writeWithin (s : Snapshot) (room : Nat) : List UInt8 × Except Failure Unit :=
  writeWords room s.words

/-! ## Reading -/

/-- A reader takes what it reads off the front of a byte stream. -/
abbrev Reader := StateT (List UInt8) (Except Failure)

def readWord : Reader UInt32 := fun bytes =>
  match bytes with
  | a :: b :: c :: d :: rest => .ok (wordOfBytes a b c d, rest)
  | _ => .error (.stream .ended)

def readSingle : Reader Single := do return ⟨← readWord⟩

def readValue : Kind → Reader Value
  | .scalar => do return .scalar (← readSingle)
  | .vector => do
    let x ← readSingle
    let y ← readSingle
    let z ← readSingle
    return .vector ⟨x, y, z⟩

/-- Reads the number of entries of a table. -/
def readCount (table : Table) (supported : Nat) : Reader Nat := do
  let stored := (← readWord).toNat
  if supported < stored then throw (.incompatibleSnapshot table stored supported)
  return stored

def readTargets : List Parameter → Reader (List Value)
  | [] => return []
  | p :: rest => do
    let value ← readValue p.kind
    return value :: (← readTargets rest)

def readOverrides : List Sensor → Reader (List (Option Value))
  | [] => return []
  | s :: rest => do
    let flag ← readWord
    let entry ← if flag = 0 then pure none else some <$> readValue s.kind
    return entry :: (← readOverrides rest)

def read : Reader Snapshot := do
  let parameters ← readCount .parameters Parameter.all.length
  let targets ← readTargets (Parameter.all.take parameters)
  let sensors ← readCount .sensors Sensor.all.length
  let overrides ← readOverrides (Sensor.all.take sensors)
  return { targets, overrides }

/-- The snapshot at the front of a byte stream, and the bytes after it. -/
def decode (bytes : List UInt8) : Except Failure (Snapshot × List UInt8) := read.run bytes

end Snapshot

end Sensorium
