import Sensorium.Numeric.Decimal

/-!
# Failures

What can go wrong, by cause. Most malformed input is no failure: it counts as zero. The
wording of every failure is in `Failure.message`.
-/

namespace Sensorium

inductive Table where
  | parameters
  | sensors
  deriving DecidableEq, Repr

/-- Why a byte stream could not be read or written. -/
inductive StreamFault where
  /-- The stream ended inside an item. -/
  | ended
  /-- The stream takes no more bytes. -/
  | full
  deriving DecidableEq, Repr

/-- Why a file could not be opened for writing. -/
inductive OpenFault where
  | notFound
  | notDirectory
  | isDirectory
  | nameTooLong
  | nulInName
  deriving DecidableEq, Repr

/-- Why settings cannot be used. -/
inductive SettingsFault where
  /-- A rate or tolerance is zero, negative, infinite or NaN. -/
  | notPositive (field : String) (value : Single)
  | gravityNotFinite
  /-- A reason given by the caller. -/
  | described (reason : String)
  deriving DecidableEq, Repr

inductive Failure where
  /-- A snapshot stores more entries in a table than there are. -/
  | incompatibleSnapshot (table : Table) (stored supported : Nat)
  | traceOpen (path : String) (cause : OpenFault)
  | invalidSettings (fault : SettingsFault)
  | stream (fault : StreamFault)
  deriving DecidableEq, Repr

/-- What the entries of a table are called. -/
def Table.entries : Table → String
  | parameters => "physical parameters"
  | sensors => "sensors"

def StreamFault.message : StreamFault → String
  | ended => "failed to fill whole buffer"
  | full => "failed to write whole buffer"

/-- The wording of an open fault, with the number of the system error if it is one. -/
def OpenFault.message : OpenFault → String
  | notFound => "No such file or directory (os error 2)"
  | notDirectory => "Not a directory (os error 20)"
  | isDirectory => "Is a directory (os error 21)"
  | nameTooLong => "File name too long (os error 36)"
  | nulInName => "file name contained an unexpected NUL byte"

def SettingsFault.message : SettingsFault → String
  | notPositive field value => field ++ " must be positive and finite, got " ++ value.shortest
  | gravityNotFinite => "gravity must be finite"
  | described reason => reason

namespace Failure

def message : Failure → String
  | incompatibleSnapshot table stored supported =>
    "incompatible snapshot: stores " ++ toString stored ++ " " ++ table.entries ++ ", only " ++
      toString supported ++ " supported"
  | traceOpen path cause => "cannot open ground truth file " ++ path ++ ": " ++ cause.message
  | invalidSettings fault => "invalid configuration: " ++ fault.message
  | stream fault => "I/O error: " ++ fault.message

/-- True for the failures of reading or writing a stream or a file. -/
def concernsStream : Failure → Bool
  | invalidSettings _ => false
  | _ => true

end Failure

end Sensorium
