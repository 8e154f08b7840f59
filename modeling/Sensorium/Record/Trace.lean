import Sensorium.Motion.Track
import Sensorium.Record.Files

/-!
# Pose traces

A trace is a text file with one line for every pose that was read while it was being
recorded: the moment, the position and the angles about x, y and z in degrees.
-/

namespace Sensorium

/-- Where a body is and how it is turned. -/
structure Pose where
  position : Vec3 Single
  angles : Vec3 Single
  time : Nanos
  deriving DecidableEq, Repr

namespace Pose

/-- Places of the numbers in a trace. -/
def tracePlaces : Nat := 6

def fields (pose : Pose) : List String :=
  toString pose.time :: (pose.position.toList ++ pose.angles.toList).map (Single.fixed tracePlaces)

def line (pose : Pose) : String := " ".intercalate pose.fields

end Pose

/-- A trace that is being recorded. -/
structure Recorder where
  /-- The path that the trace was asked for under, made absolute. -/
  path : String
  location : Location
  deriving DecidableEq, Repr

namespace Recorder

/-- Starts a trace: creates the file, or empties it. -/
def start (places : Places) (tree : FileTree) (path : String) :
    Except Failure (FileTree × Recorder) :=
  let path := places.resolve path
  match tree.create path with
  | .ok (tree, location) => .ok (tree, ⟨path, location⟩)
  | .error cause => .error (.traceOpen path cause)

def append (recorder : Recorder) (tree : FileTree) (pose : Pose) : FileTree :=
  tree.appendLine recorder.location pose.line

end Recorder

end Sensorium
