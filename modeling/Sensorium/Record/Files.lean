import Sensorium.Failure

/-!
# Files

Just as much of a file system as a trace needs: directories, text files made of lines,
and a device that can be opened but takes nothing. A path is resolved name by name the
way the system does it, `..` included.
-/

namespace Sensorium

/-- The names that lead from the root to a file. -/
abbrev Location := List String

inductive Node where
  | directory
  | text (lines : List String)
  /-- A device that can be opened for writing and is always full. -/
  | fullDevice
  deriving DecidableEq, Repr

/-- A file system. The root is always a directory. -/
structure FileTree where
  nodes : List (Location × Node)
  deriving DecidableEq, Repr

/-- Where relative paths lead. -/
structure Places where
  home : Option String
  working : String
  deriving DecidableEq, Repr

def longestName : Nat := 255

/-- The longest path, in bytes. -/
def longestPath : Nat := 4095

namespace Places

/-- A path relative to a directory. Nothing is normalised. -/
def join (directory path : String) : String :=
  if directory.endsWith "/" then directory ++ path else directory ++ "/" ++ path

/-- The path that a path stands for: an absolute one for itself, any other one for a path
    in the home directory, or in the working directory if there is no home. -/
def resolve (places : Places) (path : String) : String :=
  if path.startsWith "/" then path else join (places.home.getD places.working) path

end Places

namespace FileTree

def get? (tree : FileTree) (location : Location) : Option Node :=
  if location = [] then some .directory
  else (tree.nodes.find? (·.1 = location)).map (·.2)

def put (tree : FileTree) (location : Location) (node : Node) : FileTree :=
  ⟨tree.nodes.filter (·.1 ≠ location) ++ [(location, node)]⟩

/-- The directory that names lead to from a directory. -/
def walk (tree : FileTree) (base : Location) : List String → Except OpenFault Location
  | [] => .ok base
  | "." :: rest => walk tree base rest
  | ".." :: rest => walk tree base.dropLast rest
  | name :: rest =>
    if longestName < name.utf8ByteSize then .error .nameTooLong
    else match tree.get? (base ++ [name]) with
      | some .directory => walk tree (base ++ [name]) rest
      | some _ => .error .notDirectory
      | none => .error .notFound

/-- The location at which an absolute path has a file created, which is not a directory. -/
def locate (tree : FileTree) (path : String) : Except OpenFault Location := do
  if path.contains '\x00' then throw .nulInName
  if longestPath < path.utf8ByteSize then throw .nameTooLong
  let names := (path.splitOn "/").filter (· ≠ "")
  let directory ← tree.walk [] names.dropLast
  match names.getLast? with
  | none | some "." | some ".." => throw .isDirectory
  | some name =>
    if path.endsWith "/" then throw .isDirectory
    if longestName < name.utf8ByteSize then throw .nameTooLong
    let location := directory ++ [name]
    if tree.get? location = some .directory then throw .isDirectory
    return location

/-- Opens the file of an absolute path for writing from its start. -/
def create (tree : FileTree) (path : String) : Except OpenFault (FileTree × Location) := do
  let location ← tree.locate path
  match tree.get? location with
  | some .fullDevice => return (tree, location)
  | _ => return (tree.put location (.text []), location)

/-- Appends a line to a file. A full device takes nothing. -/
def appendLine (tree : FileTree) (location : Location) (line : String) : FileTree :=
  match tree.get? location with
  | some (.text lines) => tree.put location (.text (lines ++ [line]))
  | _ => tree

/-- The text files below a directory, with the names that lead to them from there. -/
def textsBelow (tree : FileTree) (directory : Location) : List (Location × List String) :=
  tree.nodes.filterMap fun (location, node) =>
    match node with
    | .text lines =>
      if directory.isPrefixOf location then some (location.drop directory.length, lines) else none
    | _ => none

end FileTree

end Sensorium
