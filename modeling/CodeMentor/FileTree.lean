import CodeMentor.Error
import CodeMentor.Text.Pieces

/-!
# Trees of files

The files that a program can reach, as a value: directories and files by the names that lead to
them. Paths are followed name by name, so every directory on the way has to be there, even one that
is left again by a step upwards. The working directory lies somewhere below the root, in directories
that hold nothing else; what else is known to be there is the null device.
-/

namespace CodeMentor

open CodeMentor.Text

/-- The names that lead from the root to a place. -/
abbrev Place := List String

structure FileTree where
  directories : List Place
  files : List (Place × List UInt8)
deriving DecidableEq, Repr

namespace FileTree

/-- The working directory. No path spells an empty name, so it is reached by relative paths only. -/
def workingDirectory : Place := ["", ""]

/-- The file that is always empty and takes everything. -/
def nullDevice : Place := ["dev", "null"]

inductive Entry where
  | directory
  | file (content : List UInt8)
deriving DecidableEq, Repr

/-- Whether a directory is at a place. The working directory is always there, and so are the
directories above it and the one of the devices. -/
def hasDirectory (t : FileTree) (place : Place) : Bool :=
  place.isPrefixOf workingDirectory || place == nullDevice.dropLast || place ∈ t.directories

def entry? (t : FileTree) (place : Place) : Option Entry :=
  if t.hasDirectory place then some .directory
  else if place = nullDevice then some (.file [])
  else (t.files.find? (·.1 = place)).map fun f => .file f.2

def nameLimit : Nat := 255

def pathLimit : Nat := 4095

def step (t : FileTree) (place : Place) (name : String) : Except IoFailure Place :=
  match t.entry? place with
  | none => .error .notFound
  | some (.file _) => .error .notDirectory
  | some .directory =>
    if name = "" ∨ name = "." then .ok place
    else if name = ".." then .ok place.dropLast
    else if nameLimit < name.utf8ByteSize then .error .nameTooLong
    else .ok (place ++ [name])

def names (path : String) : List String :=
  (pieces (· == '/') path.toList).map String.ofList

/-- Where a path starts: at the root if its first name is empty. -/
def startOf : List String → Place
  | "" :: _ :: _ => []
  | _ => workingDirectory

/-- The place at the end of a path. Nothing has to be there, but everything before it has to. -/
def follow (t : FileTree) (names : List String) : Except IoFailure Place :=
  if pathLimit < ("/".intercalate names).utf8ByteSize then .error .nameTooLong
  else names.foldlM t.step (startOf names)

def read (t : FileTree) (path : String) : Except IoFailure (List UInt8) := do
  match t.entry? (← t.follow (names path)) with
  | none => .error .notFound
  | some .directory => .error (if path = "" then .notFound else .isDirectory)
  | some (.file content) => .ok content

/-- Make one directory, below one that is there. -/
def makeDirectory (t : FileTree) (names : List String) : Except IoFailure FileTree := do
  let place ← t.follow names
  match t.entry? place with
  | some _ => .error .alreadyExists
  | none => .ok { t with directories := t.directories ++ [place] }

def isDirectory (t : FileTree) (names : List String) : Bool :=
  match t.follow names with
  | .ok place => t.entry? place = some .directory
  | .error _ => false

def ensureDirectory (t : FileTree) (names : List String) : Except IoFailure FileTree :=
  match t.makeDirectory names with
  | .ok made => .ok made
  | .error e => if t.isDirectory names then .ok t else .error e

/-- Make a directory and all that are missing before it. The names are given from the last to the
first. -/
def ensureDirectories (t : FileTree) : List String → Except IoFailure FileTree
  | [] => .ok t
  | last :: before =>
    match t.ensureDirectory (last :: before).reverse with
    | .error e =>
      if e = .notFound then do
        (← t.ensureDirectories before).ensureDirectory (last :: before).reverse
      else .error e
    | .ok made => .ok made

/-- Write a file in a directory that is there, in place of one of the same name. A path with a slash
at its end never names a file. -/
def write (t : FileTree) (path : String) (content : List UInt8) : Except IoFailure FileTree := do
  let all := names path
  let place ← t.follow (dropEndWhile (· == "") all)
  if path = "" then .error .notFound
  else if all.getLast? = some "" then .error .isDirectory
  else match t.entry? place with
    | some .directory => .error .isDirectory
    | some (.file _) =>
      .ok { t with files := t.files.map fun f => if f.1 = place then (place, content) else f }
    | none => .ok { t with files := t.files ++ [(place, content)] }

/-- The names before the last one of a path, from the last to the first. Empty names and dots do not
count, except at the very beginning. -/
def parentNames (path : String) : List String :=
  let kept := match names path with
    | first :: rest => first :: rest.filter fun n => n ≠ "" ∧ n ≠ "."
    | [] => []
  kept.dropLast.reverse

/-- Write a file and make the directories that are missing for it. -/
def save (t : FileTree) (path : String) (content : List UInt8) : Except IoFailure FileTree := do
  (← t.ensureDirectories (parentNames path)).write path content

def ancestors (place : Place) : List Place :=
  ((List.range place.length).drop 1).map place.take

/-- The tree with some files below the working directory and the directories on their ways. -/
def ofFiles (files : List (List String × List UInt8)) : FileTree :=
  let placed := files.map fun f => (workingDirectory ++ f.1, f.2)
  { directories := (placed.flatMap fun f => ancestors f.1).eraseDups
    files := placed }

def localFiles (t : FileTree) : List (List String × List UInt8) :=
  t.files.filterMap fun f => (workingDirectory.isPrefixOf? f.1).map (·, f.2)

end FileTree

end CodeMentor
