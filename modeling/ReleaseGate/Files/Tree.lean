/-
# Files.Tree — files and directories in memory

A tree is a file or a directory of named trees; a location names a tree from the
root. A path is followed step by step (`Disk.enter`): each step asks for a
directory to take it in, and its fault says which step failed.

What is done to a disk is an `Action`. One that fails half-way keeps what it has
done: directories on the way stay, and a directory that could not be removed is
empty.

Names are texts. A disk can hold names of bytes that are no UTF-8; these trees cannot.
-/
import ReleaseGate.Files.Path

namespace ReleaseGate.Files

set_option autoImplicit false

inductive Tree where
  | file (bytes : ByteArray)
  | directory (entries : List (String × Tree))

/-- Names from the root. -/
abbrev Location := List String

namespace Tree

/-- Put a tree under a name. -/
def put (name : String) (tree : Tree) : List (String × Tree) → List (String × Tree)
  | [] => [(name, tree)]
  | (key, value) :: rest =>
      if key = name then (key, tree) :: rest else (key, value) :: put name tree rest

/-- The tree at a location. -/
def at? : Tree → Location → Option Tree
  | tree, [] => some tree
  | .file _, _ :: _ => none
  | .directory entries, name :: rest =>
      match entries.lookup name with
      | some tree => tree.at? rest
      | none => none

/-- The tree with another one at a location, or with none. -/
def replace (new : Option Tree) : Tree → Location → Option Tree
  | _, [] => new
  | .file bytes, _ :: _ => some (.file bytes)
  | .directory entries, name :: rest =>
      let inner := match entries.lookup name with
        | some tree => tree.replace new rest
        | none => if rest.isEmpty then new else none
      match inner with
      | some tree => some (.directory (put name tree entries))
      | none => some (.directory (entries.filter fun entry => entry.1 != name))

end Tree

/-! ## Looking -/

/-- A directory in memory, or nothing once it is removed. -/
structure Disk where
  root : Option Tree

namespace Disk

def empty : Disk := ⟨some (.directory [])⟩

/-- The tree at a location. -/
def at? (disk : Disk) (location : Location) : Option Tree := disk.root.bind (·.at? location)

/-- The entries of the directory at a location. -/
def entries (disk : Disk) (location : Location) : Except Fault (List (String × Tree)) :=
  match disk.at? location with
  | some (.directory entries) => .ok entries
  | some (.file _) => .error .notDirectory
  | none => .error .missing

/-- Take a step from a location. -/
def enter (disk : Disk) (location : Location) (step : String) : Except Fault Location := do
  let entries ← disk.entries location
  if step = "." then return location
  else if step = ".." then return location.dropLast
  else if nameLimit < step.utf8ByteSize then throw .nameTooLong
  else if (entries.lookup step).isNone then throw .missing
  else return location ++ [step]

/-- Where a path leads. -/
def locate (disk : Disk) (path : Path) : Except Fault Location := do
  path.check
  path.steps.foldlM disk.enter []

/-- The directory in which a path takes its last step. -/
def locateLast (disk : Disk) (path : Path) : Except Fault Location := do
  path.check
  let location ← path.steps.dropLast.foldlM disk.enter []
  let _ ← disk.entries location
  return location

/-- The tree that a path leads to. -/
def find (disk : Disk) (path : Path) : Except Fault Tree := do
  match disk.at? (← disk.locate path) with
  | none => throw .missing
  | some (.directory entries) => return .directory entries
  | some (.file bytes) => if path.endsInSlash then throw .notDirectory else return .file bytes

def holds (disk : Disk) (path : Path) : Bool := (disk.find path).toBool

/-- Whether a path leads to a directory. -/
def holdsDirectory (disk : Disk) (path : Path) : Bool :=
  match disk.find path with
  | .ok (.directory _) => true
  | _ => false

/-- The text of the file at a path. -/
def read (disk : Disk) (path : Path) : Contents := do
  match ← disk.find path with
  | .directory _ => throw .isDirectory
  | .file bytes =>
      match String.fromUTF8? bytes with
      | some text => return text
      | none => throw .notText

/-- The names in the directory at a path, with the texts of the files. -/
def list (disk : Disk) (path : Path) : Listing := do
  match ← disk.find path with
  | .file _ => throw .notDirectory
  | .directory entries => return entries.map fun entry => ⟨entry.1, disk.read (path.child entry.1)⟩

/-- The disk with another tree at a location, or with none. -/
def replace (disk : Disk) (location : Location) (new : Option Tree) : Disk :=
  match disk.root with
  | some tree => ⟨tree.replace new location⟩
  | none => if location.isEmpty then ⟨new⟩ else disk

end Disk

/-! ## Changing -/

/-- What is done to a disk: it succeeds or fails, and there is a disk after it either way. -/
abbrev Action := ExceptT Fault (StateM Disk)

namespace Action

/-- The outcome of looking at the disk. -/
def look {α : Type} (f : Disk → Except Fault α) : Action α := do ExceptT.mk (pure (f (← get)))

/-- Put a tree at a location, or remove the one there. -/
def replace (location : Location) (new : Option Tree) : Action Unit :=
  modify fun disk => disk.replace location new

/-- Write a file; its directory has to be there. -/
def write (path : Path) (bytes : ByteArray) : Action Unit := do
  look fun _ => path.check
  match path.steps.getLast? with
  | none => throw .isDirectory
  | some name =>
      let location ← look (·.locateLast path)
      if Path.isDots name || path.endsInSlash then throw .isDirectory
      else if nameLimit < name.utf8ByteSize then throw .nameTooLong
      else
        match (← get).at? (location ++ [name]) with
        | some (.directory _) => throw .isDirectory
        | _ => replace (location ++ [name]) (some (.file bytes))

/-- Make a directory in one that is there. -/
def makeLast (path : Path) : Action Unit := do
  look fun _ => path.check
  match path.steps.getLast? with
  | none => if (← get).root.isSome then throw .occupied else replace [] (some (.directory []))
  | some name =>
      let location ← look (·.locateLast path)
      if Path.isDots name then throw .occupied
      else if nameLimit < name.utf8ByteSize then throw .nameTooLong
      else if ((← get).at? (location ++ [name])).isSome then throw .occupied
      else replace (location ++ [name]) (some (.directory []))

/-- Make a directory, if there is none. -/
def makeUnlessThere (path : Path) (otherwise : Fault → Action Unit) : Action Unit :=
  tryCatch (makeLast path) fun fault => do
    if (← get).holdsDirectory path then pure () else otherwise fault

/-- Make a directory at the first of some paths; where something is missing on the way, at the
following ones first. -/
def makeFirst : List Path → Action Unit
  | [] => pure ()
  | path :: above =>
      makeUnlessThere path fun fault => do
        if fault = .missing then do
          makeFirst above
          makeUnlessThere path throw
        else throw fault

/-- Make a directory and those on the way to it. -/
def makeDirectory (path : Path) : Action Unit := makeFirst (path :: path.above)

/-- Write a file, and make the directories on the way to it. -/
def writeWithin (path : Path) (bytes : ByteArray) : Action Unit := do
  makeFirst path.above
  write path bytes

/-- Remove the directory that a path leads to, with all that is in it. If the way led through
the directory itself, it is lost then; the step `.` names no directory that could go. -/
def removeDirectory (path : Path) : Action Unit := do
  replace (← look (·.locate path)) (some (.directory []))
  match path.steps.getLast? with
  | none => replace [] none
  | some name =>
      match (← get).locateLast path with
      | .error .missing => pure ()
      | .error fault => throw fault
      | .ok location =>
          if name = "." then throw .notRemovable
          else if name = ".." then pure ()
          else replace (location ++ [name]) none

/-- Remove a file. -/
def removeFile (path : Path) : Action Unit := do
  let location ← look (·.locateLast path)
  match path.steps.getLast? with
  | none => throw .missing
  | some name =>
      if nameLimit < name.utf8ByteSize then throw .nameTooLong
      else if ((← get).at? (location ++ [name])).isNone then throw .missing
      else if path.endsInSlash then throw .notDirectory
      else replace (location ++ [name]) none

/-- Remove a file, or a directory with all that is in it. -/
def remove (path : Path) : Action Unit := do
  if (← get).holdsDirectory path then removeDirectory path else removeFile path

end Action

end ReleaseGate.Files
