/-
# Build.Directory — the artifacts of a build

The files of a build directory that end in `json` are read in the order of
their names. A file that is JSON but names no contract is passed over; the
first file that cannot be read stops the loading.
-/
import ReleaseGate.Account
import ReleaseGate.Files
import ReleaseGate.Form.Build

namespace ReleaseGate.Build

set_option autoImplicit false

open Record (Refusal)

/-- Why a build could not be loaded. -/
inductive LoadFault where
  | unreadable (path : String) (fault : Files.Fault)
  /-- A file is no artifact; `none` if it is not even JSON. -/
  | unparsable (path : String) (reason : Option String)
  deriving DecidableEq, Repr

/-- What is said about a file that is not JSON. -/
def notJsonText : String := "not JSON"

def LoadFault.account : LoadFault → Account
  | .unreadable path fault =>
      let why := fault.message
      { text := s!"I/O error reading {path}: {why}", causes := [why] }
  | .unparsable path reason =>
      let why := reason.getD notJsonText
      { text := s!"Failed to parse artifact {path}: {why}", causes := [why] }

/-- What is wrong with a file whose JSON is refused. -/
def refusalFault (path : String) : Refusal → LoadFault
  | .malformed => .unparsable path none
  | .mismatch m => .unparsable path (some m.message)

/-- Whether a value names a contract. -/
def namesContract (value : Json) : Bool :=
  match value.field? "contractName" with
  | some (.text _) => true
  | _ => false

/-- The artifact in a file, if the file names a contract. -/
def artifactIn (path : String) : Files.Contents → Logged (Except LoadFault (Option Artifact))
  | .error fault => pure (.error (.unreadable path fault))
  | .ok text =>
      match Json.ofText? text with
      | none => pure (.error (.unparsable path none))
      | some value =>
          if namesContract value then
            pure ((Form.readArtifact value).mapError (refusalFault path) |>.map some)
          else do
            Logged.debug s!"Skipping {path}: no contractName"
            return .ok none

/-- The artifacts in some files, up to the first fault. -/
def artifactsIn (directory : String) : List Files.Item → Logged (Except LoadFault (List Artifact))
  | [] => pure (.ok [])
  | item :: rest => do
      match ← artifactIn (Files.join directory item.name) item.contents with
      | .error fault => return .error fault
      | .ok found =>
          let others ← artifactsIn directory rest
          return others.map (found.toList ++ ·)

/-- The files of a listing that hold artifacts, in the order of their names. -/
def candidates (items : List Files.Item) : List Files.Item :=
  (items.filter fun item => Files.hasExtension "json" item.name).mergeSort
    fun a b => !decide (b.name < a.name)

/-- Load the artifacts in a directory. -/
def load (directory : String) (listing : Files.Listing) :
    Logged (Except LoadFault (List Artifact)) :=
  match listing with
  | .error fault => pure (.error (.unreadable directory fault))
  | .ok items => do
      match ← artifactsIn directory (candidates items) with
      | .error fault => return .error fault
      | .ok artifacts =>
          Logged.debug s!"Loaded {artifacts.length} artifact(s) from {directory}"
          return .ok artifacts

/-- The first artifact of a contract. -/
def get? (artifacts : List Artifact) (name : String) : Option Artifact :=
  artifacts.find? fun a => a.name = name

end ReleaseGate.Build
