/-
# Files.Path — paths as they are written

A path leads from the root by steps, which stand between slashes. The step `.`
stays and `..` goes back, but neither is left out of a path: what may be done with
a path depends on how it ends. A slash at the end asks for a directory.

Directories on the way to a path are the paths without its last steps
(`Path.above`).
-/
import ReleaseGate.Files

namespace ReleaseGate.Files

set_option autoImplicit false

/-- The most bytes of a name. -/
def nameLimit : Nat := 255

/-- A path with as many bytes leads nowhere. -/
def pathLimit : Nat := 4080

/-- A path from the root. -/
structure Path where
  written : String
  deriving DecidableEq, Repr

namespace Path

def steps (path : Path) : List String := (path.written.splitOn "/").filter (· != "")

def ofSteps (steps : List String) : Path := ⟨String.intercalate "/" steps⟩

def endsInSlash (path : Path) : Bool := path.written.endsWith "/"

/-- The path of a name in the directory that a path leads to. -/
def child (path : Path) (name : String) : Path := ⟨join path.written name⟩

/-- What is wrong with a path wherever it leads. -/
def check (path : Path) : Except Fault Unit :=
  if path.written.toList.contains '\x00' then .error .zeroInName
  else if pathLimit ≤ path.written.utf8ByteSize then .error .nameTooLong
  else .ok ()

/-- Whether a step is no name. -/
def isDots (step : String) : Bool := step = "." || step = ".."

/-- What is left of steps, last step first, without their last one; steps that stay do not
count as last. -/
def stepsAbove : List String → List (List String)
  | [] => []
  | step :: rest =>
      if step = "." then stepsAbove rest else rest.dropWhile (· = ".") :: stepsAbove rest

/-- The paths on the way to a path, the longest first; the last one is the root. -/
def above (path : Path) : List Path :=
  (stepsAbove path.steps.reverse).map fun reversed => ofSteps reversed.reverse

end Path

end ReleaseGate.Files
