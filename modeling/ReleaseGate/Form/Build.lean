/-
# Form.Build — artifacts and resolved versions in documents

An artifact without bytecode has the empty text.
-/
import ReleaseGate.Build.Extraction
import ReleaseGate.Form.Version

namespace ReleaseGate.Form

set_option autoImplicit false

open Record Build

variable {ν : Type} [Source ν]

/-- An artifact while it is read. -/
structure ArtifactSoFar where
  name : Option String := none
  bytecode : Option String := none

def artifactLayout : Layout ν ArtifactSoFar Artifact where
  name := "Artifact"
  fields :=
    [fieldOf "contractName" (·.name) (fun s v => { s with name := some v }) readText,
      fieldOf "deployedBytecode" (·.bytecode) (fun s v => { s with bytecode := some v }) readText]
  blank := {}
  finish _ s := do return ⟨← need "contractName" 0 s.name, s.bytecode.getD ""⟩

def readArtifact (part : ν) : Except Refusal Artifact := artifactLayout.read part

def artifactJson (a : Artifact) : Json :=
  .object [("contractName", .text a.name), ("deployedBytecode", .text a.bytecode)]

/-- The names of the origins. -/
def originNames : List (String × Origin) := [("extracted", .extracted), ("defaulted", .defaulted)]

def readOrigin (part : ν) : Except Refusal Origin := readVariant originNames part

def originName : Origin → String
  | .extracted => "extracted"
  | .defaulted => "defaulted"

/-- A resolved version while it is read. -/
structure ResolvedSoFar where
  version : Option Version := none
  origin : Option Origin := none

def resolvedLayout : Layout ν ResolvedSoFar Resolved where
  name := "ExtractedVersion"
  fields :=
    [fieldOf "version" (·.version) (fun s v => { s with version := some v }) readVersion,
      fieldOf "source" (·.origin) (fun s v => { s with origin := some v }) readOrigin]
  blank := {}
  finish _ s := do return ⟨← need "version" 0 s.version, ← need "source" 1 s.origin⟩

def readResolved (part : ν) : Except Refusal Resolved := resolvedLayout.read part

def resolvedJson (r : Resolved) : Json :=
  .object [("version", versionJson r.version), ("source", .text (originName r.origin))]

end ReleaseGate.Form
