/-
# Form.Diff — changes, verdicts, diffs and buckets in documents

A change is an object: its contract, its kind, and beside them any other keys,
which are its details. Details keep the order in which their keys first
appear; a repeated key takes its last value.
-/
import ReleaseGate.Diff.Buckets
import ReleaseGate.Form.Version

namespace ReleaseGate.Form

set_option autoImplicit false

open Record

variable {ν : Type} [Json.ValueSource ν]

/-- A change while it is read. -/
structure ChangeSoFar where
  contract : Option String := none
  kind : Option String := none
  details : List (String × Json) := []

/-- Read the fields of a change in the order of the document. -/
def readChangeFields :
    List (Option String × ν) → ChangeSoFar → Except Refusal ChangeSoFar
  | [], s => .ok s
  | (none, _) :: _, _ => .error .malformed
  | (some "contractName", part) :: rest, s =>
      if s.contract.isSome then .error (.mismatch (.repeated "contractName"))
      else do readChangeFields rest { s with contract := some (← readText part) }
  | (some "kind", part) :: rest, s =>
      if s.kind.isSome then .error (.mismatch (.repeated "kind"))
      else do readChangeFields rest { s with kind := some (← readText part) }
  | (some key, part) :: rest, s =>
      match Json.ValueSource.toJson? part with
      | some value => readChangeFields rest { s with details := Json.setField key value s.details }
      | none => .error .malformed

def readChange (part : ν) : Except Refusal Change :=
  match Source.shape part with
  | .map fields closed => do
      let s ← readChangeFields fields {}
      if !closed then throw .malformed
      match s.contract with
      | some contract => return ⟨contract, s.kind.getD "", s.details⟩
      | none => throw (.mismatch (.missing "contractName"))
  | shape => .error (shape.refuse "struct ApiChange")

def changeJson (c : Change) : Json :=
  .object (("contractName", .text c.contract) :: ("kind", .text c.kind) :: c.details)

/-- A verdict while it is read. -/
structure VerdictSoFar where
  contract : Option String := none
  compatible : Option Bool := none

def verdictLayout : Layout ν VerdictSoFar LayoutVerdict where
  name := "StorageCompatibilityReport"
  fields :=
    [fieldOf "contractName" (·.contract) (fun s v => { s with contract := some v }) readText,
      fieldOf "compatible" (·.compatible) (fun s v => { s with compatible := some v }) readBoolean]
  blank := {}
  finish _ s := do
    return ⟨← need "contractName" 0 s.contract, ← need "compatible" 1 s.compatible⟩

def readVerdict (part : ν) : Except Refusal LayoutVerdict := verdictLayout.read part

def verdictJson (l : LayoutVerdict) : Json :=
  .object [("contractName", .text l.contract), ("compatible", .bool l.compatible)]

/-- A diff while it is read. -/
structure DiffSoFar where
  changes : Option (List Change) := none
  layouts : Option (List LayoutVerdict) := none

def diffLayout : Layout ν DiffSoFar Diff where
  name := "AstReports"
  fields :=
    [fieldOf "changes" (·.changes) (fun s v => { s with changes := some v }) (readList readChange),
      fieldOf "storage" (·.layouts) (fun s v => { s with layouts := some v })
        (readList readVerdict)]
  blank := {}
  finish _ s := do return ⟨← need "changes" 0 s.changes, ← need "storage" 1 s.layouts⟩

def readDiff (part : ν) : Except Refusal Diff := diffLayout.read part

def diffJson (d : Diff) : Json :=
  .object
    [("changes", .list (d.changes.map changeJson)),
      ("storage", .list (d.layouts.map verdictJson))]

/-- The names of the categories. -/
def categoryNames : List (String × Category) :=
  [("major", .major), ("minor", .minor), ("patch", .patch)]

def readCategory (part : ν) : Except Refusal Category := readVariant categoryNames part

def categoryJson (c : Category) : Json := .text c.name

/-- Buckets while they are read. -/
structure BucketsSoFar where
  storage : Option (List LayoutVerdict) := none
  major : Option (List Change) := none
  minor : Option (List Change) := none
  patch : Option (List Change) := none

def bucketsLayout : Layout ν BucketsSoFar Buckets where
  name := "CategorizedChanges"
  fields :=
    [fieldOf "storage" (·.storage) (fun s v => { s with storage := some v }) (readList readVerdict),
      fieldOf "major" (·.major) (fun s v => { s with major := some v }) (readList readChange),
      fieldOf "minor" (·.minor) (fun s v => { s with minor := some v }) (readList readChange),
      fieldOf "patch" (·.patch) (fun s v => { s with patch := some v }) (readList readChange)]
  blank := {}
  finish _ s := do
    return ⟨← need "storage" 0 s.storage, ← need "major" 1 s.major, ← need "minor" 2 s.minor,
      ← need "patch" 3 s.patch⟩

def readBuckets (part : ν) : Except Refusal Buckets := bucketsLayout.read part

def bucketsJson (b : Buckets) : Json :=
  .object
    [("storage", .list (b.storage.map verdictJson)), ("major", .list (b.major.map changeJson)),
      ("minor", .list (b.minor.map changeJson)), ("patch", .list (b.patch.map changeJson))]

end ReleaseGate.Form
