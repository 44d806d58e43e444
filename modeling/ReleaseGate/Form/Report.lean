/-
# Form.Report — reports and drift in documents

A report read from a document keeps the bump that is written there, whatever
its buckets would call for.
-/
import ReleaseGate.Drift
import ReleaseGate.Form.Diff

namespace ReleaseGate.Form

set_option autoImplicit false

open Record

variable {ν : Type} [Json.ValueSource ν]

/-- A report while it is read. -/
structure ReportSoFar where
  changes : Option Buckets := none
  bump : Option Version.Bump := none

def reportLayout : Layout ν ReportSoFar Report where
  name := "AstVersionedReport"
  fields :=
    [fieldOf "changes" (·.changes) (fun s v => { s with changes := some v }) readBuckets,
      fieldOf "delta" (·.bump) (fun s v => { s with bump := some v }) readBump]
  blank := {}
  finish _ s := do return ⟨← need "changes" 0 s.changes, ← need "delta" 1 s.bump⟩

def readReport (part : ν) : Except Refusal Report := reportLayout.read part

def reportJson (r : Report) : Json :=
  .object [("changes", bucketsJson r.changes), ("delta", bumpJson r.bump)]

/-- Values by name; of two entries with one name the later counts. -/
def readNameMap {α : Type} (read : ν → Except Refusal α) (part : ν) :
    Except Refusal (NameMap α) := do
  return NameMap.ofList (← readMap read part)

def nameMapJson {α : Type} (json : α → Json) (m : NameMap α) : Json :=
  .object (m.toList.map fun entry => (entry.1, json entry.2))

/-- A detailed report while it is read. -/
structure DetailedSoFar where
  whole : Option Report := none
  contracts : Option (NameMap Report) := none

def detailedLayout : Layout ν DetailedSoFar DetailedReport where
  name := "AstDetailedVersionedReport"
  fields :=
    [fieldOf "global" (·.whole) (fun s v => { s with whole := some v }) readReport,
      fieldOf "contracts" (·.contracts) (fun s v => { s with contracts := some v })
        (readNameMap readReport)]
  blank := {}
  finish _ s := do return ⟨← need "global" 0 s.whole, ← need "contracts" 1 s.contracts⟩

def readDetailedReport (part : ν) : Except Refusal DetailedReport := detailedLayout.read part

def detailedReportJson (r : DetailedReport) : Json :=
  .object [("global", reportJson r.whole), ("contracts", nameMapJson reportJson r.contracts)]

/-- Drift while it is read. -/
structure DriftSoFar where
  contract : Option String := none
  previous : Option Version := none
  expected : Option Version := none
  reported : Option Version := none

def driftLayout : Layout ν DriftSoFar Drift where
  name := "VersionDrift"
  fields :=
    [fieldOf "contract_name" (·.contract) (fun s v => { s with contract := some v }) readText,
      fieldOf "previous" (·.previous) (fun s v => { s with previous := some v }) readVersion,
      fieldOf "expected" (·.expected) (fun s v => { s with expected := some v }) readVersion,
      fieldOf "reported" (·.reported) (fun s v => { s with reported := some v }) readVersion]
  blank := {}
  finish _ s := do
    return ⟨← need "contract_name" 0 s.contract, ← need "previous" 1 s.previous,
      ← need "expected" 2 s.expected, ← need "reported" 3 s.reported⟩

def readDrift (part : ν) : Except Refusal Drift := driftLayout.read part

def driftJson (d : Drift) : Json :=
  .object
    [("contract_name", .text d.contract), ("previous", versionJson d.previous),
      ("expected", versionJson d.expected), ("reported", versionJson d.reported)]

end ReleaseGate.Form
