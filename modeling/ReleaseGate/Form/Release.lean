/-
# Form.Release — releases in documents

A release is written with everything the check found, so that its verdict can
be read off the document.
-/
import ReleaseGate.Form.Report
import ReleaseGate.Release

namespace ReleaseGate.Form

set_option autoImplicit false

open Record

variable {ν : Type} [Json.ValueSource ν]

/-- The names of the verdicts. -/
def verdictNames : List (String × Verdict) :=
  [("unchanged", .unchanged), ("consistent", .consistent), ("drifted", .drifted),
    ("storage-break", .storageBreak)]

def readReleaseVerdict (part : ν) : Except Refusal Verdict := readVariant verdictNames part

def verdictName : Verdict → String
  | .unchanged => "unchanged"
  | .consistent => "consistent"
  | .drifted => "drifted"
  | .storageBreak => "storage-break"

/-- A release while it is read. -/
structure ReleaseSoFar where
  report : Option DetailedReport := none
  previous : Option (NameMap Version) := none
  current : Option (NameMap Version) := none
  drift : Option (List Drift) := none

def releaseLayout : Layout ν ReleaseSoFar Release where
  name := "ReleaseResult"
  fields :=
    [fieldOf "report" (·.report) (fun s v => { s with report := some v }) readDetailedReport,
      fieldOf "previous_versions" (·.previous) (fun s v => { s with previous := some v })
        (readNameMap readVersion),
      fieldOf "current_versions" (·.current) (fun s v => { s with current := some v })
        (readNameMap readVersion),
      fieldOf "drift" (·.drift) (fun s v => { s with drift := some v }) (readList readDrift)]
  blank := {}
  finish _ s := do
    return ⟨← need "report" 0 s.report, ← need "previous_versions" 1 s.previous,
      ← need "current_versions" 2 s.current, ← need "drift" 3 s.drift⟩

def readRelease (part : ν) : Except Refusal Release := releaseLayout.read part

def releaseJson (r : Release) : Json :=
  .object
    [("report", detailedReportJson r.report),
      ("previous_versions", nameMapJson versionJson r.previous),
      ("current_versions", nameMapJson versionJson r.current),
      ("drift", .list (r.drift.map driftJson))]

end ReleaseGate.Form
