/-
# Release — may this build follow that one?

A release check sorts the changes between two builds, asks both builds for
their versions and compares what the new build tells with what its changes
call for. Contracts whose name matches the pattern of the settings are left out
of everything. The release passes if no storage layout breaks and no version
drifts.

Some of the system is left out of the library. Of the built-in contracts that code under
probe may call, the table that a run has by default holds the second and the fourth only
(`Evm.BuiltIns.basic`); so the table is a parameter of a check as it is of a probe, and
results are for every table. Code that creates a contract is ended by it
(`Evm.Halt.creation`); below the forwarder, where all frames are read-only, so it is under
the rules. File names are texts, and those that are no UTF-8 are not seen (`Files.Item`).
-/
import ReleaseGate.Drift
import ReleaseGate.Failure

namespace ReleaseGate

set_option autoImplicit false

/-- What a release check finds. -/
structure Release where
  report : DetailedReport
  /-- The versions that the old build tells. -/
  previous : NameMap Version
  /-- The versions that the new build tells. -/
  current : NameMap Version
  drift : List Drift

/-- The verdict on a release. -/
inductive Verdict where
  | unchanged
  | consistent
  | drifted
  | storageBreak
  deriving DecidableEq, Repr

/-- The verdict in a journal. -/
def Verdict.title : Verdict → String
  | .unchanged => "Unchanged"
  | .consistent => "Consistent"
  | .drifted => "Drifted"
  | .storageBreak => "StorageBreak"

/-- Whether a release with this verdict may go out. -/
def Verdict.passes : Verdict → Bool
  | .unchanged | .consistent => true
  | .drifted | .storageBreak => false

/-- Each name once. -/
def distinct (names : List String) : List String :=
  (NameMap.ofList (names.map fun name => (name, ()))).names

namespace Release

/-- A storage break counts more than drift, and drift more than changes. -/
def verdict (r : Release) : Verdict :=
  if r.report.whole.changes.breaksStorage then .storageBreak
  else if !r.drift.isEmpty then .drifted
  else if r.report.whole.bump.isUnchanged then .unchanged
  else .consistent

/-- What a process that makes the check ends with. -/
def exitCode (r : Release) : Nat := if r.verdict.passes then 0 else 1

/-- The contracts whose storage layout breaks, in order. -/
def brokenContracts (r : Release) : List String :=
  distinct (r.report.whole.changes.storage.map (·.contract))

/-- Fails if some storage layout breaks. -/
def storageGate (r : Release) : Except Failure Unit :=
  if r.brokenContracts.isEmpty then .ok () else .error (.storage r.brokenContracts)

/-- Fails if some version drifts. -/
def driftGate (r : Release) : Except Failure Unit :=
  if r.drift.isEmpty then .ok () else .error (.drift (r.drift.map (·.contract)))

def entry (r : Release) : Entry :=
  let title := r.verdict.title
  let summary := r.report.whole.summary
  ⟨.info, s!"Release check: {title} ({summary})"⟩

/-- Whether a pattern leaves a name in. -/
def keeps (pattern : Option Pattern) (name : String) : Bool := !(pattern.any fun p => p.isIn name)

/-- Check the contracts whose names pass `keep`. -/
def checkKeeping (keep : String → Bool) (settings : ProbeSettings) (diff : Diff) (policy : Policy)
    (previous current : List Build.Artifact) (builtIns : Evm.BuiltIns) :
    Logged (Except Failure Release) := do
  let report ← DetailedReport.create (diff.keeping keep) policy
  let previous := (← Build.versions previous settings builtIns).filterNames keep
  let current := (← Build.versions current settings builtIns).filterNames keep
  match ← Drift.detect report previous current with
  | .error fault => return .error (.version fault)
  | .ok drift => do
      let release : Release := { report, previous, current, drift }
      Logged.note release.entry.level release.entry.text
      return .ok release

/-- Check a release under settings. -/
def check (settings : Settings) (diff : Diff) (policy : Policy)
    (previous current : List Build.Artifact) (builtIns : Evm.BuiltIns := .basic) :
    Logged (Except Failure Release) :=
  match settings.pattern? with
  | .error bad => pure (.error (.pattern bad))
  | .ok pattern =>
      checkKeeping (keeps pattern) settings.probe diff policy previous current builtIns

end Release

end ReleaseGate
