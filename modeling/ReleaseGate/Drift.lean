/-
# Drift — versions that do not match the changes

A contract in both builds should tell, in the new one, its old version with
the bump its changes need. `Drift.detect` lists the contracts that tell
another one, by ascending name; it fails at the first contract whose old
version cannot be bumped.
-/
import ReleaseGate.Report

namespace ReleaseGate

set_option autoImplicit false

/-- A contract that tells an unexpected version. -/
structure Drift where
  contract : String
  /-- The version told by the old build. -/
  previous : Version
  /-- The old version after the bump the changes need. -/
  expected : Version
  /-- The version told by the new build. -/
  reported : Version
  deriving DecidableEq, Repr

namespace Drift

def entry (d : Drift) : Entry :=
  let ⟨contract, previous, expected, reported⟩ := d
  ⟨.warn,
    s!"{contract} reports version {reported} but its changes imply {expected} (was {previous})"⟩

/-- Look at the contracts of the new build one after the other. -/
def detectIn (bumpFor : String → Version.Bump) (previous : NameMap Version) :
    List (String × Version) → Logged (Except Version.Fault (List Drift))
  | [] => pure (.ok [])
  | (name, reported) :: rest =>
      match previous.get? name with
      | none => detectIn bumpFor previous rest
      | some before =>
          match (bumpFor name).apply before with
          | .error fault => pure (.error fault)
          | .ok expected =>
              if expected = reported then detectIn bumpFor previous rest
              else do
                let drift : Drift := ⟨name, before, expected, reported⟩
                let entry := drift.entry
                Logged.note entry.level entry.text
                let found ← detectIn bumpFor previous rest
                return found.map (drift :: ·)

/-- The contracts whose new version is not the one their changes imply. -/
def detect (report : DetailedReport) (previous current : NameMap Version) :
    Logged (Except Version.Fault (List Drift)) :=
  detectIn report.bumpFor previous current.toList

end Drift

end ReleaseGate
