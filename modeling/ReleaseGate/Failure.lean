/-
# Failure — why a release check fails

A check can fail at its pattern, at a version, at the builds; a release can
fail one of its two gates. Each failure but an overflowing version comes with
advice.
-/
import ReleaseGate.Build.Directory
import ReleaseGate.Settings.Check

namespace ReleaseGate

set_option autoImplicit false

inductive Failure where
  | pattern (bad : Settings.BadPattern)
  | version (fault : Version.Fault)
  | build (fault : Build.LoadFault)
  /-- Contracts whose storage layout cannot be replaced. -/
  | storage (contracts : List String)
  /-- Contracts that tell an unexpected version. -/
  | drift (contracts : List String)
  deriving DecidableEq, Repr

namespace Failure

/-- What can be done about a failure. -/
def advice : Failure → Option String
  | .pattern _ =>
      some "Fix the 'exclude' regex in .contract-semver.toml (e.g. \"^(Migrations|Mock.*)$\")"
  | .version fault =>
      if fault.isFormat then
        some "Versions have four numeric components: storage.major.minor.patch"
      else none
  | .build _ => some "Rebuild the contracts so the build directory holds valid artifacts"
  | .storage _ => some "Restore the previous storage layout or deploy behind a new proxy"
  | .drift _ => some "Update getVersionNumber() to return the version the changes imply"

/-- What happened, without the advice. -/
def plainAccount : Failure → Account
  | .pattern bad => bad.account
  | .version fault => { text := fault.message }
  | .build fault => fault.account
  | .storage contracts =>
      { text := "Storage layout is incompatible for: " ++ String.intercalate ", " contracts }
  | .drift contracts =>
      let names := String.intercalate ", " contracts
      { text := s!"{contracts.length} contract(s) report an unexpected version: {names}" }

def account (f : Failure) : Account := { f.plainAccount with advice := f.advice }

end Failure

/-- The account of bytecode that tells no version. -/
def Build.Fault.account (f : Build.Fault) : Account where
  text := f.message
  causes := match f with
    | .version fault => [fault.message]
    | _ => []

end ReleaseGate
