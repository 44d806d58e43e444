/-
# Settings — what a release check is told in advance

Which contracts are left out, and how the version of a contract is asked for:
the function to call, the gas for the call, the version to fall back on, and
how the answer is decoded.
-/
import ReleaseGate.Version.Buffer

namespace ReleaseGate

set_option autoImplicit false

/-- How versions are asked for. -/
structure ProbeSettings where
  /-- The function without parameters that tells the version. -/
  signature : String
  gasLimit : UInt64
  /-- The version of a contract that tells none. -/
  fallback : Version
  decoding : Version.Decoding
  deriving DecidableEq, Repr

structure Settings where
  /-- A pattern for the names of contracts to leave out. -/
  exclude : Option String
  probe : ProbeSettings
  deriving DecidableEq, Repr

/-- The signature that is called unless the settings name another. -/
def defaultSignature : String := "getVersionNumber()"

def ProbeSettings.default : ProbeSettings where
  signature := defaultSignature
  gasLimit := 10000000
  fallback := .initial
  decoding := .hexDigits

instance : Inhabited ProbeSettings := ⟨.default⟩

def Settings.default : Settings := ⟨none, .default⟩

instance : Inhabited Settings := ⟨.default⟩

end ReleaseGate
