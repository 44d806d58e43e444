/-
# Build.Extraction — the version that bytecode tells

Bytecode text is linked and read as hex, and the code's version function is
called. A contract without such a function, or whose answer cannot be read,
has the fallback version. In a batch every contract stands for itself: what is
wrong with one never touches another (`Build.versions`).

Code under probe may call built-in contracts. What they answer is a parameter all the
way up; a run that is given none has the partial table `Evm.BuiltIns.basic`.
-/
import ReleaseGate.Build.Linking
import ReleaseGate.NameMap
import ReleaseGate.Probe
import ReleaseGate.Settings
import ReleaseGate.Text.Blank
import ReleaseGate.Text.Quoted

namespace ReleaseGate.Build

set_option autoImplicit false

/-- A compiled contract: its name and the text of its bytecode. -/
structure Artifact where
  name : String
  bytecode : String
  deriving DecidableEq, Repr

/-- The first four bytes of the digest of a signature. -/
def selector (signature : String) : List UInt8 :=
  (Keccak.digest signature.toUTF8).data.toList.take 4

/-- The text without any number of leading `0x`. -/
def dropMarks : List Char → List Char
  | '0' :: 'x' :: rest => dropMarks rest
  | text => text

/-- The hex text of linked bytecode: no white space around it, no marks before it. -/
def hexText (bytecode : String) : String :=
  String.ofList (dropMarks (Text.trim (fill 0 bytecode.toList)))

/-- The code that bytecode text denotes. -/
def readCode (bytecode : String) : Except Text.HexFault (List UInt8) :=
  Text.readHex (hexText bytecode)

/-- Why no version could be read from bytecode. -/
inductive Fault where
  | hex (fault : Text.HexFault)
  | probe (fault : Probe.Fault)
  /-- The answer has `length` bytes. -/
  | answerLength (length : Nat)
  | version (fault : Version.Fault)
  deriving DecidableEq, Repr

def hexFaultText : Text.HexFault → String
  | .oddLength => "odd number of digits"
  | .badDigit byte position =>
      "invalid character " ++ Text.quotedChar (Char.ofNat byte.toNat) ++
        s!" at position {position}"

def Fault.message : Fault → String
  | .hex fault => "Invalid bytecode hex: " ++ hexFaultText fault
  | .probe fault => fault.message
  | .answerLength length =>
      s!"Version call returned {length} bytes, expected {Version.bufferSize}"
  | .version fault => "Undecodable version data: " ++ fault.message

/-- Read the version that bytecode tells. -/
def extract (bytecode : String) (settings : ProbeSettings)
    (builtIns : Evm.BuiltIns := .basic) : Logged (Except Fault Version) := do
  match readCode bytecode with
  | .error fault => return .error (.hex fault)
  | .ok code =>
      match ← Probe.callWith builtIns code (selector settings.signature)
          settings.gasLimit.toNat with
      | .error fault => return .error (.probe fault)
      | .ok answer =>
          if answer.length = Version.bufferSize then
            return (settings.decoding.read answer).mapError .version
          else return .error (.answerLength answer.length)

/-- Where a version comes from. -/
inductive Origin where
  | extracted
  | defaulted
  deriving DecidableEq, Repr

/-- A version and where it comes from. -/
structure Resolved where
  version : Version
  origin : Origin
  deriving DecidableEq, Repr

/-- The version of a contract, or the fallback. A contract without a name is
reported on less loudly. -/
def resolve (name : Option String) (bytecode : String) (settings : ProbeSettings)
    (builtIns : Evm.BuiltIns := .basic) : Logged Resolved := do
  match ← extract bytecode settings builtIns with
  | .ok version =>
      let shown := name.getD "<bytecode>"
      Logged.debug s!"{shown}: version {version}"
      return ⟨version, .extracted⟩
  | .error fault =>
      let why := fault.message
      let fallback := settings.fallback
      match name with
      | some name => Logged.warn s!"{name}: no version read from bytecode ({why}), using {fallback}"
      | none => Logged.debug s!"Falling back to {fallback}: {why}"
      return ⟨fallback, .defaulted⟩

/-- Resolve every artifact; of two with one name the later counts. -/
def resolveAll (artifacts : List Artifact) (settings : ProbeSettings)
    (builtIns : Evm.BuiltIns := .basic) : Logged (NameMap Resolved) := do
  let pairs ← Logged.each (fun artifact => do
    let resolved ← resolve (some artifact.name) artifact.bytecode settings builtIns
    return (artifact.name, resolved)) artifacts
  let all := NameMap.ofList pairs
  let defaulted := (all.values.filter fun r => r.origin == .defaulted).length
  Logged.info s!"Resolved {all.size} contract version(s), {defaulted} defaulted"
  return all

/-- The versions of all artifacts. -/
def versions (artifacts : List Artifact) (settings : ProbeSettings)
    (builtIns : Evm.BuiltIns := .basic) : Logged (NameMap Version) := do
  return (← resolveAll artifacts settings builtIns).map (·.version)

end ReleaseGate.Build
