/-
# Settings.Check — which settings can be used

Settings can be used if their pattern compiles, the gas for a call is more than
what every call costs up front, and the function to call is a name followed by
an empty pair of parentheses. The first of these that fails is told.
-/
import ReleaseGate.Account
import ReleaseGate.Pattern
import ReleaseGate.Settings

namespace ReleaseGate

set_option autoImplicit false

/-- What a call with four bytes of data costs before anything runs. -/
def upFrontGas : Nat := 21064

namespace Settings

/-- A text that should be a pattern and is none. -/
structure BadPattern where
  text : String
  why : Pattern.Rejection
  deriving DecidableEq, Repr

def BadPattern.account (p : BadPattern) : Account where
  text := s!"Invalid exclude pattern '{p.text}'"
  causes := [p.why.message]

/-- Why settings cannot be used. -/
inductive Flaw where
  | pattern (bad : BadPattern)
  | gasLimit (limit : UInt64)
  | signature (text : String)
  deriving DecidableEq, Repr

def Flaw.account : Flaw → Account
  | .pattern bad => bad.account
  | .gasLimit limit =>
      let shown := Nat.repr limit.toNat
      { text :=
          s!"Extractor gas limit {shown} must be greater than the " ++
            s!"{upFrontGas} gas the call costs up front" }
  | .signature asked =>
      let usual := defaultSignature
      { text :=
          s!"Version function '{asked}' must be a parameterless signature like '{usual}'" }

/-- The characters that names of functions begin with. -/
def isNameStart (c : Char) : Bool := c.isAlpha || c = '_' || c = '$'

/-- The characters of names of functions. -/
def isNameChar (c : Char) : Bool := c.isAlphanum || c = '_' || c = '$'

/-- Whether a text is the signature of a function without parameters. -/
def isSignature (text : String) : Bool :=
  match text.toList with
  | [] => false
  | first :: rest => isNameStart first && rest.dropWhile isNameChar == ['(', ')']

/-- The compiled pattern, if there is one. -/
def pattern? (s : Settings) : Except BadPattern (Option Pattern) :=
  match s.exclude with
  | none => .ok none
  | some text =>
      match Pattern.compile text with
      | .ok compiled => .ok (some compiled)
      | .error why => .error ⟨text, why⟩

end Settings

/-- Check how versions are asked for. -/
def ProbeSettings.check (s : ProbeSettings) : Except Settings.Flaw Unit :=
  if s.gasLimit.toNat ≤ upFrontGas then .error (.gasLimit s.gasLimit)
  else if Settings.isSignature s.signature then .ok ()
  else .error (.signature s.signature)

/-- Check all settings. -/
def Settings.check (s : Settings) : Except Settings.Flaw Unit := do
  let _ ← s.pattern?.mapError .pattern
  s.probe.check

end ReleaseGate
