/-
# Pattern — patterns for names

A pattern is compiled once and then asked about names: `Pattern.isIn` says
whether it matches some part of a name. Compiling either gives a pattern or
says why there is none.
-/
import ReleaseGate.Pattern.Meaning
import ReleaseGate.Pattern.Reader
import ReleaseGate.Pattern.Size

namespace ReleaseGate

set_option autoImplicit false

/-- A pattern that can be matched. -/
structure Pattern where
  expr : Pattern.Expr

namespace Pattern

/-- Why a text is no pattern. -/
inductive Rejection where
  | faulty (text : String) (fault : Fault)
  /-- The pattern would take too much room. -/
  | tooLarge
  deriving DecidableEq, Repr

def Rejection.message : Rejection → String
  | .faulty text fault => fault.message text
  | .tooLarge =>
      let limit := roomLimit
      s!"Compiled regex exceeds size limit of {limit} bytes."

/-- The expression a text denotes. -/
def exprOf (text : String) : Except Fault Expr := do
  let (expr, _) ← (← Tree.ofText text.toList).meaning {}
  return expr

/-- Compile a pattern. -/
def compile (text : String) : Except Rejection Pattern :=
  match exprOf text with
  | .error fault => .error (.faulty text fault)
  | .ok expr => if expr.fits then .ok ⟨expr⟩ else .error .tooLarge

/-- Whether the pattern matches some part of a name. -/
def isIn (p : Pattern) (name : String) : Bool := p.expr.matchesIn name.toList

end Pattern

end ReleaseGate
