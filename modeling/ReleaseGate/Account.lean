/-
# Account — how a failure is told

An account says what happened, what caused it, what caused that, and so on, and
may end with advice. Contexts put around a failure come first; the advice stays
that of the failure inside.
-/
namespace ReleaseGate

set_option autoImplicit false

/-- A failure as it is told. -/
structure Account where
  text : String
  /-- Causes, each of the one before it. -/
  causes : List String := []
  advice : Option String := none
  deriving DecidableEq, Repr

namespace Account

/-- The account of a failure inside a larger one. -/
def within (a : Account) (context : String) : Account :=
  { a with text := context, causes := a.text :: a.causes }

/-- All texts, the outermost first. -/
def texts (a : Account) : List String := a.text :: a.causes

/-- Causes in lines of their own, each further in than the one before. -/
def causeLines (depth : Nat) : List String → String
  | [] => ""
  | cause :: rest =>
      String.ofList (List.replicate (2 * depth) ' ') ++ "caused by: " ++ cause ++ "\n" ++
        causeLines (depth + 1) rest

/-- The account in lines. -/
def format (a : Account) : String :=
  "error: " ++ a.text ++ "\n" ++ causeLines 1 a.causes ++
    match a.advice with
    | some advice => "\nhelp: " ++ advice ++ "\n"
    | none => ""

@[simp] theorem texts_within (a : Account) (context : String) :
    (a.within context).texts = context :: a.texts := rfl

end Account

end ReleaseGate
