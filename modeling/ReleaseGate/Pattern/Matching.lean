/-
# Pattern.Matching — where an expression can end

An `Expr` is a pattern whose flags have been worked out. It is matched against
a text by moving a whole set of places forward at once (`Expr.reach`): a place
is one of the gaps before, between and after the characters, and a set of
places is a list of flags, one per gap. No place is ever left behind the one it
was reached from, so an expression repeated more often than there are places
reaches nothing new (`Subject.enough`).
-/
import ReleaseGate.Pattern.CharSet

namespace ReleaseGate.Pattern

set_option autoImplicit false

/-- Conditions on a place. -/
inductive Look where
  | textStart
  | textEnd
  | lineStart (crlf : Bool)
  | lineEnd (crlf : Bool)
  | boundary (unicode : Bool)
  | noBoundary (unicode : Bool)
  | wordStart (unicode : Bool)
  | wordEnd (unicode : Bool)
  | wordStartHalf (unicode : Bool)
  | wordEndHalf (unicode : Bool)
  deriving DecidableEq, Repr

inductive Expr where
  | empty
  | set (s : CharSet)
  | look (l : Look)
  | sequence (parts : List Expr)
  | alternatives (branches : List Expr)
  /-- Whether few or many are asked for first makes no difference to where matches can end. -/
  | repeated (least : Nat) (most : Option Nat) (isLazy : Bool) (inner : Expr)
  /-- A group whose extent is told apart. -/
  | group (inner : Expr)

/-- A gap between characters: the characters before and after it. -/
structure Gap where
  before : Option Char
  after : Option Char
  deriving DecidableEq, Repr

/-- Whether a word character stands there. -/
def isWordAt (unicode : Bool) : Option Char → Bool
  | none => false
  | some c => if unicode then Text.isWordChar c else c.isAlphanum || c = '_'

/-- Whether a condition holds of a gap. -/
def Look.holds (gap : Gap) : Look → Bool
  | .textStart => gap.before.isNone
  | .textEnd => gap.after.isNone
  | .lineStart false => gap.before.all (· = '\n')
  | .lineEnd false => gap.after.all (· = '\n')
  | .lineStart true =>
      gap.before.all fun c => c = '\n' || (c = '\r' && gap.after ≠ some '\n')
  | .lineEnd true =>
      gap.after.all fun c => c = '\r' || (c = '\n' && gap.before ≠ some '\r')
  | .boundary unicode => isWordAt unicode gap.before != isWordAt unicode gap.after
  | .noBoundary unicode => isWordAt unicode gap.before == isWordAt unicode gap.after
  | .wordStart unicode => !isWordAt unicode gap.before && isWordAt unicode gap.after
  | .wordEnd unicode => isWordAt unicode gap.before && !isWordAt unicode gap.after
  | .wordStartHalf unicode => !isWordAt unicode gap.before
  | .wordEndHalf unicode => !isWordAt unicode gap.after

/-- A set of gaps of a text: a flag for each gap, in order. -/
abbrev Places := List Bool

/-- The gaps in either of two sets. -/
def Places.union (p q : Places) : Places := List.zipWith (· || ·) p q

/-- The gaps after the characters `text` that `s` holds and `p` stands before. -/
def Places.past (s : CharSet) : List Char → Places → Places
  | c :: text, here :: p => (here && s.contains c) :: past s text p
  | _, _ => []

/-- A text to be matched. -/
structure Subject where
  text : List Char
  gaps : List Gap

namespace Subject

/-- The gaps of a text that follows `before`. -/
def gapsAfter (before : Option Char) : List Char → List Gap
  | [] => [⟨before, none⟩]
  | c :: rest => ⟨before, some c⟩ :: gapsAfter (some c) rest

def ofText (text : List Char) : Subject := ⟨text, gapsAfter none text⟩

/-- As many steps as lead from any place to any other, and one more. -/
def enough (s : Subject) : Nat := s.text.length + 2

/-- Every gap. -/
def everywhere (s : Subject) : Places := s.gaps.map fun _ => true

/-- No gap. -/
def nowhere (s : Subject) : Places := s.gaps.map fun _ => false

end Subject

/-- Move places `n` times, or until they stay the same. -/
def moveTimes (move : Places → Places) : (n : Nat) → Places → Places
  | 0, p => p
  | n + 1, p =>
      let next := move p
      if next == p then p else moveTimes move n next

/-- The places reached by moving at most `n` times. -/
def moveUpTo (move : Places → Places) : (n : Nat) → Places → Places
  | 0, p => p
  | n + 1, p =>
      let next := p.union (move p)
      if next == p then p else moveUpTo move n next

mutual

/-- The places where matches that start in `p` can end. -/
def Expr.reach (s : Subject) : Expr → Places → Places
  | .empty, p => p
  | .set chars, p => false :: p.past chars s.text
  | .look l, p => List.zipWith (fun here gap => here && l.holds gap) p s.gaps
  | .sequence parts, p => Expr.reachAll s parts p
  | .alternatives branches, p => Expr.reachAny s branches p
  | .group inner, p => inner.reach s p
  | .repeated least most _ inner, p =>
      let move := inner.reach s
      let more := match most with
        | some most => most - least
        | none => s.enough
      moveUpTo move (min more s.enough) (moveTimes move (min least s.enough) p)

/-- Match one after the other. -/
def Expr.reachAll (s : Subject) : List Expr → Places → Places
  | [], p => p
  | part :: rest, p => Expr.reachAll s rest (part.reach s p)

/-- Match any. -/
def Expr.reachAny (s : Subject) : List Expr → Places → Places
  | [], _ => s.nowhere
  | branch :: rest, p => (branch.reach s p).union (Expr.reachAny s rest p)

end

/-- Whether the expression matches somewhere in a text. -/
def Expr.matchesIn (e : Expr) (text : List Char) : Bool :=
  let s := Subject.ofText text
  (e.reach s s.everywhere).any id

end ReleaseGate.Pattern
