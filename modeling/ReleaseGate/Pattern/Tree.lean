/-
# Pattern.Tree — patterns as they are written

A `Tree` is a pattern taken apart, with the stretch of text each part comes
from. Bracketed sets have trees of their own (`SetTree`). What a tree means
depends on flags that are switched inside it, so it is told elsewhere.
-/
import ReleaseGate.Pattern.Property

namespace ReleaseGate.Pattern

set_option autoImplicit false

inductive Flag where
  | ignoreCase
  | multiLine
  | dotAll
  | swapGreed
  | unicode
  | crlf
  | verbose
  deriving DecidableEq, Repr

/-- Flags that are switched, and which way. -/
abbrev Switches := List (Flag × Bool)

/-- One character that stands for itself. -/
structure Literal where
  span : Span
  char : Char
  /-- Whether it is written as the two hex digits of a byte. -/
  isByte : Bool := false
  deriving DecidableEq, Repr

inductive Assertion where
  | lineStart
  | lineEnd
  | textStart
  | textEnd
  | boundary
  | noBoundary
  | wordStart
  | wordEnd
  | wordStartHalf
  | wordEndHalf
  deriving DecidableEq, Repr

/-- The classes with an escape of their own. -/
inductive Shorthand where
  | digit
  | space
  | word
  deriving DecidableEq, Repr

inductive SetOp where
  | inter
  | diff
  | symDiff
  deriving DecidableEq, Repr

/-- What stands between brackets. -/
inductive SetTree where
  | nothing (span : Span)
  | literal (l : Literal)
  | range (span : Span) (low high : Literal)
  /-- A class of ASCII characters by its name. -/
  | ascii (span : Span) (ranges : List (Nat × Nat)) (negated : Bool)
  | shorthand (span : Span) (kind : Shorthand) (negated : Bool)
  | property (span : Span) (p : Property)
  | bracketed (span : Span) (negated : Bool) (inner : SetTree)
  | several (span : Span) (members : List SetTree)
  | op (span : Span) (kind : SetOp) (left right : SetTree)

/-- The text a set comes from. -/
def SetTree.span : SetTree → Span
  | .nothing span => span
  | .literal l => l.span
  | .range span _ _ => span
  | .ascii span _ _ => span
  | .shorthand span _ _ => span
  | .property span _ => span
  | .bracketed span _ _ => span
  | .several span _ => span
  | .op span _ _ _ => span

inductive Tree where
  | nothing (span : Span)
  | switches (span : Span) (flags : Switches)
  | literal (l : Literal)
  | dot (span : Span)
  | assertion (span : Span) (kind : Assertion)
  | shorthand (span : Span) (kind : Shorthand) (negated : Bool)
  | property (span : Span) (p : Property)
  /-- A bracketed set. -/
  | set (span : Span) (negated : Bool) (inner : SetTree)
  /-- A repetition; a lazy one asks for few. -/
  | repeated (span : Span) (least : Nat) (most : Option Nat) (isLazy : Bool) (inner : Tree)
  /-- A group; the extent of one that captures is told apart from the whole match. -/
  | group (span : Span) (captures : Bool) (flags : Switches) (inner : Tree)
  | alternatives (span : Span) (branches : List Tree)
  | sequence (span : Span) (parts : List Tree)

/-- The text a part comes from. -/
def Tree.span : Tree → Span
  | .nothing span => span
  | .switches span _ => span
  | .literal l => l.span
  | .dot span => span
  | .assertion span _ => span
  | .shorthand span _ _ => span
  | .property span _ => span
  | .set span _ _ => span
  | .repeated span _ _ _ _ => span
  | .group span _ _ _ => span
  | .alternatives span _ => span
  | .sequence span _ => span

/-! ## Depth -/

mutual

/-- The first part, from the left and from the outside, that is nested deeper than `room`. -/
def SetTree.tooDeep (room : Nat) : SetTree → Option Span
  | .bracketed span _ inner =>
      match room with
      | 0 => some span
      | room + 1 => inner.tooDeep room
  | .several span members =>
      match room with
      | 0 => some span
      | room + 1 => SetTree.someTooDeep room members
  | .op span _ left right =>
      match room with
      | 0 => some span
      | room + 1 => (left.tooDeep room).or (right.tooDeep room)
  | _ => none

def SetTree.someTooDeep (room : Nat) : List SetTree → Option Span
  | [] => none
  | member :: rest => (member.tooDeep room).or (SetTree.someTooDeep room rest)

end

mutual

/-- The first part, from the left and from the outside, that is nested deeper than `room`. -/
def Tree.tooDeep (room : Nat) : Tree → Option Span
  | .set span _ inner =>
      match room with
      | 0 => some span
      | room + 1 => inner.tooDeep room
  | .repeated span _ _ _ inner =>
      match room with
      | 0 => some span
      | room + 1 => inner.tooDeep room
  | .group span _ _ inner =>
      match room with
      | 0 => some span
      | room + 1 => inner.tooDeep room
  | .alternatives span branches =>
      match room with
      | 0 => some span
      | room + 1 => Tree.someTooDeep room branches
  | .sequence span parts =>
      match room with
      | 0 => some span
      | room + 1 => Tree.someTooDeep room parts
  | _ => none

def Tree.someTooDeep (room : Nat) : List Tree → Option Span
  | [] => none
  | part :: rest => (part.tooDeep room).or (Tree.someTooDeep room rest)

end

end ReleaseGate.Pattern
