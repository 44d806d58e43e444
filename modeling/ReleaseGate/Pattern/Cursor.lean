/-
# Pattern.Cursor — a place in a pattern that is being read

A cursor stands before the rest of a pattern and remembers the names of the
groups read so far. In verbose text white space and comments count for nothing:
`bumpOver` passes over them after one character, `bump` does not.
-/
import ReleaseGate.Pattern.Tree
import ReleaseGate.Text.Letters

namespace ReleaseGate.Pattern

set_option autoImplicit false

structure Cursor where
  rest : List Char
  mark : Mark
  /-- Whether white space and comments count for nothing. -/
  verbose : Bool := false
  names : List (String × Span) := []

/-- Pass over white space and comments; `comment` tells whether one has begun. -/
def skipBlank (comment : Bool) : List Char → Mark → List Char × Mark
  | [], m => ([], m)
  | c :: rest, m =>
      if comment then skipBlank (c != '\n') rest (m.after c)
      else if Text.isBlank c then skipBlank false rest (m.after c)
      else if c = '#' then skipBlank true rest (m.after c)
      else (c :: rest, m)

/-- The first character that is not blank; one comment sign before it is passed over. -/
def firstSolid (passed : Bool) : List Char → Option Char
  | [] => none
  | c :: rest =>
      if Text.isBlank c then firstSolid passed rest
      else if !passed && c = '#' then firstSolid true rest
      else some c

namespace Cursor

def start (pattern : List Char) : Cursor := { rest := pattern, mark := .first }

/-- The character before which the cursor stands. -/
def char? (c : Cursor) : Option Char := c.rest.head?

/-- The character after that one. -/
def second? (c : Cursor) : Option Char := c.rest.tail.head?

/-- The character after that one, blanks aside. -/
def secondSolid? (c : Cursor) : Option Char :=
  if c.verbose then (firstSolid false c.rest.tail).or c.second? else c.second?

/-- The stretch of the present character. -/
def charSpan (c : Cursor) : Span :=
  match c.rest with
  | [] => c.mark.span
  | char :: _ => ⟨c.mark, c.mark.after char⟩

/-- The stretch from an earlier place to the cursor. -/
def spanFrom (c : Cursor) (start : Mark) : Span := ⟨start, c.mark⟩

/-- One character on. -/
def bump (c : Cursor) : Cursor :=
  match c.rest with
  | [] => c
  | char :: rest => { c with rest := rest, mark := c.mark.after char }

/-- On to what counts. -/
def solid (c : Cursor) : Cursor :=
  if c.verbose then
    let (rest, mark) := skipBlank false c.rest c.mark
    { c with rest := rest, mark := mark }
  else c

/-- One character on, and on to what counts. -/
def bumpOver (c : Cursor) : Cursor := c.bump.solid

/-- Past `text`, if it stands here. -/
def past? (c : Cursor) (text : List Char) : Option Cursor :=
  match text with
  | [] => some c
  | char :: more => if c.char? = some char then c.bump.past? more else none

end Cursor

/-- What a reading step needs and leaves. -/
abbrev Reading := StateT Cursor (Except Fault)

namespace Reading

/-- Give up because of what stands in `span`. -/
def fail {α : Type} (cause : Cause) (span : Span) : Reading α := fun _ => .error { cause, span }

/-- The present character. -/
def char? : Reading (Option Char) := return (← get).char?

/-- Where the cursor stands. -/
def here : Reading Mark := return (← get).mark

/-- The stretch from an earlier place to here. -/
def spanFrom (start : Mark) : Reading Span := return ⟨start, ← here⟩

/-- One character on; says whether one is left. -/
def bump : Reading Bool := do
  modify Cursor.bump
  return (← char?).isSome

/-- One character on and on to what counts; says whether anything is left. -/
def bumpOver : Reading Bool := do
  modify Cursor.bumpOver
  return (← char?).isSome

/-- How many steps are enough to read the rest one character at a time. -/
def steps : Reading Nat := return (← get).rest.length + 1

end Reading

end ReleaseGate.Pattern
