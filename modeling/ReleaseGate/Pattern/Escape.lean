/-
# Pattern.Escape — what a backslash begins

A backslash begins a literal, a class, or an assertion. ASCII punctuation,
blanks and controls stand for themselves after it; letters have meanings of
their own, or none; digits would refer back to a group, which patterns cannot.
-/
import ReleaseGate.Pattern.Cursor
import ReleaseGate.Text.Hex

namespace ReleaseGate.Pattern

set_option autoImplicit false

open Reading

/-- Whether a character stands for itself after a backslash. -/
def isEscapable (c : Char) : Bool :=
  c.toNat < 128 && !c.isAlphanum && c != '<' && c != '>'

/-- The number that hex digits write. -/
def hexNumber (digits : List Char) : Nat :=
  digits.foldl (fun n c => 16 * n + (Text.hexValue? c).getD 0) 0

/-- The character with a number. -/
def scalar? (n : Nat) : Option Char := if h : n.isValidChar then some (Char.ofNatAux n h) else none

/-- Read `count` hex digits; `isFirst` tells whether the first is still to come. -/
def hexDigits (isFirst : Bool) : (count : Nat) → Reading (List Char)
  | 0 => return []
  | count + 1 => do
      unless isFirst do
        unless ← bumpOver do fail .escapeCut (← here).span
      match ← char? with
      | none => fail .escapeCut (← here).span
      | some c =>
          if (Text.hexValue? c).isNone then fail .hexDigit (← get).charSpan
          return c :: (← hexDigits false count)

/-- Read hex digits up to a closing brace. -/
def bracedHexDigits (brace : Mark) : (fuel : Nat) → Reading (List Char)
  | 0 => return []
  | fuel + 1 => do
      unless ← bumpOver do fail .escapeCut (← spanFrom brace)
      match ← char? with
      | some '\x7d' => return []
      | some c =>
          if (Text.hexValue? c).isNone then fail .hexDigit (← get).charSpan
          return c :: (← bracedHexDigits brace fuel)
      | none => return []

/-- The character a hex escape names; the cursor stands at the letter after the backslash. -/
def hexEscape (backslash : Mark) (letter : Char) : Reading Tree := do
  unless ← bumpOver do fail .escapeCut (← here).span
  let start ← here
  if (← char?) = some '\x7b' then
    let inside := (← get).charSpan.stop
    let digits ← bracedHexDigits start (← steps)
    let stop ← here
    let _ ← bumpOver
    if digits.isEmpty then fail .hexEmpty (← spanFrom start)
    match scalar? (hexNumber digits) with
    | none => fail .hexNoCharacter ⟨inside, stop⟩
    | some c => return .literal { span := ← spanFrom backslash, char := c }
  else
    let count := if letter = 'x' then 2 else if letter = 'u' then 4 else 8
    let digits ← hexDigits true count
    let _ ← bumpOver
    match scalar? (hexNumber digits) with
    | none => fail .hexNoCharacter (← spanFrom start)
    | some c =>
        return .literal { span := ← spanFrom backslash, char := c, isByte := letter = 'x' }

/-- Read a name up to a closing brace. -/
def bracedName : (fuel : Nat) → Reading (List Char)
  | 0 => return []
  | fuel + 1 => do
      unless ← bumpOver do fail .escapeCut (← here).span
      match ← char? with
      | some '\x7d' => return []
      | some c => return c :: (← bracedName fuel)
      | none => return []

/-- What stands before and after the first place of `mark` in a text. -/
def splitAt? (mark : List Char) : List Char → Option (List Char × List Char)
  | [] => none
  | c :: rest =>
      if mark.isPrefixOf (c :: rest) then some ([], (c :: rest).drop mark.length)
      else (splitAt? mark rest).map fun (before, after) => (c :: before, after)

/-- The property that a name between braces asks for. -/
def propertyOf (negated : Bool) (name : List Char) : Property :=
  let valued (negated : Bool) (parts : List Char × List Char) : Property :=
    ⟨String.ofList parts.1, some (String.ofList parts.2), negated⟩
  match splitAt? ['!', '='] name with
  | some parts => valued (!negated) parts
  | none =>
      match (splitAt? [':'] name).or (splitAt? ['='] name) with
      | some parts => valued negated parts
      | none => ⟨String.ofList name, none, negated⟩

/-- The class of a property; the cursor stands at the letter after the backslash. -/
def propertyEscape (backslash : Mark) (negated : Bool) : Reading Tree := do
  unless ← bumpOver do fail .escapeCut (← here).span
  match ← char? with
  | some '\x7b' => do
      let name ← bracedName (← steps)
      let _ ← bump
      return .property (← spanFrom backslash) (propertyOf negated name)
  | some c => do
      if c = '\\' then fail .propertyName (← get).charSpan
      let _ ← bumpOver
      return .property (← spanFrom backslash) ⟨String.singleton c, none, negated⟩
  | none => fail .escapeCut (← here).span

/-- The characters of the names of boundaries. -/
def isBoundaryChar (c : Char) : Bool := c.isAlpha || c = '-'

/-- Read the name of a boundary. -/
def boundaryName : (fuel : Nat) → Reading (List Char)
  | 0 => return []
  | fuel + 1 => do
      match ← char? with
      | some c =>
          if isBoundaryChar c then do
            let _ ← bumpOver
            return c :: (← boundaryName fuel)
          else return []
      | none => return []

/-- The boundaries with a name. -/
def boundaries : List (String × Assertion) :=
  [("start", .wordStart), ("end", .wordEnd), ("start-half", .wordStartHalf),
    ("end-half", .wordEndHalf)]

/-- A boundary named between braces; `none` if the brace begins a count. -/
def namedBoundary (backslash : Mark) : Reading (Option Assertion) := do
  let before ← get
  unless ← bumpOver do fail .boundaryOrCountCut (← spanFrom backslash)
  let start ← here
  if !((← char?).any isBoundaryChar) then
    set before
    return none
  let name ← boundaryName (← steps)
  if (← char?) ≠ some '\x7d' then fail .boundaryUnclosed (← spanFrom before.mark)
  let stop ← here
  let _ ← bump
  match boundaries.lookup (String.ofList name) with
  | some kind => return some kind
  | none => fail .boundaryUnknown ⟨start, stop⟩

/-- The characters that a letter after a backslash stands for. -/
def escapedChars : List (Char × Char) :=
  [('a', '\x07'), ('f', '\x0c'), ('t', '\t'), ('n', '\n'), ('r', '\r'), ('v', '\x0b')]

/-- The assertions that have a letter or sign. -/
def escapedAssertions : List (Char × Assertion) :=
  [('A', .textStart), ('z', .textEnd), ('b', .boundary), ('B', .noBoundary), ('<', .wordStart),
    ('>', .wordEnd)]

/-- The classes that have a letter, and whether they are negated. -/
def escapedClasses : List (Char × Shorthand × Bool) :=
  [('d', .digit, false), ('D', .digit, true), ('s', .space, false), ('S', .space, true),
    ('w', .word, false), ('W', .word, true)]

/-- An escape of a backslash and one character, which the cursor is past. -/
def shortEscape (backslash : Mark) (c : Char) : Reading Tree := do
  let span ← spanFrom backslash
  if isEscapable c then return .literal { span, char := c }
  match escapedClasses.lookup c, escapedChars.lookup c, escapedAssertions.lookup c with
  | some (kind, negated), _, _ => return .shorthand span kind negated
  | none, some char, _ => return .literal { span, char }
  | none, none, some kind =>
      if c = 'b' ∧ (← char?) = some '\x7b' then
        match ← namedBoundary backslash with
        | some named => return .assertion (← spanFrom backslash) named
        | none => return .assertion span kind
      else return .assertion span kind
  | none, none, none => fail .escapeUnknown span

/-- What the backslash under the cursor begins. -/
def escape : Reading Tree := do
  let backslash ← here
  unless ← bump do fail .escapeCut (← spanFrom backslash)
  match ← char? with
  | none => fail .escapeCut (← spanFrom backslash)
  | some c =>
      if c.isDigit then fail .backreference ⟨backslash, (← get).charSpan.stop⟩
      else if c = 'x' ∨ c = 'u' ∨ c = 'U' then hexEscape backslash c
      else if c = 'p' ∨ c = 'P' then propertyEscape backslash (c = 'P')
      else
        let _ ← bump
        shortEscape backslash c

end ReleaseGate.Pattern
