/-
# Pattern.Fault — what is wrong with a pattern, and where

A fault has a cause and the stretch of the pattern that shows it; a fault of
repetition also points at the earlier place. Its message repeats the pattern
with carets under the stretch, at least one. A pattern of several lines is
shown with line numbers between two rules; a stretch over several lines is
told in words.
-/
namespace ReleaseGate.Pattern

set_option autoImplicit false

/-- A place in a pattern; lines and columns count from one. -/
structure Mark where
  offset : Nat
  line : Nat
  column : Nat
  deriving DecidableEq, Repr

def Mark.first : Mark := ⟨0, 1, 1⟩

/-- The place after the character `c`. -/
def Mark.after (m : Mark) (c : Char) : Mark :=
  if c = '\n' then ⟨m.offset + 1, m.line + 1, 1⟩ else ⟨m.offset + 1, m.line, m.column + 1⟩

/-- A stretch of a pattern; `stop` comes after it. -/
structure Span where
  start : Mark
  stop : Mark
  deriving DecidableEq, Repr

/-- The empty stretch. -/
def Mark.span (m : Mark) : Span := ⟨m, m⟩

/-- The causes of faults. -/
inductive Cause where
  | escapeInSet
  | rangeReversed
  | rangeEnd
  | setUnclosed
  | numberTooLarge
  | hexEmpty
  | hexNoCharacter
  | hexDigit
  | escapeCut
  | escapeUnknown
  | flagNegationDangling
  | flagRepeated
  | flagNegationRepeated
  | flagCut
  | flagUnknown
  | nameRepeated
  | nameEmpty
  | nameCharacter
  | nameUnclosed
  | groupUnclosed
  | groupUnopened
  | nesting (limit : Nat)
  | countReversed
  | countMissing
  | countUnclosed
  | nothingToRepeat
  | boundaryUnclosed
  | boundaryUnknown
  | boundaryOrCountCut
  | propertyName
  | backreference
  | lookAround
  | notUnicode
  | notText
  | propertyUnknown
  | propertyValueUnknown
  | caseFolding
  deriving DecidableEq, Repr

def Cause.text : Cause → String
  | .escapeInSet => "invalid escape sequence found in character class"
  | .rangeReversed => "invalid character class range, the start must be <= the end"
  | .rangeEnd => "invalid range boundary, must be a literal"
  | .setUnclosed => "unclosed character class"
  | .numberTooLarge => "decimal literal invalid"
  | .hexEmpty => "hexadecimal literal empty"
  | .hexNoCharacter => "hexadecimal literal is not a Unicode scalar value"
  | .hexDigit => "invalid hexadecimal digit"
  | .escapeCut => "incomplete escape sequence, reached end of pattern prematurely"
  | .escapeUnknown => "unrecognized escape sequence"
  | .flagNegationDangling => "dangling flag negation operator"
  | .flagRepeated => "duplicate flag"
  | .flagNegationRepeated => "flag negation operator repeated"
  | .flagCut => "expected flag but got end of regex"
  | .flagUnknown => "unrecognized flag"
  | .nameRepeated => "duplicate capture group name"
  | .nameEmpty => "empty capture group name"
  | .nameCharacter => "invalid capture group character"
  | .nameUnclosed => "unclosed capture group name"
  | .groupUnclosed => "unclosed group"
  | .groupUnopened => "unopened group"
  | .nesting limit => s!"exceed the maximum number of nested parentheses/brackets ({limit})"
  | .countReversed => "invalid repetition count range, the start must be <= the end"
  | .countMissing => "repetition quantifier expects a valid decimal"
  | .countUnclosed => "unclosed counted repetition"
  | .nothingToRepeat => "repetition operator missing expression"
  | .boundaryUnclosed =>
      "special word boundary assertion is either unclosed or contains an invalid character"
  | .boundaryUnknown =>
      "unrecognized special word boundary assertion, valid choices are: " ++
        "start, end, start-half or end-half"
  | .boundaryOrCountCut =>
      "found either the beginning of a special word boundary or a bounded repetition on a " ++
        "\\b with an opening brace, but no closing brace"
  | .propertyName => "invalid Unicode character class"
  | .backreference => "backreferences are not supported"
  | .lookAround => "look-around, including look-ahead and look-behind, is not supported"
  | .notUnicode => "Unicode not allowed here"
  | .notText => "pattern can match invalid UTF-8"
  | .propertyUnknown => "Unicode property not found"
  | .propertyValueUnknown => "Unicode property value not found"
  | .caseFolding =>
      "Unicode-aware case insensitivity matching is not available " ++
        "(make sure the unicode-case feature is enabled)"

/-- A cause and where it shows. -/
structure Fault where
  cause : Cause
  span : Span
  /-- What a repetition repeats; it stands before the repetition. -/
  earlier : Option Span := none
  deriving DecidableEq, Repr

/-! ## The message -/

/-- The lines of a text: a line feed ends a line, with a carriage return right before it. -/
def lines : List Char → List (List Char)
  | [] => []
  | '\n' :: rest => [] :: lines rest
  | '\r' :: '\n' :: rest => [] :: lines rest
  | c :: rest =>
      match lines rest with
      | [] => [[c]]
      | line :: more => (c :: line) :: more

/-- The stretches to show, in their order in the pattern. -/
def Fault.spans (fault : Fault) : List Span := fault.earlier.toList ++ [fault.span]

/-- Carets under stretches of one line; `column` columns are filled already. -/
def carets (column : Nat) : List Span → List Char
  | [] => []
  | span :: rest =>
      let blank := span.start.column - 1 - column
      let width := max 1 (span.stop.column - span.start.column)
      List.replicate blank ' ' ++ List.replicate width '^' ++ carets (column + blank + width) rest

/-- A line, and under it the carets of the stretches inside it. -/
def shownLine (margin : Nat → String) (spans : List Span) (number : Nat) (line : List Char) :
    String :=
  let inside := spans.filter fun span => span.start.line = number
  let label := margin number
  let notes :=
    if inside.isEmpty then ""
    else String.ofList (List.replicate label.length ' ' ++ carets 0 inside) ++ "\n"
  label ++ String.ofList line ++ "\n" ++ notes

/-- The lines of a pattern from line `number` on. -/
def shownLines (margin : Nat → String) (spans : List Span) (number : Nat) :
    List (List Char) → String
  | [] => ""
  | line :: rest =>
      shownLine margin spans number line ++ shownLines margin spans (number + 1) rest

/-- A line number before its line. -/
def lineLabel (width number : Nat) : String :=
  let digits := Nat.repr number
  String.ofList (List.replicate (width - digits.length) ' ') ++ digits ++ ": "

/-- The extent of a stretch over several lines. -/
def extentText (span : Span) : String :=
  let firstLine := span.start.line
  let firstColumn := span.start.column
  let lastLine := span.stop.line
  let lastColumn := span.stop.column - 1
  s!"on line {firstLine} (column {firstColumn}) through line {lastLine} (column {lastColumn})"

/-- The message for a fault of a pattern. -/
def Fault.message (fault : Fault) (pattern : String) : String :=
  let text := pattern.toList
  let within := fault.spans.filter fun span => span.start.line = span.stop.line
  let across := fault.spans.filter fun span => span.start.line ≠ span.stop.line
  let shown :=
    if text.contains '\n' then
      let count := (lines text).length + if text.getLast? = some '\n' then 1 else 0
      let rule := String.ofList (List.replicate 79 '~') ++ "\n"
      let extents := String.intercalate "\n" (across.map extentText)
      rule ++ shownLines (lineLabel (Nat.repr count).length) within 1 (lines text) ++ rule ++
        if across.isEmpty then "" else extents ++ "\n"
    else shownLines (fun _ => "    ") within 1 (lines text)
  "regex parse error:\n" ++ shown ++ "error: " ++ fault.cause.text

end ReleaseGate.Pattern
