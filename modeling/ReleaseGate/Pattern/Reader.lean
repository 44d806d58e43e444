/-
# Pattern.Reader — from the text of a pattern to its tree

The text is read from left to right. `Level`s are the groups that are open,
each with the alternatives finished in it; a bar finishes an alternative, a
closing parenthesis a group. Flags for verbose text hold up to the end of the
group they are switched in.
-/
import ReleaseGate.Pattern.Brackets

namespace ReleaseGate.Pattern

set_option autoImplicit false

open Reading

/-- The parts of an alternative read so far, the last one first. -/
structure Branch where
  start : Mark
  reversed : List Tree := []

def Branch.push (b : Branch) (part : Tree) : Branch := { b with reversed := part :: b.reversed }

/-- The alternative, which ends at `stop`. -/
def Branch.toTree (b : Branch) (stop : Mark) : Tree :=
  match b.reversed with
  | [] => .nothing ⟨b.start, stop⟩
  | [part] => part
  | parts => .sequence ⟨b.start, stop⟩ parts.reverse

/-- The start of a group. -/
structure GroupHead where
  /-- The opening parenthesis. -/
  span : Span
  /-- A group that only carries flags captures nothing. -/
  captures : Bool := true
  flags : Switches := []

/-- An open group, or the pattern as a whole. -/
structure Level where
  head : Option GroupHead
  /-- Where the first alternative starts. -/
  start : Mark
  /-- Finished alternatives, the last one first. -/
  reversed : List Tree := []

/-- The level's tree with its last alternative, which ends at `stop`. -/
def Level.toTree (level : Level) (last : Branch) (stop : Mark) : Tree :=
  match level.reversed with
  | [] => last.toTree stop
  | finished => .alternatives ⟨level.start, stop⟩ (last.toTree stop :: finished).reverse

/-! ## Groups -/

/-- The flags by letter. -/
def flagLetters : List (Char × Flag) :=
  [('i', .ignoreCase), ('m', .multiLine), ('s', .dotAll), ('U', .swapGreed), ('u', .unicode),
    ('R', .crlf), ('x', .verbose)]

/-- Flags read so far, the last one first, and where they stand. -/
structure FlagsSoFar where
  reversed : List (Flag × Bool × Span) := []
  negation : Option Span := none
  /-- Whether the last character was the negation. -/
  dangling : Bool := false

/-- Read flags up to a colon or a closing parenthesis. -/
def flagsLoop : (fuel : Nat) → FlagsSoFar → Reading FlagsSoFar
  | 0, flags => return flags
  | fuel + 1, flags => do
      let span := (← get).charSpan
      match ← char? with
      | none => fail .flagCut span
      | some c =>
          if c = ':' ∨ c = ')' then
            if let (true, some negation) := (flags.dangling, flags.negation) then
              fail .flagNegationDangling negation
            return flags
          let flags ←
            if c = '-' then
              match flags.negation with
              | some earlier => throw ⟨.flagNegationRepeated, span, some earlier⟩
              | none => pure { flags with negation := some span, dangling := true }
            else
              match flagLetters.lookup c with
              | none => fail .flagUnknown span
              | some flag =>
                  match flags.reversed.lookup flag with
                  | some (_, earlier) => throw ⟨.flagRepeated, span, some earlier⟩
                  | none =>
                      let item := (flag, flags.negation.isNone, span)
                      pure { flags with reversed := item :: flags.reversed, dangling := false }
          unless ← bump do fail .flagCut (← here).span
          flagsLoop fuel flags

/-- Whether a character may stand in the name of a group. -/
def isNameChar (isFirst : Bool) (c : Char) : Bool :=
  if isFirst then c = '_' || Text.isLetter c
  else c = '_' || c = '.' || c = '[' || c = ']' || Text.isLetterOrNumeral c

/-- Read the name of a group up to the closing angle bracket. -/
def nameLoop (isFirst : Bool) : (fuel : Nat) → Reading (List Char)
  | 0 => return []
  | fuel + 1 => do
      match ← char? with
      | none => fail .nameUnclosed (← here).span
      | some '>' => return []
      | some c => do
          unless isNameChar isFirst c do fail .nameCharacter (← get).charSpan
          let _ ← bump
          return c :: (← nameLoop false fuel)

/-- The name of a group; the cursor stands behind the opening angle bracket. -/
def groupName : Reading Unit := do
  let start ← here
  let name ← nameLoop true (← steps)
  let span ← spanFrom start
  let _ ← bump
  if name.isEmpty then fail .nameEmpty start.span
  let text := String.ofList name
  match (← get).names.lookup text with
  | some earlier => throw ⟨.nameRepeated, span, some earlier⟩
  | none => modify fun c => { c with names := (text, span) :: c.names }

/-- The signs of groups that would look around. -/
def lookAroundSigns : List (List Char) := [['?', '='], ['?', '!'], ['?', '<', '='], ['?', '<', '!']]

/-- The signs of groups with a name. -/
def nameSigns : List (List Char) := [['?', 'P', '<'], ['?', '<']]

/-- Past the first sign that stands at the cursor. -/
def pastSign? (signs : List (List Char)) (c : Cursor) : Option Cursor := signs.findSome? c.past?

/-- What an opening parenthesis begins. -/
inductive Opening where
  | group (head : GroupHead)
  /-- Flags for what follows in the same group. -/
  | switches (span : Span) (flags : Switches)

/-- The flags of a group, or flags alone; the cursor stands behind the question mark. -/
def flagsOpening (parenthesis question : Span) : Reading Opening := do
  if (← char?).isNone then fail .groupUnclosed parenthesis
  let flags ← flagsLoop (← steps) {}
  let last ← char?
  let _ ← bump
  let switches : Switches := flags.reversed.reverse.map fun (flag, on, _) => (flag, on)
  if last = some ')' then
    if switches.isEmpty then fail .nothingToRepeat question
    return .switches (← spanFrom parenthesis.start) switches
  else return .group { span := parenthesis, captures := false, flags := switches }

/-- What the opening parenthesis under the cursor begins. -/
def opening : Reading Opening := do
  let parenthesis := (← get).charSpan
  let _ ← bump
  modify Cursor.solid
  let cursor ← get
  match pastSign? lookAroundSigns cursor with
  | some after => fail .lookAround ⟨parenthesis.start, after.mark⟩
  | none =>
      match pastSign? nameSigns cursor with
      | some after => do
          set after
          groupName
          return .group { span := parenthesis }
      | none =>
          match cursor.past? ['?'] with
          | some after => do
              set after
              flagsOpening parenthesis cursor.mark.span
          | none => return .group { span := parenthesis }

/-! ## Repetitions -/

/-- The part that a repetition repeats, and what stands before it. -/
def repeatedPart (branch : Branch) : Reading (Tree × Branch) := do
  match branch.reversed with
  | .nothing _ :: _ => fail .nothingToRepeat (← here).span
  | .switches _ _ :: _ => fail .nothingToRepeat (← here).span
  | [] => fail .nothingToRepeat (← here).span
  | part :: before => return (part, { branch with reversed := before })

/-- Past a question mark behind a repetition, which asks for few; whether there is one. -/
def lazyMark : Reading Bool := do
  let found := (← char?) = some '?'
  if found then
    let _ ← bump
  return found

/-- Put a repetition, which ends here, in the place of its part. -/
def repeatPart (part : Tree) (before : Branch) (least : Nat) (most : Option Nat)
    (isLazy : Bool) : Reading Branch := do
  return before.push (.repeated ⟨part.span.start, ← here⟩ least most isLazy part)

/-- A repetition of one sign. -/
def signRepetition (branch : Branch) (least : Nat) (most : Option Nat) : Reading Branch := do
  let (part, before) ← repeatedPart branch
  let _ ← bump
  repeatPart part before least most (← lazyMark)

/-- Digits, blanks aside. -/
def countDigits : (fuel : Nat) → Reading (List Char)
  | 0 => return []
  | fuel + 1 => do
      match ← char? with
      | some c =>
          if c.isDigit then do
            let _ ← bumpOver
            return c :: (← countDigits fuel)
          else return []
      | none => return []

/-- Pass over white space. -/
def pastBlanks : (fuel : Nat) → Reading Unit
  | 0 => return
  | fuel + 1 => do
      if (← char?).any Text.isBlank then
        let _ ← bump
        pastBlanks fuel

/-- The first number that is too large for a count. -/
def countLimit : Nat := 4294967296

/-- A count, or what is wrong with it. -/
def count : Reading (Except Fault Nat) := do
  pastBlanks (← steps)
  let start ← here
  let digits ← countDigits (← steps)
  let span ← spanFrom start
  pastBlanks (← steps)
  let number := digits.foldl (fun n c => 10 * n + (c.toNat - 48)) 0
  if digits.isEmpty then return .error { cause := .countMissing, span }
  else if countLimit ≤ number then return .error { cause := .numberTooLarge, span }
  else return .ok number

/-- A count that has to be there. -/
def countOf : Except Fault Nat → Reading Nat
  | .ok n => return n
  | .error fault => throw fault

/-- A repetition with counts between braces. -/
def countedRepetition (branch : Branch) : Reading Branch := do
  let brace ← here
  let (part, before) ← repeatedPart branch
  unless ← bumpOver do fail .countUnclosed (← spanFrom brace)
  let first ← count
  let (least, most) ← match ← char? with
    | none => fail .countUnclosed (← spanFrom brace)
    | some ',' => do
        unless ← bumpOver do fail .countUnclosed (← spanFrom brace)
        if (← char?) = some '\x7d' then pure (← countOf first, none)
        else do
          let least ← countOf first
          pure (least, some (← countOf (← count)))
    | some _ => do
        let least ← countOf first
        pure (least, some least)
  if (← char?) ≠ some '\x7d' then fail .countUnclosed (← spanFrom brace)
  let _ ← bumpOver
  let isLazy ← lazyMark
  if most.any (· < least) then fail .countReversed (← spanFrom brace)
  repeatPart part before least most isLazy

/-! ## The whole -/

/-- A part of one sign. -/
def simplePart (c : Char) : Reading Tree := do
  let span := (← get).charSpan
  if c = '\\' then escape
  else do
    let _ ← bump
    if c = '.' then return .dot span
    else if c = '^' then return .assertion span .lineStart
    else if c = '$' then return .assertion span .lineEnd
    else return .literal { span, char := c }

/-- Whether flags make text verbose, or not. -/
def verboseIn (flags : Switches) (otherwise : Bool) : Bool :=
  (flags.lookup .verbose).getD otherwise

/-- A level that waits for the group inside it. -/
structure Waiting where
  level : Level
  branch : Branch
  verbose : Bool

/-- Close the group of a level at the parenthesis under the cursor. -/
def closeGroup (level : Level) (branch : Branch) (outer : List Waiting) :
    Reading (Waiting × List Waiting) := do
  match level.head, outer with
  | some head, waiting :: outer => do
      let inner := level.toTree branch (← here)
      modify fun c => { c with verbose := waiting.verbose }
      let _ ← bump
      let group := Tree.group (← spanFrom head.span.start) head.captures head.flags inner
      return ({ waiting with branch := waiting.branch.push group }, outer)
  | _, _ => fail .groupUnopened (← get).charSpan

/-- The tree, at the end of the pattern. -/
def finish (level : Level) (branch : Branch) : Reading Tree := do
  match level.head with
  | some head => fail .groupUnclosed head.span
  | none => return level.toTree branch (← here)

/-- Read parts to the end of the pattern. -/
def partsLoop : (fuel : Nat) → Level → Branch → List Waiting → Reading Tree
  | 0, level, branch, _ => finish level branch
  | fuel + 1, level, branch, outer => do
      modify Cursor.solid
      match ← char? with
      | none => finish level branch
      | some '(' => do
          let verbose := (← get).verbose
          match ← opening with
          | .switches span flags => do
              modify fun c => { c with verbose := verboseIn flags verbose }
              partsLoop fuel level (branch.push (.switches span flags)) outer
          | .group head => do
              modify fun c => { c with verbose := verboseIn head.flags verbose }
              let start ← here
              partsLoop fuel { head := some head, start } { start }
                (⟨level, branch, verbose⟩ :: outer)
      | some ')' => do
          let (waiting, outer) ← closeGroup level branch outer
          partsLoop fuel waiting.level waiting.branch outer
      | some '|' => do
          let finished := branch.toTree (← here)
          let _ ← bump
          let level := { level with reversed := finished :: level.reversed }
          partsLoop fuel level { start := ← here } outer
      | some '[' => do partsLoop fuel level (branch.push (← bracketedSet)) outer
      | some '?' => do partsLoop fuel level (← signRepetition branch 0 (some 1)) outer
      | some '*' => do partsLoop fuel level (← signRepetition branch 0 none) outer
      | some '+' => do partsLoop fuel level (← signRepetition branch 1 none) outer
      | some '\x7b' => do partsLoop fuel level (← countedRepetition branch) outer
      | some c => do partsLoop fuel level (branch.push (← simplePart c)) outer

/-- How deep the parts of a pattern may be nested. -/
def nestingLimit : Nat := 250

/-- The tree of a pattern. -/
def Tree.ofText (pattern : List Char) : Except Fault Tree := do
  let level : Level := { head := none, start := .first }
  let read := partsLoop (pattern.length + 1) level { start := .first } []
  let (tree, _) ← read (Cursor.start pattern)
  match tree.tooDeep nestingLimit with
  | some span => .error { cause := .nesting nestingLimit, span }
  | none => .ok tree

end ReleaseGate.Pattern
