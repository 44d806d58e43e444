/-
# Pattern.Brackets — sets of characters between brackets

A set lists literals, ranges, classes and further sets in brackets; `&&`, `--`
and `~~` combine what stands before them with what comes after, from left to
right. A closing bracket right after the opening one, and hyphens there, stand
for themselves.
-/
import ReleaseGate.Pattern.Escape

namespace ReleaseGate.Pattern

set_option autoImplicit false

open Reading

/-- The classes of ASCII characters, by name. -/
def asciiClasses : List (String × List (Nat × Nat)) :=
  [("alnum", [(0x30, 0x39), (0x41, 0x5a), (0x61, 0x7a)]),
    ("alpha", [(0x41, 0x5a), (0x61, 0x7a)]),
    ("ascii", [(0, 0x7f)]),
    ("blank", [(0x9, 0x9), (0x20, 0x20)]),
    ("cntrl", [(0, 0x1f), (0x7f, 0x7f)]),
    ("digit", [(0x30, 0x39)]),
    ("graph", [(0x21, 0x7e)]),
    ("lower", [(0x61, 0x7a)]),
    ("print", [(0x20, 0x7e)]),
    ("punct", [(0x21, 0x2f), (0x3a, 0x40), (0x5b, 0x60), (0x7b, 0x7e)]),
    ("space", [(0x9, 0xd), (0x20, 0x20)]),
    ("upper", [(0x41, 0x5a)]),
    ("word", [(0x30, 0x39), (0x41, 0x5a), (0x5f, 0x5f), (0x61, 0x7a)]),
    ("xdigit", [(0x30, 0x39), (0x41, 0x46), (0x61, 0x66)])]

/-- Members read so far, the last one first. -/
structure Members where
  /-- Where the first member starts, or would. -/
  start : Mark
  stop : Mark
  reversed : List SetTree := []

def Members.none (place : Mark) : Members := { start := place, stop := place }

def Members.push (m : Members) (member : SetTree) : Members where
  start := if m.reversed.isEmpty then member.span.start else m.start
  stop := member.span.stop
  reversed := member :: m.reversed

def Members.toSet (m : Members) : SetTree :=
  match m.reversed with
  | [] => .nothing ⟨m.start, m.stop⟩
  | [member] => member
  | members => .several ⟨m.start, m.stop⟩ members.reverse

/-- An open set. -/
structure OpenSet where
  /-- The members of the set around it. -/
  outside : Members
  /-- The opening bracket and what belongs to it. -/
  head : Span
  negated : Bool
  /-- An operator that waits for its right side. -/
  pending : Option (SetOp × SetTree) := .none

/-- What stands before the next operator or the closing bracket. -/
def OpenSet.combine (level : OpenSet) (right : SetTree) : SetTree :=
  match level.pending with
  | .none => right
  | some (kind, left) => .op ⟨left.span.start, right.span.stop⟩ kind left right

/-- A class such as `[:alpha:]`, if one stands here. -/
def asciiClass? (c : Cursor) : Option (SetTree × Cursor) := do
  let inside ← c.past? ['[', ':']
  let negated := inside.char? = some '^'
  let atName := if negated then inside.bump else inside
  let name := atName.rest.takeWhile (· != ':')
  let after := name.foldl (fun cursor _ => cursor.bump) atName
  let done ← after.past? [':', ']']
  let ranges ← asciiClasses.lookup (String.ofList name)
  return (.ascii ⟨c.mark, done.mark⟩ ranges negated, done)

/-- Hyphens at the start of a set. -/
def leadingHyphens (bracket : Mark) : (fuel : Nat) → Members → Reading Members
  | 0, members => return members
  | fuel + 1, members => do
      if (← char?) = some '-' then
        let hyphen := SetTree.literal { span := (← get).charSpan, char := '-' }
        unless ← bumpOver do fail .setUnclosed bracket.span
        leadingHyphens bracket fuel (members.push hyphen)
      else return members

/-- Read an opening bracket and what belongs to it. -/
def openSet (outside : Members) : Reading (OpenSet × Members) := do
  let bracket ← here
  unless ← bumpOver do fail .setUnclosed (← spanFrom bracket)
  let negated := (← char?) = some '^'
  if negated then
    unless ← bumpOver do fail .setUnclosed (← spanFrom bracket)
  let hyphens ← leadingHyphens bracket (← steps) (.none (← here))
  let members ←
    if hyphens.reversed.isEmpty ∧ (← char?) = some ']' then do
      let closing := SetTree.literal { span := (← get).charSpan, char := ']' }
      unless ← bumpOver do fail .setUnclosed (← spanFrom bracket)
      pure (hyphens.push closing)
    else pure hyphens
  return ({ outside, head := ← spanFrom bracket, negated }, members)

/-- One character, or what a backslash begins. -/
def setPart : Reading Tree := do
  match ← char? with
  | some '\\' => escape
  | some c => do
      let span := (← get).charSpan
      let _ ← bump
      return .literal { span, char := c }
  | none => return .nothing (← here).span

/-- A part of a set as a member of it. -/
def memberOf : Tree → Reading SetTree
  | .literal l => return .literal l
  | .shorthand span kind negated => return .shorthand span kind negated
  | .property span p => return .property span p
  | tree => fail .escapeInSet tree.span

/-- An end of a range. -/
def rangeEnd : Tree → Reading Literal
  | .literal l => return l
  | tree => fail .rangeEnd tree.span

/-- A member, or a range. -/
def memberOrRange (level : OpenSet) : Reading SetTree := do
  let first ← setPart
  modify Cursor.solid
  match ← char? with
  | none => fail .setUnclosed level.head
  | some c =>
      let next := (← get).secondSolid?
      if c ≠ '-' ∨ next = some ']' ∨ next = some '-' then memberOf first
      else
        unless ← bumpOver do fail .setUnclosed level.head
        let second ← setPart
        let span : Span := ⟨first.span.start, second.span.stop⟩
        let low ← rangeEnd first
        let high ← rangeEnd second
        if high.char < low.char then fail .rangeReversed span
        return .range span low high

/-- The operator at the cursor. -/
def operator? (c : Cursor) : Option SetOp :=
  match c.rest with
  | '&' :: '&' :: _ => some .inter
  | '-' :: '-' :: _ => some .diff
  | '~' :: '~' :: _ => some .symDiff
  | _ => none

/-- Read members up to the bracket that closes the outermost open set. -/
def membersLoop : (fuel : Nat) → OpenSet → List OpenSet → Members → Reading Tree
  | 0, level, _, _ => fail .setUnclosed level.head
  | fuel + 1, level, outer, members => do
      modify Cursor.solid
      let cursor ← get
      match cursor.char? with
      | none => fail .setUnclosed level.head
      | some '[' =>
          match asciiClass? cursor with
          | some (member, after) =>
              set after
              membersLoop fuel level outer (members.push member)
          | none =>
              let (inner, inside) ← openSet members
              membersLoop fuel inner (level :: outer) inside
      | some ']' =>
          let inner := level.combine members.toSet
          let _ ← bump
          let span ← spanFrom level.head.start
          match outer with
          | [] => return .set span level.negated inner
          | parent :: outer =>
              membersLoop fuel parent outer
                (level.outside.push (.bracketed span level.negated inner))
      | some _ =>
          match operator? cursor with
          | some kind =>
              modify fun c => c.bump.bump
              let left := level.combine members.toSet
              membersLoop fuel { level with pending := some (kind, left) } outer (.none (← here))
          | none => membersLoop fuel level outer (members.push (← memberOrRange level))

/-- The set whose opening bracket is under the cursor. -/
def bracketedSet : Reading Tree := do
  let fuel ← steps
  let (level, members) ← openSet (.none (← here))
  membersLoop fuel level [] members

end ReleaseGate.Pattern
