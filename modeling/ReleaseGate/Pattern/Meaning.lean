/-
# Pattern.Meaning — what a tree means under its flags

Flags hold from where they are switched to the end of their group. Unless they
say otherwise a pattern is about characters of all scripts; then letter case
cannot be ignored. With the `unicode` flag off, classes and ignored case are
about ASCII, and a class that would take other bytes is refused, since names
are text.
-/
import ReleaseGate.Pattern.Matching
import ReleaseGate.Pattern.Tree

namespace ReleaseGate.Pattern

set_option autoImplicit false

/-- The flags that matter for what a pattern means. -/
structure Modes where
  ignoreCase : Bool := false
  multiLine : Bool := false
  dotAll : Bool := false
  crlf : Bool := false
  swapGreed : Bool := false
  unicode : Bool := true
  deriving DecidableEq, Repr

/-- Switch one flag. -/
def Modes.switch (modes : Modes) : Flag × Bool → Modes
  | (.ignoreCase, on) => { modes with ignoreCase := on }
  | (.multiLine, on) => { modes with multiLine := on }
  | (.dotAll, on) => { modes with dotAll := on }
  | (.crlf, on) => { modes with crlf := on }
  | (.unicode, on) => { modes with unicode := on }
  | (.swapGreed, on) => { modes with swapGreed := on }
  | (.verbose, _) => modes

def Modes.switchAll (modes : Modes) (flags : Switches) : Modes := flags.foldl Modes.switch modes

/-- The largest number of a member of sets. -/
def Modes.limit (modes : Modes) : Nat := if modes.unicode then 0x10ffff else 0xff

/-! ## Classes -/

/-- A set under construction. -/
structure Class where
  set : CharSet
  /-- Whether the set is known to hold both cases of each of its letters. -/
  folded : Bool

namespace Class

def empty : Class := ⟨.empty, true⟩

def ofSet (set : CharSet) : Class := ⟨set, set.isEmpty⟩

def union (c d : Class) : Class :=
  if d.set.isEmpty ∨ c.set = d.set then c else ⟨c.set.union d.set, c.folded && d.folded⟩

def insert (c : Class) (low high : Nat) : Class := c.union (.ofSet ⟨[(low, high)]⟩)

def complement (limit : Nat) (c : Class) : Class :=
  ⟨c.set.complement limit, c.folded || c.set.isEmpty⟩

def inter (c d : Class) : Class :=
  if c.set.isEmpty then c
  else if d.set.isEmpty then empty
  else ⟨c.set.inter d.set, c.folded && d.folded⟩

def diff (c d : Class) : Class :=
  if c.set.isEmpty ∨ d.set.isEmpty then c
  else ⟨c.set.diff d.set, c.folded && d.folded⟩

def symDiff (c d : Class) : Class := (c.union d).diff (c.inter d)

def combine : SetOp → Class → Class → Class
  | .inter => inter
  | .diff => diff
  | .symDiff => symDiff

/-- The set with both cases of its letters, where case is ignored. -/
def fold (modes : Modes) (span : Span) (c : Class) : Except Fault Class :=
  if !modes.ignoreCase || c.folded then .ok c
  else if modes.unicode then
    if c.set.isEmpty then .ok { c with folded := true } else .error { cause := .caseFolding, span }
  else .ok ⟨c.set.foldAscii, true⟩

/-- The set, unless it holds bytes that are no text by themselves. -/
def onlyText (modes : Modes) (span : Span) (c : Class) : Except Fault Class :=
  if modes.unicode || c.set.isAscii then .ok c else .error { cause := .notText, span }

/-- The set or its complement. -/
def negateIf (modes : Modes) (negated : Bool) (c : Class) : Class :=
  if negated then c.complement modes.limit else c

/-- Close a class that stands for itself or for its complement. -/
def finish (modes : Modes) (span : Span) (negated : Bool) (c : Class) : Except Fault Class := do
  onlyText modes span ((← c.fold modes span).negateIf modes negated)

end Class

def Shorthand.ranges (unicode : Bool) : Shorthand → List (Nat × Nat)
  | .digit => if unicode then Text.digitRanges else [(0x30, 0x39)]
  | .space => if unicode then Text.blankRanges else [(0x9, 0xd), (0x20, 0x20)]
  | .word =>
      if unicode then Text.wordRanges else [(0x30, 0x39), (0x41, 0x5a), (0x5f, 0x5f), (0x61, 0x7a)]

/-- A class with an escape of its own; it holds both cases of its letters. -/
def shorthandClass (modes : Modes) (span : Span) (kind : Shorthand) (negated : Bool) :
    Except Fault Class :=
  Class.onlyText modes span ((Class.ofSet ⟨kind.ranges modes.unicode⟩).negateIf modes negated)

def propertyClass (modes : Modes) (span : Span) (p : Property) : Except Fault Class :=
  if !modes.unicode then .error { cause := .notUnicode, span }
  else
    match p.ranges with
    | .error cause => .error { cause, span }
    | .ok ranges => (Class.ofSet ⟨ranges⟩).finish modes span p.negated

/-- The number of a literal as a member of a set. -/
def memberNumber (modes : Modes) (l : Literal) : Except Fault Nat :=
  let n := l.char.toNat
  if modes.unicode ∨ n < 0x80 then .ok n
  else .error { cause := if l.isByte then .notText else .notUnicode, span := l.span }

mutual

/-- Add to a class what a set tree stands for. -/
def SetTree.addTo (modes : Modes) : SetTree → Class → Except Fault Class
  | .nothing _, c => .ok c
  | .literal l, c => do
      let n ← memberNumber modes l
      return c.insert n n
  | .range _ low high, c => do
      let low ← memberNumber modes low
      return c.insert low (← memberNumber modes high)
  | .ascii span ranges negated, c => do
      return c.union (← (Class.ofSet ⟨ranges⟩).finish modes span negated)
  | .shorthand span kind negated, c => return c.union (← shorthandClass modes span kind negated)
  | .property span p, c => return c.union (← propertyClass modes span p)
  | .bracketed span negated inner, c => do
      return c.union (← (← inner.addTo modes .empty).finish modes span negated)
  | .several _ members, c => SetTree.addAll modes members c
  | .op _ kind left right, c => do
      let l ← left.addTo modes .empty
      let r ← right.addTo modes .empty
      let r ← r.fold modes right.span
      let l ← l.fold modes left.span
      return c.union (Class.combine kind l r)

def SetTree.addAll (modes : Modes) : List SetTree → Class → Except Fault Class
  | [], c => .ok c
  | member :: rest, c => do SetTree.addAll modes rest (← member.addTo modes c)

end

/-! ## Parts -/

/-- A literal matches itself, or both its cases. -/
def literalExpr (modes : Modes) (l : Literal) : Except Fault Expr :=
  if modes.unicode then
    if modes.ignoreCase then .error { cause := .caseFolding, span := l.span }
    else .ok (.set (.single l.char))
  else if l.isByte ∧ 0x80 ≤ l.char.toNat then .error { cause := .notText, span := l.span }
  else if modes.ignoreCase then .ok (.set (CharSet.single l.char).foldAscii)
  else .ok (.set (.single l.char))

/-- The characters that the dot leaves out. -/
def dotExcept (modes : Modes) : CharSet :=
  if modes.dotAll then .empty
  else if modes.crlf then .ofRanges [(0xa, 0xa), (0xd, 0xd)]
  else .single '\n'

def dotExpr (modes : Modes) (span : Span) : Except Fault Expr :=
  if modes.unicode then .ok (.set ((dotExcept modes).complement modes.limit))
  else .error { cause := .notText, span }

def Assertion.look (modes : Modes) : Assertion → Look
  | .lineStart => if modes.multiLine then .lineStart modes.crlf else .textStart
  | .lineEnd => if modes.multiLine then .lineEnd modes.crlf else .textEnd
  | .textStart => .textStart
  | .textEnd => .textEnd
  | .boundary => .boundary modes.unicode
  | .noBoundary => .noBoundary modes.unicode
  | .wordStart => .wordStart modes.unicode
  | .wordEnd => .wordEnd modes.unicode
  | .wordStartHalf => .wordStartHalf modes.unicode
  | .wordEndHalf => .wordEndHalf modes.unicode

mutual

/-- The expression of a tree, and the modes after it. -/
def Tree.meaning (modes : Modes) : Tree → Except Fault (Expr × Modes)
  | .nothing _ => .ok (.empty, modes)
  | .switches _ flags => .ok (.empty, modes.switchAll flags)
  | .literal l => return (← literalExpr modes l, modes)
  | .dot span => return (← dotExpr modes span, modes)
  | .assertion _ kind => .ok (.look (kind.look modes), modes)
  | .shorthand span kind negated => do
      return (.set (← shorthandClass modes span kind negated).set, modes)
  | .property span p => return (.set (← propertyClass modes span p).set, modes)
  | .set span negated inner => do
      return (.set (← (← inner.addTo modes .empty).finish modes span negated).set, modes)
  | .repeated _ least most isLazy inner => do
      let (e, after) ← inner.meaning modes
      return (.repeated least most (isLazy != after.swapGreed) e, after)
  | .group _ captures flags inner => do
      let (e, _) ← inner.meaning (modes.switchAll flags)
      return (if captures then .group e else e, modes)
  | .alternatives _ branches => do
      let (es, after) ← Tree.meanings modes branches
      return (.alternatives es, after)
  | .sequence _ parts => do
      let (es, after) ← Tree.meanings modes parts
      return (.sequence es, after)

/-- The expressions of trees in order; each begins in the modes after the one before. -/
def Tree.meanings (modes : Modes) : List Tree → Except Fault (List Expr × Modes)
  | [] => .ok ([], modes)
  | tree :: rest => do
      let (e, between) ← tree.meaning modes
      let (es, after) ← Tree.meanings between rest
      return (e :: es, after)

end

end ReleaseGate.Pattern
