/-
# Pattern.CharSet — sets of characters

A set is a list of closed ranges of code points. Sets are built from ranges that
ascend and are apart from each other by number. The code points from D800 to
DFFF are no characters, so the one after D7FF is E000; a gap that holds only
those is no gap, and the two characters at its rims are then what a complement
takes for it (`gapBetween`).
-/
import ReleaseGate.Text.WordChars

namespace ReleaseGate.Pattern

set_option autoImplicit false

/-- A set of characters. -/
structure CharSet where
  ranges : List (Nat × Nat)
  deriving DecidableEq, Repr

/-- The code point of the next character. -/
def pointAfter (n : Nat) : Nat := if n = 0xd7ff then 0xe000 else n + 1

/-- The code point of the character before. -/
def pointBefore (n : Nat) : Nat := if n = 0xe000 then 0xd7ff else n - 1

namespace CharSet

def empty : CharSet := ⟨[]⟩

def isEmpty (s : CharSet) : Bool := s.ranges.isEmpty

/-- Whether a character is in the set. -/
def contains (s : CharSet) (c : Char) : Bool := Text.inRanges s.ranges c.toNat

/-- A range joined with those that follow in ascending order and meet it. -/
def joinFrom (low high : Nat) : List (Nat × Nat) → List (Nat × Nat)
  | [] => [(low, high)]
  | (a, b) :: rest =>
      if a ≤ high + 1 then joinFrom low (max high b) rest else (low, high) :: joinFrom a b rest

/-- Ascending ranges, joined where they meet. -/
def joined : List (Nat × Nat) → List (Nat × Nat)
  | [] => []
  | (low, high) :: rest => joinFrom low high rest

/-- Whether a range comes first. -/
def comesFirst (r q : Nat × Nat) : Bool := r.1 < q.1 || (r.1 = q.1 && r.2 ≤ q.2)

/-- The set of all that some range holds. -/
def ofRanges (ranges : List (Nat × Nat)) : CharSet := ⟨joined (ranges.mergeSort comesFirst)⟩

def single (c : Char) : CharSet := ⟨[(c.toNat, c.toNat)]⟩

def union (s t : CharSet) : CharSet := ofRanges (s.ranges ++ t.ranges)

/-- The range between one that ends at `high` and one that begins at `low`. -/
def gapBetween (high low : Nat) : Nat × Nat :=
  (min (pointAfter high) (pointBefore low), max (pointAfter high) (pointBefore low))

/-- What ranges leave over from the one that ends at `high` up to `limit`. -/
def gapsAfter (limit high : Nat) : List (Nat × Nat) → List (Nat × Nat)
  | [] => if high < limit then [(pointAfter high, limit)] else []
  | (a, b) :: rest => gapBetween high a :: gapsAfter limit b rest

/-- All code points up to `limit` that are not in the set. -/
def complement (limit : Nat) (s : CharSet) : CharSet :=
  match s.ranges with
  | [] => ⟨[(0, limit)]⟩
  | (a, b) :: rest =>
      ⟨(if 0 < a then [(0, pointBefore a)] else []) ++ gapsAfter limit b rest⟩

/-- What two ranges share. -/
def overlap (r q : Nat × Nat) : Option (Nat × Nat) :=
  let low := max r.1 q.1
  let high := min r.2 q.2
  if low ≤ high then some (low, high) else none

def inter (s t : CharSet) : CharSet :=
  ⟨s.ranges.flatMap fun range => t.ranges.filterMap (overlap range)⟩

/-- What ascending ranges leave over of one range. -/
def cutAway (low high : Nat) : List (Nat × Nat) → List (Nat × Nat)
  | [] => [(low, high)]
  | (a, b) :: rest =>
      if b < low then cutAway low high rest
      else if high < a then [(low, high)]
      else
        (if low < a then [(low, pointBefore a)] else []) ++
          if b < high then cutAway (pointAfter b) high rest else []

def diff (s t : CharSet) : CharSet :=
  ⟨s.ranges.flatMap fun range => cutAway range.1 range.2 t.ranges⟩

/-- What is in exactly one of two sets. -/
def symDiff (s t : CharSet) : CharSet := (s.union t).diff (s.inter t)

/-- The part of a range inside another, moved. -/
def moved (low high : Nat) (move : Nat → Nat) (range : Nat × Nat) : List (Nat × Nat) :=
  let a := max low range.1
  let b := min high range.2
  if a ≤ b then [(move a, move b)] else []

/-- The set with the other case of its ASCII letters. -/
def foldAscii (s : CharSet) : CharSet :=
  let upper := s.ranges.flatMap (moved 0x61 0x7a (· - 0x20))
  let lower := s.ranges.flatMap (moved 0x41 0x5a (· + 0x20))
  ofRanges (s.ranges ++ upper ++ lower)

/-- Whether all members are ASCII. -/
def isAscii (s : CharSet) : Bool := s.ranges.all fun range => range.2 ≤ 0x7f

/-- The only member, of a set that has just one. -/
def only? (s : CharSet) : Option Char :=
  match s.ranges with
  | [(low, high)] => if low = high then some (Char.ofNat low) else none
  | _ => none

end CharSet

end ReleaseGate.Pattern
