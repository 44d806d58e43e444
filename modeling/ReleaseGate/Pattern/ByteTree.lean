/-
# Pattern.ByteTree — the bytes of the characters of a set

The characters of a range are written with one to four bytes. A range is split
until the bytes at each place can be chosen apart from the other places; the
places of such a piece are a row of byte ranges. The rows of a set ascend, and
rows that begin alike are branches of one tree.
-/
import ReleaseGate.Pattern.CharSet

namespace ReleaseGate.Pattern

set_option autoImplicit false

/-- A closed range of bytes. -/
abbrev ByteRange := Nat × Nat

/-- Byte ranges for the places of a character. -/
abbrev ByteRow := List ByteRange

/-- The rows of the numbers from `low` to `high`, which are written with a leading digit after
`mark` and `places` digits to the base 64. -/
def digitRows (mark : Nat) : (places low high : Nat) → List ByteRow
  | 0, low, high => [[(mark + low, mark + high)]]
  | places + 1, low, high =>
      let size := Nat.pow 64 (places + 1)
      let first := low / size
      let last := high / size
      let under (digit : Nat) (rows : List ByteRow) : List ByteRow :=
        rows.map fun row => (mark + digit, mark + digit) :: row
      if first = last then under first (digitRows 0x80 places (low % size) (high % size))
      else
        let startsInside := low % size ≠ 0
        let endsInside := high % size ≠ size - 1
        let start := if startsInside then first + 1 else first
        let stop := if endsInside then last else last + 1
        let full : ByteRow := List.replicate (places + 1) (0x80, 0xbf)
        (if startsInside then under first (digitRows 0x80 places (low % size) (size - 1))
          else []) ++
          (if start < stop then [(mark + start, mark + (stop - 1)) :: full] else []) ++
          if endsInside then under last (digitRows 0x80 places 0 (high % size)) else []

/-- The ranges of characters with as many bytes: the mark of the first byte and how many follow. -/
def sizeClasses : List ((Nat × Nat) × Nat × Nat) :=
  [((0, 0x7f), 0, 0), ((0x80, 0x7ff), 0xc0, 1), ((0x800, 0xd7ff), 0xe0, 2),
    ((0xe000, 0xffff), 0xe0, 2), ((0x10000, 0x10ffff), 0xf0, 3)]

/-- The rows of a range of characters. -/
def rangeRows (range : Nat × Nat) : List ByteRow :=
  sizeClasses.flatMap fun (limits, mark, places) =>
    match CharSet.overlap range limits with
    | some (low, high) => digitRows mark places low high
    | none => []

/-- Byte ranges, and what follows each; a character ends where no branch follows. -/
inductive ByteTree where
  | node (branches : List (ByteRange × ByteTree))

/-- The tree of rows that ascend and have at most `places` ranges. -/
def ByteTree.ofRows : (places : Nat) → List ByteRow → ByteTree
  | 0, _ => .node []
  | places + 1, rows =>
      let groups := (rows.filter fun row => !row.isEmpty).splitBy fun r q => r.head? == q.head?
      .node (groups.map fun group =>
        ((group.head?.bind List.head?).getD (0, 0), ofRows places (group.map List.tail)))

/-- The tree of the characters of a set. -/
def CharSet.byteTree (s : CharSet) : ByteTree := ByteTree.ofRows 4 (s.ranges.flatMap rangeRows)

end ReleaseGate.Pattern
