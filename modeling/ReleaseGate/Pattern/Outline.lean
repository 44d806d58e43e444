/-
# Pattern.Outline — an expression with its parts run together

The outline of an expression matches the same texts with fewer parts. Characters
in a row are one run of bytes, a choice between single characters or between
sets is one set, a choice whose branches begin alike begins with what they
share, and what reads nothing is repeated at most once. How much room a pattern
takes is counted on its outline.
-/
import ReleaseGate.Pattern.Matching

namespace ReleaseGate.Pattern

set_option autoImplicit false

inductive Outline where
  | empty
  /-- Bytes in a row, at least one. -/
  | bytes (run : List UInt8)
  /-- A set that has not just one member. -/
  | set (s : CharSet)
  | look (l : Look)
  | repeated (least : Nat) (most : Option Nat) (isLazy : Bool) (inner : Outline)
  | group (inner : Outline)
  | sequence (parts : List Outline)
  | alternatives (branches : List Outline)

namespace Outline

/-! ## What an outline reads -/

mutual

/-- Whether an outline can read nothing but the empty text. -/
def isStill : Outline → Bool
  | .empty => true
  | .bytes _ => false
  | .set _ => false
  | .look _ => true
  | .repeated _ most _ inner => most.isSome && inner.isStill
  | .group inner => inner.isStill
  | .sequence parts => allStill parts
  | .alternatives branches => allStill branches

def allStill : List Outline → Bool
  | [] => true
  | part :: rest => part.isStill && allStill rest

end

/-- How many bytes the first member of a set has. -/
def firstSize (s : CharSet) : Option Nat := s.ranges.head?.map fun r => (Char.ofNat r.1).utf8Size

mutual

/-- How many bytes an outline reads at least; none if it reads no text at all. -/
def shortest : Outline → Option Nat
  | .empty => some 0
  | .bytes run => some run.length
  | .set s => firstSize s
  | .look _ => some 0
  | .repeated least _ _ inner => inner.shortest.map (least * ·)
  | .group inner => inner.shortest
  | .sequence parts => shortestOfAll parts
  | .alternatives branches => shortestOfAny branches

def shortestOfAll : List Outline → Option Nat
  | [] => some 0
  | part :: rest => do return (← part.shortest) + (← shortestOfAll rest)

def shortestOfAny : List Outline → Option Nat
  | [] => none
  | [branch] => branch.shortest
  | branch :: rest => do return min (← branch.shortest) (← shortestOfAny rest)

end

mutual

/-- Whether an outline shows by its first parts that it matches only from the start of a text on. -/
def isAnchored : Outline → Bool
  | .empty => false
  | .bytes _ => false
  | .set _ => false
  | .look l => l == .textStart
  | .repeated least _ _ inner => 0 < least && inner.isAnchored
  | .group inner => inner.isAnchored
  | .sequence parts => startsAnchored parts
  | .alternatives branches => allAnchored branches

/-- Whether one of the parts up to the first that reads something is anchored. -/
def startsAnchored : List Outline → Bool
  | [] => false
  | part :: rest => part.isAnchored || (part.isStill && startsAnchored rest)

def allAnchored : List Outline → Bool
  | [] => true
  | branch :: rest => branch.isAnchored && allAnchored rest

end

/-! ## Sameness -/

mutual

/-- Whether two outlines are the same; a group is never the same as another. -/
def same : Outline → Outline → Bool
  | .empty, .empty => true
  | .bytes p, .bytes q => p == q
  | .set s, .set t => s == t
  | .look l, .look k => l == k
  | .repeated least most isLazy inner, .repeated least' most' isLazy' inner' =>
      least == least' && most == most' && isLazy == isLazy' && inner.same inner'
  | .sequence parts, .sequence parts' => sameAll parts parts'
  | .alternatives branches, .alternatives branches' => sameAll branches branches'
  | _, _ => false

def sameAll : List Outline → List Outline → Bool
  | [], [] => true
  | part :: rest, part' :: rest' => part.same part' && sameAll rest rest'
  | _, _ => false

end

/-! ## Building -/

/-- A set, or the bytes of its only member. -/
def ofSet (s : CharSet) : Outline :=
  match s.only? with
  | some c => .bytes (String.utf8EncodeChar c)
  | none => .set s

/-- A repetition; what reads nothing need not be repeated. -/
def repeatedly (least : Nat) (most : Option Nat) (isLazy : Bool) (inner : Outline) : Outline :=
  let (least, most) :=
    if inner.isStill then (min least 1, some (min (most.getD 1) 1)) else (least, most)
  if most = some 0 then .empty
  else if least = 1 ∧ most = some 1 then inner
  else .repeated least most isLazy inner

/-- Put a part before others; bytes run together. -/
def consPart : Outline → List Outline → List Outline
  | .empty, parts => parts
  | .bytes p, .bytes q :: parts => .bytes (p ++ q) :: parts
  | part, parts => part :: parts

/-- The parts in a row, with the parts of sequences among them. -/
def flatParts : List Outline → List Outline
  | [] => []
  | .sequence inner :: rest => inner.foldr consPart (flatParts rest)
  | part :: rest => consPart part (flatParts rest)

/-- A sequence of parts. -/
def inSequence (parts : List Outline) : Outline :=
  match flatParts parts with
  | [] => .empty
  | [part] => part
  | parts => .sequence parts

/-- The branches of a choice, with the branches of choices among them. -/
def flatBranches : List Outline → List Outline
  | [] => []
  | .alternatives inner :: rest => inner ++ flatBranches rest
  | branch :: rest => branch :: flatBranches rest

/-- The only character of a run of bytes. -/
def onlyChar? : Outline → Option Char
  | .bytes run =>
      match (String.fromUTF8? ⟨run.toArray⟩).map String.toList with
      | some [c] => some c
      | _ => none
  | _ => none

/-- The set that a part is. -/
def set? : Outline → Option CharSet
  | .set s => some s
  | _ => none

/-- The set of branches that are all single characters, or all sets. -/
def unionOf? (branches : List Outline) : Option CharSet :=
  match branches.mapM onlyChar? with
  | some cs => some (.ofRanges (cs.map fun c => (c.toNat, c.toNat)))
  | none => (branches.mapM set?).map fun sets => .ofRanges (sets.flatMap (·.ranges))

/-- The parts of a sequence. -/
def parts? : Outline → Option (List Outline)
  | .sequence parts => some parts
  | _ => none

/-- How many parts two sequences begin with alike. -/
def sharedLength : List Outline → List Outline → Nat
  | part :: rest, part' :: rest' => if part.same part' then sharedLength rest rest' + 1 else 0
  | _, _ => 0

/-- A choice, or the one set that it comes to. -/
def plainChoice (branches : List Outline) : Outline :=
  let branches := flatBranches branches
  match unionOf? branches with
  | some s => ofSet s
  | none => .alternatives branches

/-- A choice between sequences that begin with the same `shared` parts. -/
def choiceAfter (shared : Nat) (first : List Outline) (others : List (List Outline)) : Outline :=
  let rests := (first :: others).map fun parts => inSequence (parts.drop shared)
  inSequence (first.take shared ++ [plainChoice rests])

/-- A choice between branches. What they all begin with is taken out of it; the rests have
no beginning in common. -/
def inChoice (branches : List Outline) : Outline :=
  match plainChoice branches with
  | .alternatives branches =>
      match branches.mapM parts? with
      | some (first :: others) =>
          let shared := others.foldl (fun n parts => min n (sharedLength first parts)) first.length
          if shared = 0 then .alternatives branches else choiceAfter shared first others
      | _ => .alternatives branches
  | choice => choice

mutual

/-- The outline of an expression. -/
def ofExpr : Expr → Outline
  | .empty => .empty
  | .set s => ofSet s
  | .look l => .look l
  | .sequence parts => inSequence (ofExprs parts)
  | .alternatives branches => inChoice (ofExprs branches)
  | .repeated least most isLazy inner => repeatedly least most isLazy (ofExpr inner)
  | .group inner => .group (ofExpr inner)

def ofExprs : List Expr → List Outline
  | [] => []
  | part :: rest => ofExpr part :: ofExprs rest

end

end Outline

end ReleaseGate.Pattern
