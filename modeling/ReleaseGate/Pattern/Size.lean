/-
# Pattern.Size — how much room a compiled pattern takes

A pattern stands for an automaton with a state for every byte it can read, for
every fork and for both ends of every group; what is repeated with counts has
as many copies. Only the room of the automaton is counted here, state by state,
and counting stops where the room is used up (`Automaton.grow`).

The states of a set beyond ASCII are shared: one with the same branches is made
once, as long as it is remembered. A state is remembered in a slot that its
branches choose, and forgotten when another one takes the slot, so the room of
a set also depends on the numbers of the states.
-/
import ReleaseGate.Pattern.ByteTree
import ReleaseGate.Pattern.LiteralTree
import ReleaseGate.Pattern.Outline
import Std.Data.HashMap

namespace ReleaseGate.Pattern

set_option autoImplicit false

/-- The room of a state without branches of its own. -/
def stateRoom : Nat := 32

/-- The room of a branch that reads a byte. -/
def branchRoom : Nat := 8

/-- The room of a branch of a fork. -/
def forkRoom : Nat := 4

/-- The room that a pattern may take. -/
def roomLimit : Nat := 10485760

/-- An automaton under construction. -/
structure Automaton where
  /-- How many states there are; the next one has this number. -/
  states : Nat
  /-- The room of all branches. -/
  branches : Nat

namespace Automaton

def room (a : Automaton) : Nat := stateRoom * a.states + a.branches

/-- Add states and branches, if there is room. -/
def grow (a : Automaton) (states branches : Nat) : Option Automaton :=
  let grown : Automaton := ⟨a.states + states, a.branches + branches⟩
  if grown.room ≤ roomLimit then some grown else none

end Automaton

/-! ## Sets -/

/-- A branch of a state: the bytes it reads and the number of the state it leads to. -/
structure Step where
  low : Nat
  high : Nat
  next : Nat
  deriving DecidableEq, Repr

/-- How many slots there are for states. -/
def slotCount : Nat := 10000

/-- The slot of a state with the given branches. -/
def slotOf (steps : List Step) : Nat :=
  let mix (h : UInt64) (n : Nat) : UInt64 := (h ^^^ UInt64.ofNat n) * 1099511628211
  let chosen := steps.foldl (fun h step => mix (mix (mix h step.low) step.high) step.next)
    14695981039346656037
  chosen.toNat % slotCount

/-- An automaton, and the states that are remembered, by slot. -/
structure Sharing where
  automaton : Automaton
  slots : Std.HashMap Nat (List Step × Nat)

/-- The number of a state with the given branches; a new one if none is remembered. -/
def Sharing.state (s : Sharing) (steps : List Step) : Option (Nat × Sharing) :=
  let slot := slotOf steps
  let fresh : Option (Nat × Sharing) := do
    let number := s.automaton.states
    let automaton ← s.automaton.grow 1 (branchRoom * steps.length)
    return (number, ⟨automaton, s.slots.insert slot (steps, number)⟩)
  match s.slots[slot]? with
  | some (known, number) => if known = steps then some (number, s) else fresh
  | none => fresh

mutual

/-- The number of the state that a tree begins with; characters end at the state `stop`. -/
def ByteTree.state (stop : Nat) : ByteTree → Sharing → Option (Nat × Sharing)
  | .node [], s => some (stop, s)
  | .node (branch :: branches), s => do
      let (steps, s) ← ByteTree.steps stop (branch :: branches) s
      s.state steps

/-- The branches of a state, with what follows each. -/
def ByteTree.steps (stop : Nat) :
    List (ByteRange × ByteTree) → Sharing → Option (List Step × Sharing)
  | [], s => some ([], s)
  | ((low, high), tree) :: branches, s => do
      let (next, s) ← tree.state stop s
      let (steps, s) ← ByteTree.steps stop branches s
      return (⟨low, high, next⟩ :: steps, s)

end

/-- Add the states of a set; `tree` is its tree. -/
def CharSet.addTo (s : CharSet) (tree : ByteTree) (a : Automaton) : Option Automaton :=
  if s.isAscii then a.grow 2 (branchRoom * s.ranges.length)
  else do
    let stop := a.states
    let (_, shared) ← tree.state stop ⟨← a.grow 1 0, ∅⟩
    return shared.automaton

/-! ## Literals -/

/-- The room of states and branches. -/
structure Parts where
  states : Nat
  branches : Nat

def Parts.plus (p q : Parts) : Parts := ⟨p.states + q.states, p.branches + q.branches⟩

/-- The branches of a chunk: they read a byte from one state, to which a fork leads. -/
def chunkParts {α : Type} : List α → Parts
  | [] => ⟨0, 0⟩
  | [_] => ⟨1, forkRoom⟩
  | branches => ⟨1, branchRoom * branches.length + forkRoom⟩

mutual

/-- The states of a tree that is no leaf: a fork to its chunks, and to the end after each
closed one. -/
def LiteralTree.parts : LiteralTree → Parts
  | .node closed opened =>
      if (LiteralTree.node closed opened).isLeaf then ⟨0, 0⟩
      else
        let fork : Parts := ⟨1, forkRoom * closed.length⟩
        (fork.plus (chunkParts opened)).plus
          ((LiteralTree.chunksParts closed).plus (LiteralTree.branchParts opened))

def LiteralTree.chunksParts : List (List (UInt8 × LiteralTree)) → Parts
  | [] => ⟨0, 0⟩
  | chunk :: chunks =>
      (chunkParts chunk).plus
        ((LiteralTree.branchParts chunk).plus (LiteralTree.chunksParts chunks))

def LiteralTree.branchParts : List (UInt8 × LiteralTree) → Parts
  | [] => ⟨0, 0⟩
  | (_, tree) :: branches => tree.parts.plus (LiteralTree.branchParts branches)

end

/-! ## Outlines -/

/-- An automaton that has been added to, and whether its last state is a fork: then whatever
follows is one more branch of it. -/
structure Grown where
  automaton : Automaton
  endsInFork : Bool

/-- Connect the end with what follows. -/
def Grown.link (g : Grown) : Option Automaton :=
  if g.endsInFork then g.automaton.grow 0 forkRoom else some g.automaton

/-- Add `n` more copies, one after the other. -/
def addCopies (add : Automaton → Option Grown) : (n : Nat) → Grown → Option Grown
  | 0, g => some g
  | n + 1, g => do
      let a ← g.link
      addCopies add n (← add a)

/-- Add `n` copies; none is an empty state. -/
def addTimes (add : Automaton → Option Grown) (n : Nat) (a : Automaton) : Option Grown :=
  match n with
  | 0 => do return ⟨← a.grow 1 0, false⟩
  | n + 1 => do addCopies add n (← add a)

/-- Add `n` copies that can be left out, each behind a fork to it and to the end. -/
def addChoices (add : Automaton → Option Grown) : (n : Nat) → Grown → Option Grown
  | 0, g => some g
  | n + 1, g => do
      let a ← g.link
      addChoices add n (← add (← a.grow 1 (2 * forkRoom)))

/-- Add a repetition. -/
def addRepeated (add : Automaton → Option Grown) (canBeEmpty : Bool) (least : Nat)
    (most : Option Nat) (a : Automaton) : Option Grown :=
  match least, most with
  | 0, some 1 => do
      let g ← add (← a.grow 1 (2 * forkRoom))
      return ⟨← (← g.link).grow 1 0, false⟩
  | 0, none =>
      if canBeEmpty then do
        let g ← add a
        return ⟨← (← g.link).grow 3 (4 * forkRoom), false⟩
      else do
        let g ← add (← a.grow 1 forkRoom)
        return ⟨← g.link, true⟩
  | least, none => do
      let g ← addTimes add least a
      return ⟨← (← g.link).grow 1 forkRoom, true⟩
  | least, some most => do
      let g ← addTimes add least a
      if most = least then return g
      else do
        let g ← addChoices add (most - least) { g with automaton := ← g.automaton.grow 1 0 }
        return ⟨← g.link, false⟩

/-- The bytes of branches that are all runs of bytes. -/
def Outline.runs? (branches : List Outline) : Option (List (List UInt8)) :=
  branches.mapM fun
    | .bytes run => some run
    | _ => none

mutual

/-- Add the states of an outline. -/
def Outline.addTo : Outline → Automaton → Option Grown
  | .empty, a => do return ⟨← a.grow 1 0, false⟩
  | .bytes run, a => do return ⟨← a.grow run.length 0, false⟩
  | .set s, a => do return ⟨← s.addTo s.byteTree a, false⟩
  | .look _, a => do return ⟨← a.grow 1 0, false⟩
  | .group inner, a => do
      let g ← inner.addTo (← a.grow 1 0)
      return ⟨← (← g.link).grow 1 0, false⟩
  | .repeated least most _ inner, a =>
      addRepeated inner.addTo (inner.shortest.getD 0 == 0) least most a
  | .sequence parts, a => Outline.addAll parts ⟨a, false⟩
  | .alternatives branches, a =>
      match Outline.runs? branches with
      | some runs => do
          let parts := (LiteralTree.ofRuns runs).parts
          return ⟨← a.grow (parts.states + 1) parts.branches, false⟩
      | none => do return ⟨← Outline.addAny 0 branches a, false⟩

/-- Add the states of parts in a row. -/
def Outline.addAll : List Outline → Grown → Option Grown
  | [], g => some g
  | part :: rest, g => do
      let a ← g.link
      Outline.addAll rest (← part.addTo a)

/-- Add the states of branches; the fork and the end come after the first two. -/
def Outline.addAny (before : Nat) : List Outline → Automaton → Option Automaton
  | [], a => some a
  | branch :: rest, a => do
      let g ← branch.addTo a
      let a ← (← g.link).grow (if before = 1 then 2 else 0) forkRoom
      Outline.addAny (before + 1) rest a

end

/-- The automaton of an outline: before it what passes over the start of a text, around it a
group, after it the state of a match. -/
def Outline.automaton (o : Outline) : Option Automaton := do
  let start : Automaton := ⟨0, 0⟩
  let a ← if o.isAnchored then start.grow 1 0 else start.grow 3 (branchRoom + 2 * forkRoom)
  let g ← Outline.addTo (.group o) a
  g.automaton.grow 1 0

/-- Whether there is room for an expression. -/
def Expr.fits (e : Expr) : Bool := (Outline.ofExpr e).automaton.isSome

end ReleaseGate.Pattern
