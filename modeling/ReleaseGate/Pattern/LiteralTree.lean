/-
# Pattern.LiteralTree — a choice between runs of bytes

Runs of bytes that begin alike share the states for what they begin with. A run
that ends at a state comes before those that go on from there and are put in
later, so the branches of a state stand in chunks: a chunk is closed whenever a
run ends.
-/
namespace ReleaseGate.Pattern

set_option autoImplicit false

/-- The branches of a state: the closed chunks in order, and the one that is open. -/
inductive LiteralTree where
  | node (closed : List (List (UInt8 × LiteralTree))) (opened : List (UInt8 × LiteralTree))

namespace LiteralTree

def leaf : LiteralTree := .node [] []

/-- Whether no branch leads on. -/
def isLeaf : LiteralTree → Bool
  | .node closed opened => opened.isEmpty && closed.all (·.isEmpty)

/-- Put in a branch; the branches of a chunk ascend. -/
def putBranch (byte : UInt8) (tree : LiteralTree) :
    List (UInt8 × LiteralTree) → List (UInt8 × LiteralTree)
  | [] => [(byte, tree)]
  | (other, there) :: rest =>
      if byte < other then (byte, tree) :: (other, there) :: rest
      else if byte = other then (byte, tree) :: rest
      else (other, there) :: putBranch byte tree rest

/-- Put in a run of bytes. A state where a run has ended is not marked again unless it has
branches. -/
def insert : List UInt8 → LiteralTree → LiteralTree
  | [], .node closed opened =>
      if (LiteralTree.node closed opened).isLeaf && !closed.isEmpty then .node closed opened
      else .node (closed ++ [opened]) []
  | byte :: run, .node closed opened =>
      .node closed (putBranch byte (insert run ((opened.lookup byte).getD leaf)) opened)

def ofRuns (runs : List (List UInt8)) : LiteralTree :=
  runs.foldl (fun tree run => tree.insert run) leaf

end LiteralTree

end ReleaseGate.Pattern
