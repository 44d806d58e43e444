/-
# Diff — what changed between two builds

A diff lists the changes of the code and, for each compared contract, whether
its new storage layout can replace the old one. Every record names the
contract it belongs to, so records of some contracts can be left out.

* `keeping_keeping`: leaving out twice is leaving out what either leaves out.
-/
import ReleaseGate.Json.Value

namespace ReleaseGate

set_option autoImplicit false

/-- One change of the code of a contract. -/
structure Change where
  contract : String
  /-- The label the change was given. -/
  kind : String
  /-- What else is told about the change, in the order it was told. -/
  details : List (String × Json)
  deriving BEq

/-- Whether a contract's new storage layout can replace the old one. -/
structure LayoutVerdict where
  contract : String
  compatible : Bool
  deriving DecidableEq, Repr

structure Diff where
  changes : List Change
  layouts : List LayoutVerdict
  deriving BEq

/-- How severe a change of the code is. -/
inductive Category where
  /-- Breaks the public interface. -/
  | major
  /-- Extends the public interface. -/
  | minor
  /-- Stays inside. -/
  | patch
  deriving DecidableEq, Repr

def Category.name : Category → String
  | .major => "major"
  | .minor => "minor"
  | .patch => "patch"

/-- Says how severe each change is. -/
abbrev Policy := Change → Category

namespace Diff

def empty : Diff := ⟨[], []⟩

/-- The records of the contracts whose name passes `keep`. -/
def keeping (d : Diff) (keep : String → Bool) : Diff :=
  ⟨d.changes.filter fun c => keep c.contract, d.layouts.filter fun l => keep l.contract⟩

theorem keeping_keeping (d : Diff) (p q : String → Bool) :
    (d.keeping p).keeping q = d.keeping fun name => p name && q name := by
  simp [keeping, List.filter_filter, Bool.and_comm]

@[simp] theorem keeping_true (d : Diff) : (d.keeping fun _ => true) = d := by
  obtain ⟨changes, layouts⟩ := d
  simp [keeping]

end Diff

end ReleaseGate
