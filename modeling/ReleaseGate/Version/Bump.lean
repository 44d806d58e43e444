/-
# Version.Bump — how changes move a version

The most severe part that changed grows by one, every part below it starts
again at zero, every part above it stays. A bump says this part by part, so
it can also be read from a file that holds any other combination.
-/
import ReleaseGate.Version

namespace ReleaseGate.Version

set_option autoImplicit false

/-- What happens to one part. -/
inductive Delta where
  | keep
  | increment
  | reset
  deriving DecidableEq, Repr

namespace Delta

/-- The part after the delta; the largest number cannot grow. -/
def apply (delta : Delta) (n : UInt64) : Except Fault UInt64 :=
  match delta with
  | .keep => .ok n
  | .reset => .ok 0
  | .increment => if n.toNat + 1 < UInt64.size then .ok (n + 1) else .error (.exhausted n)

/-- One character per delta. -/
def symbol : Delta → String
  | .keep => "="
  | .increment => "+"
  | .reset => "0"

end Delta

/-- One delta per part. -/
structure Bump where
  storage : Delta
  major : Delta
  minor : Delta
  patch : Delta
  deriving DecidableEq, Repr

namespace Bump

/-- The bump that leaves every part alone. -/
def unchanged : Bump := ⟨.keep, .keep, .keep, .keep⟩

/-- The bump for a change at `part` and none above it. -/
def of : Part → Bump
  | .storage => ⟨.increment, .reset, .reset, .reset⟩
  | .major => ⟨.keep, .increment, .reset, .reset⟩
  | .minor => ⟨.keep, .keep, .increment, .reset⟩
  | .patch => ⟨.keep, .keep, .keep, .increment⟩

/-- The most severe part that changed. -/
def trigger (storage major minor patch : Bool) : Option Part :=
  if storage then some .storage
  else if major then some .major
  else if minor then some .minor
  else if patch then some .patch
  else none

/-- The bump for a set of changed parts. -/
def ofChanges (storage major minor patch : Bool) : Bump :=
  match trigger storage major minor patch with
  | some part => Bump.of part
  | none => unchanged

/-- The version after the bump. -/
def apply (bump : Bump) (v : Version) : Except Fault Version := do
  return ⟨← bump.storage.apply v.storage, ← bump.major.apply v.major,
    ← bump.minor.apply v.minor, ← bump.patch.apply v.patch⟩

/-- Whether no part changes. -/
def isUnchanged (bump : Bump) : Bool := bump == unchanged

/-- The first part that grows. -/
def grows (bump : Bump) : Option Part :=
  if bump.storage = .increment then some .storage
  else if bump.major = .increment then some .major
  else if bump.minor = .increment then some .minor
  else if bump.patch = .increment then some .patch
  else none

/-- The name of the part that grows, or `none`. -/
def name (bump : Bump) : String := (bump.grows.map Part.name).getD "none"

/-- The deltas part by part. -/
def toText (bump : Bump) : String :=
  "storage:" ++ bump.storage.symbol ++ " major:" ++ bump.major.symbol ++
    " minor:" ++ bump.minor.symbol ++ " patch:" ++ bump.patch.symbol

end Bump

end ReleaseGate.Version
