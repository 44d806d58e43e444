/-
# Diff.Buckets — changes sorted by severity

Every incompatible storage layout and every change of the code goes to exactly
one of four buckets, in the order of the diff; compatible layouts need no bump
and go to none. Buckets can be taken apart by contract (`Buckets.byContract`):
each contract has the records that name it, bucket by bucket and in order.
-/
import ReleaseGate.Diff
import ReleaseGate.NameMap
import ReleaseGate.Journal

namespace ReleaseGate

set_option autoImplicit false

structure Buckets where
  storage : List LayoutVerdict
  major : List Change
  minor : List Change
  patch : List Change
  deriving BEq

/-- A record together with the bucket it belongs to. -/
inductive Sorted where
  | layout (verdict : LayoutVerdict)
  | change (category : Category) (change : Change)

/-- The contract a record names. -/
def Sorted.contract : Sorted → String
  | .layout verdict => verdict.contract
  | .change _ c => c.contract

namespace Buckets

def empty : Buckets := ⟨[], [], [], []⟩

/-- Put a record at the end of its bucket. -/
def add (b : Buckets) : Sorted → Buckets
  | .layout verdict => { b with storage := b.storage ++ [verdict] }
  | .change .major change => { b with major := b.major ++ [change] }
  | .change .minor change => { b with minor := b.minor ++ [change] }
  | .change .patch change => { b with patch := b.patch ++ [change] }

/-- The buckets of records put in one after the other. -/
def ofList (records : List Sorted) : Buckets := records.foldl add empty

/-- The records from the storage bucket to the patch bucket. -/
def toList (b : Buckets) : List Sorted :=
  b.storage.map .layout ++ b.major.map (.change .major) ++ b.minor.map (.change .minor) ++
    b.patch.map (.change .patch)

/-- The records of a diff that need a bump. -/
def recordsOf (d : Diff) (policy : Policy) : List Sorted :=
  (d.layouts.filter fun l => !l.compatible).map .layout ++
    d.changes.map fun c => .change (policy c) c

/-- Sort a diff. -/
def ofDiff (d : Diff) (policy : Policy) : Buckets := ofList (recordsOf d policy)

/-- The records of each contract, for the contracts that have any. -/
def byContract (b : Buckets) : NameMap Buckets :=
  b.toList.foldl
    (fun m record => m.update record.contract fun own => (own.getD empty).add record)
    NameMap.empty

/-- How many records there are. -/
def size (b : Buckets) : Nat :=
  b.storage.length + b.major.length + b.minor.length + b.patch.length

def isEmpty (b : Buckets) : Bool :=
  b.storage.isEmpty && b.major.isEmpty && b.minor.isEmpty && b.patch.isEmpty

/-- Whether some storage layout cannot be replaced. -/
def breaksStorage (b : Buckets) : Bool := !b.storage.isEmpty

/-- The journal entry for sorting a diff. -/
def entry (b : Buckets) : Entry :=
  let storage := b.storage.length
  let major := b.major.length
  let minor := b.minor.length
  let patch := b.patch.length
  ⟨.debug,
    s!"Categorized {storage} storage / {major} major / {minor} minor / {patch} patch changes"⟩

end Buckets

end ReleaseGate
