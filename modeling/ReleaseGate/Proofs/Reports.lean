/-
# Proofs.Reports — the bump a contract needs

A report sorts the whole diff and then takes the buckets apart, yet what it
says on one contract depends on the records of that contract alone
(`bumpFor_apply`): the most severe part they touch grows by one, and the bump
fails exactly if that part cannot grow.
-/
import ReleaseGate.Proofs.Bumps
import ReleaseGate.Proofs.Partition
import ReleaseGate.Report

namespace ReleaseGate

set_option autoImplicit false

open Version (lastNumber)

/-- The most severe part that the records of a contract touch, if it has any. -/
def Diff.impliedPart (d : Diff) (policy : Policy) (name : String) : Option Version.Part :=
  Version.Bump.trigger
    (d.layouts.any fun l => l.contract = name && !l.compatible)
    (d.changes.any fun c => c.contract = name && policy c = .major)
    (d.changes.any fun c => c.contract = name && policy c = .minor)
    (d.changes.any fun c => c.contract = name && policy c = .patch)

/-- A contract that is kept has the same records as before. -/
theorem Diff.impliedPart_keeping (d : Diff) (policy : Policy) {keep : String → Bool}
    {name : String} (kept : keep name) :
    (d.keeping keep).impliedPart policy name = d.impliedPart policy name := by
  have own {α : Type} (records : List α) (contract : α → String) (p : α → Bool) :
      ((records.filter fun r => keep (contract r)).any fun r => contract r = name && p r) =
        records.any fun r => contract r = name && p r := by
    rw [List.any_filter]
    congr 1
    funext r
    by_cases same : contract r = name <;> simp [same, kept]
  simp only [impliedPart, keeping, own]

theorem not_isEmpty_filter {α : Type} (p : α → Bool) (items : List α) :
    (!(items.filter p).isEmpty) = items.any p := by
  induction items with
  | nil => rfl
  | cons item rest ih => by_cases h : p item <;> simp [h, ← ih]

namespace DetailedReport

theorem bumpOf_empty {b : Buckets} (empty : b.isEmpty) : Report.bumpOf b = .unchanged := by
  simp only [Buckets.isEmpty, Bool.and_eq_true] at empty
  simp [Report.bumpOf, empty, Version.Bump.ofChanges, Version.Bump.trigger]

/-- What a report says on a contract it makes of the contract's part of the buckets. -/
theorem bumpFor_ofBuckets (b : Buckets) (name : String) :
    (ofBuckets b).bumpFor name = Report.bumpOf (b.named name) := by
  rw [bumpFor, ofBuckets, NameMap.get?_map, Buckets.get?_byContract]
  split
  · next empty => exact (bumpOf_empty empty).symm
  · rfl

theorem bumpFor_ofDiff (d : Diff) (policy : Policy) (name : String) :
    (ofDiff d policy).bumpFor name =
      Version.Bump.ofChanges
        (d.layouts.any fun l => l.contract = name && !l.compatible)
        (d.changes.any fun c => c.contract = name && policy c = .major)
        (d.changes.any fun c => c.contract = name && policy c = .minor)
        (d.changes.any fun c => c.contract = name && policy c = .patch) := by
  simp only [ofDiff, bumpFor_ofBuckets, Report.bumpOf, Buckets.ofDiff_eq, Buckets.named,
    Buckets.keeping, List.filter_filter, not_isEmpty_filter]

/-- The bump of a contract moves the most severe part its own records touch. -/
theorem bumpFor_apply (d : Diff) (policy : Policy) (name : String) (v : Version) :
    ((ofDiff d policy).bumpFor name).apply v =
      if v.IsExhausted (d.impliedPart policy name) then .error (.exhausted lastNumber)
      else .ok (v.after (d.impliedPart policy name)) := by
  rw [bumpFor_ofDiff, Version.Bump.ofChanges_apply, Diff.impliedPart]

end DetailedReport

end ReleaseGate
