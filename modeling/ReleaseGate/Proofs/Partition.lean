/-
# Proofs.Partition — sorting a diff loses and invents nothing

A bucket of a sorted diff is the run of its own records in the diff
(`ofDiff_eq`), and what a contract has in the index of buckets is its own part
of each bucket (`get?_byContract`). So sorting, taking apart and leaving out
contracts may be done in any order.

* `ofList_eq`: each bucket holds the records meant for it, in order;
* `ofList_toList`: a sorted diff sorts to itself;
* `ofDiff_keeping`: leaving out contracts before or after sorting;
* `get?_byContract`: a contract is in the index exactly if it has a record.
-/
import Mathlib.Data.List.Basic
import ReleaseGate.Diff.Buckets
import ReleaseGate.Proofs.Names

namespace ReleaseGate

set_option autoImplicit false

/-! ## Which bucket a record is for -/

namespace Sorted

def layout? : Sorted → Option LayoutVerdict
  | .layout verdict => some verdict
  | .change _ _ => none

/-- The change a record holds, if it has the category. -/
def change? (category : Category) : Sorted → Option Change
  | .layout _ => none
  | .change given c => if given = category then some c else none

end Sorted

namespace Buckets

/-- The records of the contracts whose name passes `keep`. -/
def keeping (b : Buckets) (keep : String → Bool) : Buckets where
  storage := b.storage.filter fun l => keep l.contract
  major := b.major.filter fun c => keep c.contract
  minor := b.minor.filter fun c => keep c.contract
  patch := b.patch.filter fun c => keep c.contract

/-- The records of one contract. -/
def named (b : Buckets) (name : String) : Buckets := b.keeping fun contract => contract = name

theorem foldl_add (records : List Sorted) (b : Buckets) :
    records.foldl add b =
      { storage := b.storage ++ records.filterMap Sorted.layout?
        major := b.major ++ records.filterMap (Sorted.change? .major)
        minor := b.minor ++ records.filterMap (Sorted.change? .minor)
        patch := b.patch ++ records.filterMap (Sorted.change? .patch) } := by
  induction records generalizing b with
  | nil => simp
  | cons record rest ih =>
      rw [List.foldl_cons, ih]
      cases record with
      | layout verdict => simp [add, List.filterMap_cons, Sorted.layout?, Sorted.change?]
      | change category change =>
          cases category <;> simp [add, List.filterMap_cons, Sorted.layout?, Sorted.change?]

/-- Each bucket holds the records meant for it, in order. -/
theorem ofList_eq (records : List Sorted) :
    ofList records =
      { storage := records.filterMap Sorted.layout?
        major := records.filterMap (Sorted.change? .major)
        minor := records.filterMap (Sorted.change? .minor)
        patch := records.filterMap (Sorted.change? .patch) } := by
  simp [ofList, foldl_add, empty]

/-- A sorted diff sorts to itself. -/
theorem ofList_toList (b : Buckets) : ofList b.toList = b := by
  simp [ofList_eq, toList, List.filterMap_append, List.filterMap_map, Function.comp_def,
    Sorted.layout?, Sorted.change?]

theorem toList_keeping (b : Buckets) (keep : String → Bool) :
    (b.keeping keep).toList = b.toList.filter fun record => keep record.contract := by
  simp [toList, keeping, List.filter_map, Function.comp_def, Sorted.contract]

theorem isEmpty_iff (b : Buckets) : b.isEmpty = true ↔ b.toList = [] := by
  simp [isEmpty, toList, and_assoc]

/-! ## Sorting a diff -/

theorem filterMap_change? (changes : List Change) (policy : Policy) (category : Category) :
    (changes.filterMap fun c => Sorted.change? category (.change (policy c) c)) =
      changes.filter fun c => policy c = category := by
  induction changes with
  | nil => rfl
  | cons change rest ih =>
      by_cases same : policy change = category
      · simp [Sorted.change?, same, ← ih]
      · simp [Sorted.change?, same, ← ih]

/-- The buckets of a diff are the runs of their own records in it. -/
theorem ofDiff_eq (d : Diff) (policy : Policy) :
    ofDiff d policy =
      { storage := d.layouts.filter fun l => !l.compatible
        major := d.changes.filter fun c => policy c = .major
        minor := d.changes.filter fun c => policy c = .minor
        patch := d.changes.filter fun c => policy c = .patch } := by
  simp only [ofDiff, ofList_eq, recordsOf, List.filterMap_append, List.filterMap_map,
    Function.comp_def, filterMap_change?]
  simp [Sorted.layout?, Sorted.change?]

/-- Contracts may be left out before or after sorting. -/
theorem ofDiff_keeping (d : Diff) (policy : Policy) (keep : String → Bool) :
    ofDiff (d.keeping keep) policy = (ofDiff d policy).keeping keep := by
  simp [ofDiff_eq, keeping, Diff.keeping, List.filter_filter, Bool.and_comm]

/-! ## The index by contract -/

theorem foldl_some (records : List Sorted) (b : Buckets) :
    records.foldl (fun own record => some ((own.getD empty).add record)) (some b) =
      some (records.foldl add b) := by
  induction records generalizing b with
  | nil => rfl
  | cons record rest ih => exact ih (b.add record)

/-- A contract is in the index exactly if it has a record, with its part of each bucket. -/
theorem get?_byContract (b : Buckets) (name : String) :
    b.byContract.get? name = if (b.named name).isEmpty then none else some (b.named name) := by
  have own : (b.toList.filter fun record => record.contract = name) = (b.named name).toList :=
    (toList_keeping b fun contract => contract = name).symm
  rw [byContract, NameMap.get?_foldl_update Sorted.contract
    (fun own record => (own.getD empty).add record), own, NameMap.get?_empty]
  cases records : (b.named name).toList with
  | nil => rw [if_pos ((isEmpty_iff _).2 records), List.foldl_nil]
  | cons record rest =>
      have some_record : ¬ (b.named name).isEmpty := by
        rw [isEmpty_iff, records]
        exact List.cons_ne_nil _ _
      rw [if_neg some_record, List.foldl_cons, foldl_some, Option.getD_none, ← List.foldl_cons,
        ← records]
      exact congrArg some (ofList_toList _)

end Buckets

end ReleaseGate
