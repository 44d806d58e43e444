/-
# Proofs.Locality — what a report says on a contract is the contract's own

A report sorts the whole diff first and takes the buckets apart afterwards, so
the entry of a contract is made while the records of all the others pass by.
Still the entry is the report on the contract's own records, as if the diff held
nothing else (`get?_contracts`), and it is there exactly if one of these records
needs a bump (`needsBump_iff`).

* `contracts_local`: both facts together, and their consequence for two diffs
  that agree on one contract.
-/
import ReleaseGate.Proofs.Partition
import ReleaseGate.Report

namespace ReleaseGate

set_option autoImplicit false

/-- The records of one contract, in the order of the diff. -/
def Diff.named (d : Diff) (name : String) : Diff := d.keeping fun contract => contract = name

/-- Whether some record of a contract needs a bump: any change of its code, or a
layout that cannot replace the old one. -/
def Diff.NeedsBump (d : Diff) (name : String) : Prop :=
  (∃ change ∈ d.changes, change.contract = name) ∨
    ∃ layout ∈ d.layouts, layout.contract = name ∧ layout.compatible = false

namespace Buckets

/-- The part of a contract in the buckets is empty unless one of its records is sorted. -/
theorem isEmpty_named_iff (b : Buckets) (name : String) :
    (b.named name).isEmpty ↔ ∀ record ∈ b.toList, record.contract ≠ name := by
  rw [isEmpty_iff, named, toList_keeping, List.filter_eq_nil_iff]
  simp

/-- Sorting loses no change, whatever category it is given. -/
theorem mem_toList_ofDiff {d : Diff} {policy : Policy} {record : Sorted} :
    record ∈ (ofDiff d policy).toList ↔
      (∃ layout ∈ d.layouts, layout.compatible = false ∧ record = .layout layout) ∨
        ∃ change ∈ d.changes, record = .change (policy change) change := by
  rw [ofDiff_eq, toList]
  simp only [List.mem_append, List.mem_map, List.mem_filter, Bool.not_eq_true', decide_eq_true_eq]
  constructor
  · rintro (((⟨layout, ⟨member, breaks⟩, rfl⟩ | ⟨change, ⟨member, sent⟩, rfl⟩) |
      ⟨change, ⟨member, sent⟩, rfl⟩) | ⟨change, ⟨member, sent⟩, rfl⟩)
    · exact .inl ⟨layout, member, breaks, rfl⟩
    all_goals exact .inr ⟨change, member, by rw [sent]⟩
  · rintro (⟨layout, member, breaks, rfl⟩ | ⟨change, member, rfl⟩)
    · exact .inl (.inl (.inl ⟨layout, ⟨member, breaks⟩, rfl⟩))
    · cases sent : policy change with
      | major => exact .inl (.inl (.inr ⟨change, ⟨member, sent⟩, rfl⟩))
      | minor => exact .inl (.inr ⟨change, ⟨member, sent⟩, rfl⟩)
      | patch => exact .inr ⟨change, ⟨member, sent⟩, rfl⟩

/-- A contract has a part in the buckets exactly if one of its records needs a bump. -/
theorem needsBump_iff (d : Diff) (policy : Policy) (name : String) :
    ¬ ((ofDiff d policy).named name).isEmpty ↔ d.NeedsBump name := by
  rw [isEmpty_named_iff]
  simp only [mem_toList_ofDiff, not_forall, Diff.NeedsBump]
  constructor
  · rintro ⟨record, ⟨layout, member, breaks, rfl⟩ | ⟨change, member, rfl⟩, own⟩
    · exact .inr ⟨layout, member, Decidable.not_not.1 own, breaks⟩
    · exact .inl ⟨change, member, Decidable.not_not.1 own⟩
  · rintro (⟨change, member, own⟩ | ⟨layout, member, own, breaks⟩)
    · exact ⟨.change (policy change) change, .inr ⟨change, member, rfl⟩, not_not_intro own⟩
    · exact ⟨.layout layout, .inl ⟨layout, member, breaks, rfl⟩, not_not_intro own⟩

/-- The part of a contract in the sorted diff is its sorted part of the diff. -/
theorem ofDiff_named (d : Diff) (policy : Policy) (name : String) :
    ofDiff (d.named name) policy = (ofDiff d policy).named name :=
  ofDiff_keeping d policy fun contract => contract = name

end Buckets

namespace DetailedReport

/-- The entries are the reports on the contracts that have a part in the buckets. -/
theorem get?_ofBuckets (b : Buckets) (name : String) (entry : Report) :
    (ofBuckets b).contracts.get? name = some entry ↔
      ¬ (b.named name).isEmpty ∧ entry = Report.ofBuckets (b.named name) := by
  rw [ofBuckets, NameMap.get?_map, Buckets.get?_byContract]
  by_cases empty : (b.named name).isEmpty <;> simp [empty, eq_comm]

/-- The entry of a contract is the report on the contract's own records. -/
theorem get?_contracts (d : Diff) (policy : Policy) (name : String) (entry : Report) :
    (ofDiff d policy).contracts.get? name = some entry ↔
      d.NeedsBump name ∧ entry = Report.ofBuckets (.ofDiff (d.named name) policy) := by
  rw [ofDiff, get?_ofBuckets, Buckets.needsBump_iff, Buckets.ofDiff_named]

/-- **What a report says on a contract is the contract's own.** A contract has an
entry exactly if one of its records needs a bump; the entry is the report on its
records alone; and two diffs with the same records of the contract, among
whatever others, have the same entry of it or both have none. -/
theorem contracts_local (policy : Policy) (name : String) :
    (∀ d : Diff, name ∈ (create d policy).value.contracts.names ↔
      (∃ change ∈ d.changes, change.contract = name) ∨
        ∃ layout ∈ d.layouts, layout.contract = name ∧ layout.compatible = false) ∧
    (∀ d : Diff, name ∈ (create d policy).value.contracts.names →
      (create d policy).value.contracts.get? name =
        some (Report.ofBuckets (.ofDiff (d.named name) policy))) ∧
    ∀ d d' : Diff, d.named name = d'.named name →
      (create d policy).value.contracts.get? name = (create d' policy).value.contracts.get? name := by
  have key (d : Diff) : name ∈ (ofDiff d policy).contracts.names ↔ d.NeedsBump name := by
    rw [NameMap.mem_names_iff, Option.isSome_iff_exists]
    simp only [get?_contracts, exists_and_left, exists_eq, and_true]
  refine ⟨key, fun d present => ?_, fun d d' same => ?_⟩
  · exact (get?_contracts d policy name _).2 ⟨(key d).1 present, rfl⟩
  · have needs : d.NeedsBump name ↔ d'.NeedsBump name := by
      rw [← Buckets.needsBump_iff d policy, ← Buckets.needsBump_iff d' policy,
        ← Buckets.ofDiff_named, ← Buckets.ofDiff_named, same]
    refine Option.ext fun entry => ?_
    show (ofDiff d policy).contracts.get? name = some entry ↔
      (ofDiff d' policy).contracts.get? name = some entry
    rw [get?_contracts, get?_contracts, needs, same]

/-! ## A contract among others -/

/-- What is removed breaks the interface. -/
def removalPolicy : Policy := fun change => if change.kind = "removed" then .major else .patch

/-- Two changes of a token, with a change of a vault between them. -/
def tokenDiff : Diff where
  changes := [⟨"Token", "body", []⟩, ⟨"Vault", "removed", []⟩, ⟨"Token", "removed", []⟩]
  layouts := [⟨"Token", true⟩]

/-- The same changes of the token, behind those of a pool whose layout breaks. -/
def crowdedDiff : Diff where
  changes := [⟨"Pool", "body", []⟩, ⟨"Token", "body", []⟩, ⟨"Token", "removed", []⟩]
  layouts := [⟨"Pool", false⟩, ⟨"Token", true⟩]

/-- The pool's broken layout does not reach the token. -/
theorem contracts_local_token :
    tokenDiff.named "Token" = crowdedDiff.named "Token" ∧
      (create tokenDiff removalPolicy).value.contracts.get? "Token" =
        some ⟨⟨[], [⟨"Token", "removed", []⟩], [], [⟨"Token", "body", []⟩]⟩, .of .major⟩ ∧
      (create crowdedDiff removalPolicy).value.contracts.get? "Token" =
        (create tokenDiff removalPolicy).value.contracts.get? "Token" := by
  obtain ⟨key, own, among⟩ := contracts_local removalPolicy "Token"
  have same : tokenDiff.named "Token" = crowdedDiff.named "Token" := rfl
  have present := (key tokenDiff).2 (.inl ⟨_, List.mem_cons_self, rfl⟩)
  exact ⟨same, own tokenDiff present, (among _ _ same).symm⟩

end DetailedReport

end ReleaseGate
