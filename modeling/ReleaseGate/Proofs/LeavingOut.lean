/-
# Proofs.LeavingOut — contracts may be left out before or after reporting

A report under a pattern is made of the records that the pattern leaves. Sorting keeps
the buckets of what is left in their order (`ofDiff_keeping`), and the index by contract
never lets a record of one name reach the entry of another. So the report is the one on
everything with the matching names struck from it: from the index (`byContract_keeping`)
and from each bucket. Fewer buckets are in use then, so the bump can only be less severe.

* `create_leaving`: the report under a pattern beside the report without one.
-/
import ReleaseGate.Proofs.Sorting
import ReleaseGate.Proofs.Verdict

namespace ReleaseGate

set_option autoImplicit false

/-- The records that a pattern leaves; all of them if there is none. -/
def Diff.leaving (d : Diff) (pattern : Option Pattern) : Diff := d.keeping (Release.keeps pattern)

theorem Release.keeps_some (pattern : Pattern) :
    keeps (some pattern) = fun name => !pattern.isIn name := rfl

namespace Diff

theorem leaving_none (d : Diff) : d.leaving none = d := d.keeping_true

theorem keeping_comm (d : Diff) (p q : String → Bool) :
    (d.keeping p).keeping q = (d.keeping q).keeping p := by
  simp only [keeping_keeping, Bool.and_comm]

theorem keeping_idem (d : Diff) (keep : String → Bool) :
    (d.keeping keep).keeping keep = d.keeping keep := by
  simp only [keeping_keeping, Bool.and_self]

end Diff

theorem NameMap.map_filterNames {α β : Type} (f : α → β) (m : NameMap α) (keep : String → Bool) :
    (m.filterNames keep).map f = (m.map f).filterNames keep := by
  refine ext_get? fun name => ?_
  rw [get?_map, get?_filterNames, get?_filterNames, get?_map]
  by_cases kept : keep name <;> simp [kept]

namespace Buckets

theorem keep_of_mem_keeping {b : Buckets} {keep : String → Bool} {record : Sorted}
    (member : record ∈ (b.keeping keep).toList) : keep record.contract := by
  rw [toList_keeping, List.mem_filter] at member
  exact member.2

/-- A contract that is kept has its whole part of each bucket, any other has none. -/
theorem named_keeping (b : Buckets) (keep : String → Bool) (name : String) :
    (b.keeping keep).named name = if keep name then b.named name else empty := by
  have own {ρ : Type} (records : List ρ) (contract : ρ → String) :
      ((records.filter fun r => keep (contract r)).filter fun r => contract r = name) =
        if keep name then records.filter (fun r => contract r = name) else [] := by
    rw [List.filter_filter]
    by_cases kept : keep name
    · rw [if_pos kept]
      refine List.filter_congr fun r _ => ?_
      by_cases same : contract r = name <;> simp [same, kept]
    · rw [if_neg kept, List.filter_eq_nil_iff]
      rintro r - both
      simp only [Bool.and_eq_true, decide_eq_true_eq] at both
      exact kept (both.1 ▸ both.2)
  simp only [named, keeping, own]
  split <;> rfl

/-- The index of what is kept is the index without the other names. -/
theorem byContract_keeping (b : Buckets) (keep : String → Bool) :
    (b.keeping keep).byContract = b.byContract.filterNames keep := by
  refine NameMap.ext_get? fun name => ?_
  rw [NameMap.get?_filterNames, get?_byContract, get?_byContract, named_keeping]
  by_cases kept : keep name
  · simp only [kept, if_true]
  · simp [kept, empty, isEmpty]

theorem touches_of_keeping {b : Buckets} {keep : String → Bool} {part : Version.Part}
    (used : (b.keeping keep).touches part) : b.touches part := by
  have some_record {ρ : Type} (records : List ρ) (p : ρ → Bool)
      (some_kept : !(records.filter p).isEmpty) : !records.isEmpty := by
    cases records with
    | nil => exact some_kept
    | cons record rest => rfl
  cases part with
  | storage => exact some_record b.storage _ used
  | major => exact some_record b.major _ used
  | minor => exact some_record b.minor _ used
  | patch => exact some_record b.patch _ used

end Buckets

/-- Fewer records never need a more severe bump. -/
theorem Report.severity_bumpOf_keeping_le (b : Buckets) (keep : String → Bool) :
    (bumpOf (b.keeping keep)).severity ≤ (bumpOf b).severity := by
  have worst := (severity_bumpOf_le_iff b _).1 (Nat.le_refl _)
  exact (severity_bumpOf_le_iff _ _).2 fun part used => worst part (Buckets.touches_of_keeping used)

namespace DetailedReport

/-- The report on what is kept is the whole report without the other names. -/
theorem contracts_ofBuckets_keeping (b : Buckets) (keep : String → Bool) :
    (ofBuckets (b.keeping keep)).contracts = (ofBuckets b).contracts.filterNames keep := by
  rw [ofBuckets, ofBuckets, Buckets.byContract_keeping, NameMap.map_filterNames]

/-- **Leaving out commutes with reporting.** The report under a pattern has the entries of
the whole report, unchanged, but for the names that match; each bucket is that of the
whole report without the records that match, in order; and its bump is no more severe.
Patterns may be applied in any order and as often as one likes, which leaves what none of
them matches. No record of a contract that matches is left in the diff, in the buckets of
the report or in an entry, and without a pattern nothing changes. -/
theorem create_leaving (d : Diff) (policy : Policy) (p : Pattern) :
    let whole := (create d policy).value
    let left := (create (d.leaving (some p)) policy).value
    left.contracts = whole.contracts.filterNames (fun name => !p.isIn name) ∧
    (∀ name, left.contracts.get? name =
      if p.isIn name then none else whole.contracts.get? name) ∧
    left.whole.changes = whole.whole.changes.keeping (fun name => !p.isIn name) ∧
    left.whole.bump.severity ≤ whole.whole.bump.severity ∧
    (∀ q : Pattern,
      (d.leaving (some p)).leaving (some q) = (d.leaving (some q)).leaving (some p) ∧
      (d.leaving (some p)).leaving (some q) =
        d.keeping fun name => !p.isIn name && !q.isIn name) ∧
    (d.leaving (some p)).leaving (some p) = d.leaving (some p) ∧
    (∀ change ∈ (d.leaving (some p)).changes, p.isIn change.contract = false) ∧
    (∀ layout ∈ (d.leaving (some p)).layouts, p.isIn layout.contract = false) ∧
    (∀ record ∈ left.whole.changes.toList, p.isIn record.contract = false) ∧
    (∀ entry ∈ left.contracts.toList, p.isIn entry.1 = false ∧
      ∀ record ∈ entry.2.changes.toList, p.isIn record.contract = false) ∧
    d.leaving none = d ∧ create (d.leaving none) policy = create d policy := by
  intro whole left
  have sorted : Buckets.ofDiff (d.leaving (some p)) policy =
      (Buckets.ofDiff d policy).keeping fun name => !p.isIn name :=
    Buckets.ofDiff_keeping d policy _
  have entries : left.contracts = whole.contracts.filterNames fun name => !p.isIn name := by
    show (ofBuckets _).contracts = _
    rw [sorted, contracts_ofBuckets_keeping]
    rfl
  have survives {record : Sorted} (member : record ∈ left.whole.changes.toList) :
      p.isIn record.contract = false := by
    replace member : record ∈ (Buckets.ofDiff (d.leaving (some p)) policy).toList := member
    rw [sorted] at member
    simpa using Buckets.keep_of_mem_keeping member
  refine ⟨entries, fun name => ?_, sorted, ?_, fun q => ⟨d.keeping_comm _ _, d.keeping_keeping _ _⟩,
    d.keeping_idem _, fun change member => ?_, fun layout member => ?_, fun record => survives,
    fun entry member => ?_, d.leaving_none, by rw [d.leaving_none]⟩
  · rw [entries, NameMap.get?_filterNames]
    cases p.isIn name <;> rfl
  · show (Report.bumpOf (Buckets.ofDiff _ policy)).severity ≤ _
    rw [sorted]
    exact Report.severity_bumpOf_keeping_le _ _
  · simpa [Release.keeps_some] using (List.mem_filter.1 member).2
  · simpa [Release.keeps_some] using (List.mem_filter.1 member).2
  · obtain ⟨-, same⟩ := mem_contracts_iff.1 member
    rw [entries] at member
    have kept : p.isIn entry.1 = false := by simpa using (List.mem_filter.1 member).2
    refine ⟨kept, fun record inside => ?_⟩
    rw [same] at inside
    have own : record.contract = entry.1 := by simpa using Buckets.keep_of_mem_keeping inside
    rw [own, kept]

open Release (mockPattern)

/-- A mock is told of between two records of the token, and another one breaks its layout. -/
def mockedDiff : Diff where
  changes := [⟨"Token", "body", []⟩, ⟨"MockToken", "removed", []⟩, ⟨"Token", "removed", []⟩,
    ⟨"Vault", "body", []⟩]
  layouts := [⟨"MockVault", false⟩, ⟨"Token", true⟩]

/-- Without the mocks the token and the vault have the entries they had, and a major bump
is enough where there was a broken layout. -/
theorem create_leaving_mocks :
    let whole := (create mockedDiff removalPolicy).value
    let left := (create (mockedDiff.leaving (some mockPattern)) removalPolicy).value
    left.contracts.names = ["Token", "Vault"] ∧
      left.contracts.get? "Token" = whole.contracts.get? "Token" ∧
      whole.contracts.get? "Token" =
        some ⟨⟨[], [⟨"Token", "removed", []⟩], [], [⟨"Token", "body", []⟩]⟩, .of .major⟩ ∧
      left.contracts.get? "MockVault" = none ∧
      left.whole.changes.patch = [⟨"Token", "body", []⟩, ⟨"Vault", "body", []⟩] ∧
      whole.whole.bump = .of .storage ∧ left.whole.bump = .of .major ∧
      mockPattern.isIn "Token" = false := by
  intro whole left
  obtain ⟨entries, own, buckets, -, -, -, changes, -⟩ :=
    create_leaving mockedDiff removalPolicy mockPattern
  have told : ⟨"Token", "removed", []⟩ ∈ (mockedDiff.leaving (some mockPattern)).changes :=
    List.mem_cons_of_mem _ List.mem_cons_self
  have token : mockPattern.isIn "Token" = false := changes _ told
  have mock : mockPattern.isIn "MockVault" = true := by decide +kernel
  refine ⟨?_, ?_, rfl, ?_, ?_, rfl, ?_, token⟩
  · rw [show left.contracts = _ from entries]
    decide +kernel
  · rw [own, token]
    rfl
  · rw [own, mock]
    rfl
  · rw [show left.whole.changes = _ from buckets]
    rfl
  · rw [show left.whole.bump = Report.bumpOf left.whole.changes from rfl,
      show left.whole.changes = _ from buckets]
    decide +kernel

end DetailedReport

end ReleaseGate
