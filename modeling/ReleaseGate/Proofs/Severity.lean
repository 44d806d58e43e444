/-
# Proofs.Severity — the whole needs what its worst contract needs

A detailed report holds two views of one diff: the bump of the whole is read off
the whole buckets, those of the contracts off the index by contract. The views
agree: a bucket is in use exactly if it is in use in the part of some contract
(`touches_iff_exists_named`), and a bump raises the most severe part in use
(`bumpOf_delta_iff`). So the whole raises the most severe part that any contract
raises, and after the bump it stands no lower than any of them.

* `whole_bump_most_severe`: the two views of a diff side by side.
-/
import Mathlib.Order.Basic
import ReleaseGate.Proofs.Bumps
import ReleaseGate.Proofs.Locality

namespace ReleaseGate

set_option autoImplicit false

namespace Version

/-- How severe a change of a part is; a change of no part would be zero. -/
def Part.severity : Part → Nat
  | .storage => 4
  | .major => 3
  | .minor => 2
  | .patch => 1

theorem Part.eq_of_severity {p q : Part} (same : p.severity = q.severity) : p = q := by
  cases p <;> cases q <;> first | rfl | simp [severity] at same

/-- What a bump does to a part. -/
def Bump.delta (b : Bump) : Part → Delta
  | .storage => b.storage
  | .major => b.major
  | .minor => b.minor
  | .patch => b.patch

theorem Bump.of_delta_iff (raised part : Part) :
    (Bump.of raised).delta part = .increment ↔ part = raised := by
  cases raised <;> cases part <;> simp [Bump.of, Bump.delta]

theorem Bump.unchanged_delta (part : Part) : unchanged.delta part = .keep := by
  cases part <;> rfl

/-! ## The order of versions -/

/-- Versions are ordered by the first part that differs. -/
theorem atMost_iff (v w : Version) :
    v.atMost w ↔ v.storage < w.storage ∨ v.storage = w.storage ∧
      (v.major < w.major ∨ v.major = w.major ∧
        (v.minor < w.minor ∨ v.minor = w.minor ∧ v.patch ≤ w.patch)) := by
  simp only [atMost, compare, Ordering.isLE_then_iff_or, Std.compare_eq_lt,
    Std.LawfulEqOrd.compare_eq_iff_eq, Std.isLE_compare]

theorem lt_succ_of_ne_last {n : UInt64} (room : n ≠ lastNumber) : n < n + 1 := by
  have bound := n.toNat_lt
  have : n.toNat ≠ lastNumber.toNat := fun same => room (UInt64.toNat_inj.1 same)
  rw [UInt64.lt_iff_toNat_lt, UInt64.toNat_add]
  simp only [lastNumber, UInt64.reduceToNat] at this ⊢
  omega

/-- Raising a more severe part leads to a later version, unless that part is exhausted. -/
theorem raise_atMost_raise {v : Version} {p q : Part} (less : p.severity ≤ q.severity)
    (room : v.part q ≠ lastNumber) : (v.raise p).atMost (v.raise q) := by
  have later := lt_succ_of_ne_last room
  rw [atMost_iff]
  cases q <;> cases p <;>
    simp only [Part.severity, Version.part, raise] at less later ⊢ <;>
    first
    | exact absurd less (by decide)
    | simp [later]

end Version

open Version (Part)

namespace Buckets

/-- Whether the bucket that calls for a change of a part holds a record. -/
def touches (b : Buckets) : Part → Bool
  | .storage => !b.storage.isEmpty
  | .major => !b.major.isEmpty
  | .minor => !b.minor.isEmpty
  | .patch => !b.patch.isEmpty

theorem isEmpty_iff_touches (b : Buckets) : b.isEmpty ↔ ∀ part, b.touches part = false := by
  constructor
  · intro empty part
    simp only [isEmpty, Bool.and_eq_true] at empty
    cases part <;> simp [touches, empty]
  · intro calm
    have := calm .storage
    have := calm .major
    have := calm .minor
    have := calm .patch
    simp_all [touches, isEmpty]

/-- A bucket is in use exactly if it is in use in the part of some contract. -/
theorem touches_iff_exists_named (b : Buckets) (part : Part) :
    b.touches part ↔ ∃ name, (b.named name).touches part := by
  have own {ρ : Type} (records : List ρ) (contract : ρ → String) :
      records ≠ [] ↔ ∃ name, records.filter (fun r => contract r = name) ≠ [] := by
    constructor
    · intro some_record
      obtain ⟨record, member⟩ := List.exists_mem_of_ne_nil _ some_record
      exact ⟨contract record, List.ne_nil_of_mem (List.mem_filter.2 ⟨member, by simp⟩)⟩
    · rintro ⟨name, found⟩ empty
      simp [empty] at found
  cases part with
  | storage => simpa [touches, named, keeping] using own b.storage (·.contract)
  | major => simpa [touches, named, keeping] using own b.major (·.contract)
  | minor => simpa [touches, named, keeping] using own b.minor (·.contract)
  | patch => simpa [touches, named, keeping] using own b.patch (·.contract)

end Buckets

namespace Report

/-- The bump of buckets raises the most severe part they touch. -/
theorem bumpOf_delta_iff (b : Buckets) (part : Part) :
    (bumpOf b).delta part = .increment ↔
      b.touches part ∧ ∀ other, b.touches other → other.severity ≤ part.severity := by
  have every (p : Part → Prop) :
      (∀ part, p part) ↔ p .storage ∧ p .major ∧ p .minor ∧ p .patch :=
    ⟨fun h => ⟨h _, h _, h _, h _⟩, fun ⟨a, b, c, d⟩ part => by cases part <;> assumption⟩
  rw [every]
  unfold bumpOf Version.Bump.ofChanges Version.Bump.trigger
  cases storage : b.storage.isEmpty <;> cases major : b.major.isEmpty <;>
    cases minor : b.minor.isEmpty <;> cases patch : b.patch.isEmpty <;>
    cases part <;>
    simp [Buckets.touches, Part.severity, storage, major, minor, patch, Version.Bump.of,
      Version.Bump.unchanged, Version.Bump.delta]

/-- Buckets without records leave a version alone, any others raise one part. -/
theorem bumpOf_cases (b : Buckets) :
    (b.isEmpty ∧ bumpOf b = .unchanged) ∨ (¬ b.isEmpty ∧ ∃ part, bumpOf b = .of part) := by
  unfold bumpOf Version.Bump.ofChanges Version.Bump.trigger Buckets.isEmpty
  cases b.storage.isEmpty with
  | false => exact .inr ⟨by simp, .storage, rfl⟩
  | true =>
      cases b.major.isEmpty with
      | false => exact .inr ⟨by simp, .major, rfl⟩
      | true =>
          cases b.minor.isEmpty with
          | false => exact .inr ⟨by simp, .minor, rfl⟩
          | true =>
              cases b.patch.isEmpty with
              | false => exact .inr ⟨by simp, .patch, rfl⟩
              | true => exact .inl ⟨rfl, rfl⟩

/-- A bump that raises a part is the bump of that part. -/
theorem bumpOf_eq_of_delta {b : Buckets} {part : Part} (raises : (bumpOf b).delta part = .increment) :
    bumpOf b = .of part := by
  rcases bumpOf_cases b with ⟨-, same⟩ | ⟨-, raised, same⟩
  · rw [same, Version.Bump.unchanged_delta] at raises
    cases raises
  · rw [same, Version.Bump.of_delta_iff] at raises
    rw [same, raises]

/-- Buckets with a record raise one part and no other. -/
theorem existsUnique_bumpOf_delta {b : Buckets} (used : ¬ b.isEmpty) :
    ∃! part, (bumpOf b).delta part = .increment := by
  rcases bumpOf_cases b with ⟨empty, -⟩ | ⟨-, raised, same⟩
  · exact absurd empty used
  · simp only [same, Version.Bump.of_delta_iff]
    exact ⟨raised, rfl, fun _ h => h⟩

theorem isUnchanged_bumpOf_iff (b : Buckets) : (bumpOf b).isUnchanged ↔ b.isEmpty := by
  rcases bumpOf_cases b with ⟨empty, same⟩ | ⟨used, raised, same⟩
  · simp [same, empty, Version.Bump.isUnchanged]
  · have differs : Version.Bump.of raised ≠ .unchanged := by cases raised <;> decide
    simp [same, used, Version.Bump.isUnchanged, differs]

end Report

namespace DetailedReport

open Report (bumpOf bumpOf_delta_iff)

theorem mem_contracts_iff {b : Buckets} {name : String} {entry : Report} :
    (name, entry) ∈ (ofBuckets b).contracts.toList ↔
      ¬ (b.named name).isEmpty ∧ entry = Report.ofBuckets (b.named name) := by
  rw [NameMap.mem_toList_iff, get?_ofBuckets]

/-- A part that the whole touches is touched by some entry, which then raises it
or a more severe one. -/
theorem exists_entry_of_touches {b : Buckets} {part : Part} (used : b.touches part) :
    ∃ entry ∈ (ofBuckets b).contracts.toList, entry.2.changes.touches part ∧
      ∃ raised, entry.2.bump.delta raised = .increment ∧ part.severity ≤ raised.severity := by
  obtain ⟨name, own⟩ := (b.touches_iff_exists_named part).1 used
  have some_record : ¬ (b.named name).isEmpty := fun empty => by
    rw [(b.named name).isEmpty_iff_touches.1 empty part] at own
    cases own
  obtain ⟨raised, raises, -⟩ := Report.existsUnique_bumpOf_delta some_record
  refine ⟨(name, Report.ofBuckets (b.named name)),
    (mem_contracts_iff.2 ⟨some_record, rfl⟩), own, raised, raises, ?_⟩
  exact ((bumpOf_delta_iff _ raised).1 raises).2 part own

/-- What an entry raises the whole touches. -/
theorem touches_of_entry {b : Buckets} {entry : String × Report} {part : Part}
    (member : entry ∈ (ofBuckets b).contracts.toList)
    (raises : entry.2.bump.delta part = .increment) : b.touches part := by
  obtain ⟨-, same⟩ := mem_contracts_iff.1 member
  rw [same] at raises
  exact (b.touches_iff_exists_named part).2 ⟨entry.1, ((bumpOf_delta_iff _ part).1 raises).1⟩

/-- The whole raises a part exactly if it is the most severe that any contract raises. -/
theorem whole_delta_iff (b : Buckets) (part : Part) :
    (ofBuckets b).whole.bump.delta part = .increment ↔
      (∃ entry ∈ (ofBuckets b).contracts.toList, entry.2.bump.delta part = .increment) ∧
        ∀ entry ∈ (ofBuckets b).contracts.toList, ∀ other,
          entry.2.bump.delta other = .increment → other.severity ≤ part.severity := by
  show (bumpOf b).delta part = .increment ↔ _
  rw [bumpOf_delta_iff]
  constructor
  · rintro ⟨used, worst⟩
    have below {entry : String × Report} {other : Part}
        (member : entry ∈ (ofBuckets b).contracts.toList)
        (raises : entry.2.bump.delta other = .increment) : other.severity ≤ part.severity :=
      worst other (touches_of_entry member raises)
    obtain ⟨entry, member, -, raised, raises, above⟩ := exists_entry_of_touches used
    have same : raised = part := Part.eq_of_severity (Nat.le_antisymm (below member raises) above)
    exact ⟨⟨entry, member, same ▸ raises⟩, fun entry member other raises => below member raises⟩
  · rintro ⟨⟨entry, member, raises⟩, worst⟩
    refine ⟨touches_of_entry member raises, fun other used => ?_⟩
    obtain ⟨entry', member', -, raised, raises', above⟩ := exists_entry_of_touches used
    exact Nat.le_trans above (worst entry' member' raised raises')

theorem contracts_eq_nil_iff (b : Buckets) :
    (ofBuckets b).contracts.toList = [] ↔ b.isEmpty := by
  rw [b.isEmpty_iff_touches]
  constructor
  · intro empty part
    by_contra used
    obtain ⟨entry, member, -⟩ := exists_entry_of_touches (Bool.not_eq_false _ ▸ used)
    simp [empty] at member
  · intro calm
    refine List.eq_nil_iff_forall_not_mem.2 fun entry member => ?_
    obtain ⟨used, -⟩ := mem_contracts_iff.1 member
    obtain ⟨part, raises, -⟩ := Report.existsUnique_bumpOf_delta used
    obtain ⟨own, -⟩ := (bumpOf_delta_iff _ part).1 raises
    have := (b.touches_iff_exists_named part).2 ⟨entry.1, own⟩
    simp [calm part] at this

/-- After a bump the whole stands no lower than any contract. -/
theorem own_atMost_whole {b : Buckets} {entry : String × Report}
    (member : entry ∈ (ofBuckets b).contracts.toList) {v whole own : Version}
    (wholeNext : (ofBuckets b).whole.bump.apply v = .ok whole)
    (ownNext : entry.2.bump.apply v = .ok own) : own.atMost whole := by
  obtain ⟨used, same⟩ := mem_contracts_iff.1 member
  obtain ⟨raised, raises, -⟩ := Report.existsUnique_bumpOf_delta used
  have ownRaises : entry.2.bump.delta raised = .increment := same ▸ raises
  have ownBump : entry.2.bump = .of raised := same ▸ Report.bumpOf_eq_of_delta raises
  have wholeUsed : ¬ b.isEmpty := fun empty => by
    rw [(contracts_eq_nil_iff b).2 empty] at member
    cases member
  obtain ⟨part, wholeRaises, -⟩ := Report.existsUnique_bumpOf_delta wholeUsed
  have wholeBump : (ofBuckets b).whole.bump = .of part := Report.bumpOf_eq_of_delta wholeRaises
  have less : raised.severity ≤ part.severity :=
    ((whole_delta_iff b part).1 wholeRaises).2 entry member raised ownRaises
  rw [wholeBump, Version.Bump.of_apply] at wholeNext
  rw [ownBump, Version.Bump.of_apply] at ownNext
  split at wholeNext
  · cases wholeNext
  · next room =>
      split at ownNext
      · cases ownNext
      · cases wholeNext
        cases ownNext
        exact Version.raise_atMost_raise less room

/-- **The whole needs what its worst contract needs.** The whole raises the most
severe part that any contract raises; every contract in the report raises exactly
one part; the whole is left alone exactly if no contract is in the report, which
is exactly if all buckets are empty; and from one version the whole moves no less
far than any contract. -/
theorem whole_bump_most_severe (d : Diff) (policy : Policy) :
    let report := (create d policy).value
    (∀ part, report.whole.bump.delta part = .increment ↔
      (∃ entry ∈ report.contracts.toList, entry.2.bump.delta part = .increment) ∧
        ∀ entry ∈ report.contracts.toList, ∀ other,
          entry.2.bump.delta other = .increment → other.severity ≤ part.severity) ∧
    (∀ entry ∈ report.contracts.toList,
      entry.2.bump.isUnchanged = false ∧ ∃! part, entry.2.bump.delta part = .increment) ∧
    (report.whole.bump.isUnchanged ↔ report.contracts.toList = []) ∧
    (report.contracts.toList = [] ↔
      report.whole.changes.storage = [] ∧ report.whole.changes.major = [] ∧
        report.whole.changes.minor = [] ∧ report.whole.changes.patch = []) ∧
    ∀ entry ∈ report.contracts.toList, ∀ v whole own,
      report.whole.bump.apply v = .ok whole → entry.2.bump.apply v = .ok own →
        own.atMost whole := by
  intro report
  have empty_iff := contracts_eq_nil_iff (Buckets.ofDiff d policy)
  refine ⟨whole_delta_iff _, fun entry member => ?_, ?_, ?_, fun entry member v whole own =>
    own_atMost_whole member⟩
  · obtain ⟨used, same⟩ := mem_contracts_iff.1 member
    rw [same, ← Bool.not_eq_true]
    exact ⟨fun calm => used ((Report.isUnchanged_bumpOf_iff _).1 calm),
      Report.existsUnique_bumpOf_delta used⟩
  · exact (Report.isUnchanged_bumpOf_iff _).trans empty_iff.symm
  · refine empty_iff.trans ?_
    simp [Buckets.isEmpty, and_assoc, report, create, ofDiff, ofBuckets, Report.ofBuckets]

/-- Beside a pool whose layout breaks: from 3.1.4.1 the token goes on to 3.2.0.0,
the whole to 4.0.0.0. -/
theorem whole_bump_most_severe_crowded :
    let report := (create crowdedDiff removalPolicy).value
    ∃ entry ∈ report.contracts.toList, entry.1 = "Token" ∧
      report.whole.bump.apply ⟨3, 1, 4, 1⟩ = .ok ⟨4, 0, 0, 0⟩ ∧
      entry.2.bump.apply ⟨3, 1, 4, 1⟩ = .ok ⟨3, 2, 0, 0⟩ ∧
      (⟨3, 2, 0, 0⟩ : Version).atMost ⟨4, 0, 0, 0⟩ ∧ entry.2.bump.isUnchanged = false := by
  intro report
  obtain ⟨-, raises, -, -, below⟩ := whole_bump_most_severe crowdedDiff removalPolicy
  have present : crowdedDiff.NeedsBump "Token" :=
    .inl ⟨⟨"Token", "body", []⟩, List.mem_cons_of_mem _ List.mem_cons_self, rfl⟩
  have member := NameMap.mem_toList_iff.2
    ((get?_contracts crowdedDiff removalPolicy "Token" _).2 ⟨present, rfl⟩)
  exact ⟨_, member, rfl, rfl, rfl, below _ member ⟨3, 1, 4, 1⟩ _ _ rfl rfl, (raises _ member).1⟩

end DetailedReport

end ReleaseGate
