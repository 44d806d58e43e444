/-
# Proofs.StorageBreaks — the contracts at the storage gate

Two lists of a release name the contracts whose storage layout breaks. The gate
goes through the whole storage bucket: it takes the names, sorts them and leaves
out each that stands behind its equal. The report by contract has the entries
whose bump raises the storage part. Both lists ascend and hold the same names,
so they are one list (`NameMap.eq_of_ascending`), and the bump of the whole raises the
storage part exactly if there is anything in it.

* `check_storageBreaks`: the gate of every release that a check returns.
-/
import Mathlib.Data.List.Destutter
import ReleaseGate.Proofs.Regrouping
import ReleaseGate.Proofs.Severity
import ReleaseGate.Proofs.Verdict

namespace ReleaseGate

set_option autoImplicit false

/-! ## Names in order -/

theorem ascending_distinct (names : List String) : (distinct names).Pairwise (· < ·) :=
  List.pairwise_map.2 (NameMap.ascending _)

/-- Each name once: sorted, and without those that stand behind their equal. Unsorted
names would keep a name that comes back later. -/
theorem distinct_eq_destutter (names : List String) :
    distinct names = (sortedBy id names).destutter (· ≠ ·) := by
  have sorted : (sortedBy id names).Pairwise (· ≤ ·) := ordered_sortedBy names
  rw [sorted.destutter_eq_dedup]
  refine NameMap.eq_of_ascending id (ascending_distinct names) ?_ fun name => ?_
  · refine ((sorted.sublist (List.dedup_sublist _)).and (List.nodup_dedup _)).imp ?_
    rintro a b ⟨before, differ⟩
    exact String.not_le.1 fun after => differ (String.le_antisymm before after)
  · rw [mem_distinct, List.mem_dedup, (perm_sortedBy id names).mem_iff]

/-! ## The storage part of a bump -/

/-- No part is more severe than the storage part, so any broken layout raises it. -/
theorem Report.bumpOf_storage_iff (b : Buckets) :
    (bumpOf b).storage = .increment ↔ b.storage ≠ [] := by
  have raises := bumpOf_delta_iff b .storage
  have worst (other : Version.Part) : other.severity ≤ Version.Part.storage.severity := by
    cases other <;> decide
  simpa [Version.Bump.delta, Buckets.touches, worst] using raises

namespace DetailedReport

/-- The contracts whose entry raises the storage part, in the order of their names. -/
def storageRaised (r : DetailedReport) : List String :=
  (r.contracts.toList.filter fun entry => entry.2.bump.storage = .increment).map (·.1)

theorem ascending_storageRaised (r : DetailedReport) : r.storageRaised.Pairwise (· < ·) :=
  List.pairwise_map.2 (r.contracts.ascending.filter _)

/-- A contract raises the storage part exactly if the whole bucket has a layout of it. -/
theorem mem_storageRaised_iff {b : Buckets} {name : String} :
    name ∈ (ofBuckets b).storageRaised ↔ ∃ layout ∈ b.storage, layout.contract = name := by
  have own : (b.named name).storage ≠ [] ↔ ∃ layout ∈ b.storage, layout.contract = name := by
    simp [Buckets.named, Buckets.keeping, List.filter_eq_nil_iff]
  have used : (b.named name).storage ≠ [] → ¬ (b.named name).isEmpty := by
    simp +contextual [Buckets.isEmpty]
  rw [← own, storageRaised]
  simp only [List.mem_map, List.mem_filter, decide_eq_true_eq]
  constructor
  · rintro ⟨entry, ⟨member, raises⟩, rfl⟩
    obtain ⟨-, same⟩ := mem_contracts_iff.1 member
    rw [same] at raises
    exact (Report.bumpOf_storage_iff _).1 raises
  · intro breaks
    exact ⟨(name, Report.ofBuckets (b.named name)), ⟨mem_contracts_iff.2 ⟨used breaks, rfl⟩,
      (Report.bumpOf_storage_iff _).2 breaks⟩, rfl⟩

theorem mem_storageRaised_ofDiff {d : Diff} {policy : Policy} {keep : String → Bool}
    {name : String} :
    name ∈ (ofDiff (d.keeping keep) policy).storageRaised ↔
      keep name ∧ ∃ layout ∈ d.layouts, layout.contract = name ∧ layout.compatible = false := by
  rw [ofDiff, mem_storageRaised_iff, Buckets.ofDiff_eq]
  simp only [Diff.keeping, List.mem_filter, Bool.not_eq_true']
  constructor
  · rintro ⟨layout, ⟨⟨member, kept⟩, breaks⟩, rfl⟩
    exact ⟨kept, layout, member, rfl, breaks⟩
  · rintro ⟨kept, layout, member, rfl, breaks⟩
    exact ⟨layout, ⟨⟨member, kept⟩, breaks⟩, rfl⟩

end DetailedReport

/-! ## The gate -/

namespace Release

variable {builtIns : Evm.BuiltIns} {settings : Settings} {diff : Diff} {policy : Policy}
  {previous current : List Build.Artifact} {release : Release}

theorem brokenContracts_eq {b : Buckets} (report : release.report = .ofBuckets b) :
    release.brokenContracts = release.report.storageRaised := by
  refine NameMap.eq_of_ascending id (ascending_distinct _) release.report.ascending_storageRaised
    fun name => ?_
  rw [brokenContracts, mem_distinct, report, DetailedReport.mem_storageRaised_iff, List.mem_map]
  rfl

/-- **The storage gate names the contracts that raise the storage part.** It is open exactly
if no entry of the report raises this part, which is exactly if the whole does not.
Otherwise it names the contracts whose entry does: those that are kept and have a layout
that cannot be replaced, each once and in ascending order. The names of the storage
bucket, sorted and without repeats, are the same list. -/
theorem check_storageBreaks
    (checked : (check settings diff policy previous current builtIns).value = .ok release) :
    let raised := release.report.storageRaised
    ∃ pattern, settings.pattern? = .ok pattern ∧
      (release.storageGate = .ok () ↔
        ∀ entry ∈ release.report.contracts.toList, entry.2.bump.storage ≠ .increment) ∧
      (release.storageGate = .ok () ↔ release.report.whole.bump.storage ≠ .increment) ∧
      (release.storageGate ≠ .ok () → release.storageGate = .error (.storage raised)) ∧
      (sortedBy id (release.report.whole.changes.storage.map (·.contract))).destutter (· ≠ ·) =
        raised ∧
      raised.Pairwise (· < ·) ∧
      ∀ name, name ∈ raised ↔ keeps pattern name ∧
        ∃ layout ∈ diff.layouts, layout.contract = name ∧ layout.compatible = false := by
  intro raised
  obtain ⟨pattern, compiled, report⟩ := exists_pattern_of_check checked
  have broken : release.brokenContracts = raised := brokenContracts_eq report
  have none_raised : release.storageGate = .ok () ↔ raised = [] := by
    rw [storageGate, broken]
    cases raised <;> simp
  refine ⟨pattern, compiled, ?_, ?_, fun closed => ?_, ?_,
    release.report.ascending_storageRaised, fun name => ?_⟩
  · simp [none_raised, raised, DetailedReport.storageRaised, List.filter_eq_nil_iff]
  · rw [storageGate_eq_ok_iff, report]
    exact (not_iff_not.2 (Report.bumpOf_storage_iff _)).trans Decidable.not_not |>.symm
  · have some_raised : raised.isEmpty = false := by
      simpa [none_raised] using closed
    rw [storageGate, broken, some_raised]
    rfl
  · rw [← distinct_eq_destutter]
    exact broken
  · show name ∈ release.report.storageRaised ↔ _
    rw [report, DetailedReport.mem_storageRaised_ofDiff]

/-! ## A gate with two names -/

/-- Two contracts break their layout, one of them twice and one beside a change of
its code; so does a mock. -/
def breakingDiff : Diff where
  changes := [⟨"Bank", "body", []⟩, ⟨"Token", "removed", []⟩]
  layouts := [⟨"Vault", false⟩, ⟨"MockVault", false⟩, ⟨"Bank", false⟩, ⟨"Token", true⟩,
    ⟨"Vault", false⟩]

/-- What is found where neither build holds a contract. -/
def breakingRelease : Release where
  report := .ofDiff (breakingDiff.keeping (keeps (some mockPattern))) fun _ => .major
  previous := .empty
  current := .empty
  drift := []

theorem value_check_breaking :
    (check mockSettings breakingDiff (fun _ => .major) [] [] .basic).value =
      .ok breakingRelease := by
  rw [value_check pattern?_mockSettings, value_checkKeeping]
  rfl

/-- The vault is named once, behind the bank; the token, which is changed but keeps its
layout, is not named. -/
theorem check_storageBreaks_named :
    (check mockSettings breakingDiff (fun _ => .major) [] [] .basic).value =
        .ok breakingRelease ∧
      breakingRelease.storageGate = .error (.storage ["Bank", "Vault"]) ∧
      (∃ entry ∈ breakingRelease.report.contracts.toList, entry.2.bump.storage = .increment) ∧
      (sortedBy id ["Vault", "Bank", "Vault"]).destutter (· ≠ ·) = ["Bank", "Vault"] ∧
      "Token" ∉ breakingRelease.report.storageRaised := by
  obtain ⟨pattern, -, entries, whole, named, sorted, -, members⟩ :=
    check_storageBreaks value_check_breaking
  have raised : breakingRelease.report.storageRaised = ["Bank", "Vault"] := by decide +kernel
  have closed : breakingRelease.storageGate ≠ .ok () := fun opened => whole.1 opened rfl
  have told := named closed
  rw [raised] at told sorted
  refine ⟨value_check_breaking, told, ?_, sorted, fun member => ?_⟩
  · by_contra calm
    exact closed (entries.2 fun entry member raises => calm ⟨entry, member, raises⟩)
  · obtain ⟨-, layout, found, token, breaks⟩ := (members "Token").1 member
    simp only [breakingDiff, List.mem_cons, List.not_mem_nil, or_false] at found
    rcases found with rfl | rfl | rfl | rfl | rfl <;> simp at token breaks

end Release

end ReleaseGate
