/-
# Proofs.Reordering — the order of a diff does not matter

Sorting a diff goes through its records one by one, the index by contract opens an
entry at the first record of a contract, and a search that overflows ends before
the rest is looked at. Yet two diffs with the same records in another order get the
same answer: a bucket is a run of the records (`Buckets.ofDiff_eq`), so the buckets
of one are reorderings of those of the other; a bump asks of a bucket only whether
it is empty; and the search asks the report only for bumps.

What a diff, its buckets and its report have in common with another order is said
by `Reordered`, one structure for each of them; `check_reordered` is the result for
whole checks.
-/
import ReleaseGate.Proofs.Locality
import ReleaseGate.Proofs.Verdict

namespace ReleaseGate

set_option autoImplicit false

/-! ## Names, diffs and buckets -/

/-- Each name once, in order: it counts which names there are, not where. -/
theorem distinct_perm {names names' : List String} (same : names.Perm names') :
    distinct names = distinct names' := by
  refine NameMap.names_congr fun name => Bool.eq_iff_iff.2 ?_
  rw [← NameMap.mem_names_iff, ← NameMap.mem_names_iff, NameMap.mem_names_ofList,
    NameMap.mem_names_ofList]
  exact (same.map (fun name => (name, ()))).map (·.1) |>.mem_iff

/-- Two diffs with the same records, maybe in another order. -/
structure Diff.Reordered (d d' : Diff) : Prop where
  changes : d.changes.Perm d'.changes
  layouts : d.layouts.Perm d'.layouts

theorem Diff.Reordered.keeping {d d' : Diff} (same : d.Reordered d') (keep : String → Bool) :
    (d.keeping keep).Reordered (d'.keeping keep) :=
  ⟨same.changes.filter _, same.layouts.filter _⟩

/-- Two sets of buckets with the same records in each, maybe in another order. -/
structure Buckets.Reordered (b b' : Buckets) : Prop where
  storage : b.storage.Perm b'.storage
  major : b.major.Perm b'.major
  minor : b.minor.Perm b'.minor
  patch : b.patch.Perm b'.patch

namespace Buckets

theorem ofDiff_reordered {d d' : Diff} (same : d.Reordered d') (policy : Policy) :
    (ofDiff d policy).Reordered (ofDiff d' policy) := by
  rw [ofDiff_eq, ofDiff_eq]
  exact ⟨same.layouts.filter _, same.changes.filter _, same.changes.filter _,
    same.changes.filter _⟩

namespace Reordered

variable {b b' : Buckets}

theorem named (same : b.Reordered b') (name : String) : (b.named name).Reordered (b'.named name) :=
  ⟨same.storage.filter _, same.major.filter _, same.minor.filter _, same.patch.filter _⟩

theorem isEmpty_eq (same : b.Reordered b') : b.isEmpty = b'.isEmpty := by
  rw [isEmpty, isEmpty, same.storage.isEmpty_eq, same.major.isEmpty_eq, same.minor.isEmpty_eq,
    same.patch.isEmpty_eq]

theorem bumpOf_eq (same : b.Reordered b') : Report.bumpOf b = Report.bumpOf b' := by
  rw [Report.bumpOf, Report.bumpOf, same.storage.isEmpty_eq, same.major.isEmpty_eq,
    same.minor.isEmpty_eq, same.patch.isEmpty_eq]

end Reordered

end Buckets

/-! ## Reports -/

/-- Two reports with one bump and the same records. -/
structure Report.Reordered (r r' : Report) : Prop where
  bump : r.bump = r'.bump
  changes : r.changes.Reordered r'.changes

theorem Report.ofBuckets_reordered {b b' : Buckets} (same : b.Reordered b') :
    (ofBuckets b).Reordered (ofBuckets b') :=
  ⟨same.bumpOf_eq, same⟩

/-- Two detailed reports on the same contracts, that say the same of the whole and of
each contract. -/
structure DetailedReport.Reordered (r r' : DetailedReport) : Prop where
  whole : r.whole.Reordered r'.whole
  names : r.contracts.names = r'.contracts.names
  entries : ∀ name entry entry', r.contracts.get? name = some entry →
    r'.contracts.get? name = some entry' → entry.Reordered entry'

namespace DetailedReport

theorem ofBuckets_reordered {b b' : Buckets} (same : b.Reordered b') :
    (ofBuckets b).Reordered (ofBuckets b') where
  whole := Report.ofBuckets_reordered same
  names := by
    refine NameMap.names_congr fun name => ?_
    rw [ofBuckets, ofBuckets, NameMap.get?_map, NameMap.get?_map, Buckets.get?_byContract,
      Buckets.get?_byContract, (same.named name).isEmpty_eq]
    cases (b'.named name).isEmpty <;> rfl
  entries := by
    intro name entry entry' here there
    obtain ⟨-, rfl⟩ := (get?_ofBuckets b name entry).1 here
    obtain ⟨-, rfl⟩ := (get?_ofBuckets b' name entry').1 there
    exact Report.ofBuckets_reordered (same.named name)

theorem ofDiff_reordered {d d' : Diff} (same : d.Reordered d') (policy : Policy) :
    (ofDiff d policy).Reordered (ofDiff d' policy) :=
  ofBuckets_reordered (Buckets.ofDiff_reordered same policy)

/-- The search for drift is asked with the same bumps. -/
theorem bumpFor_reordered {d d' : Diff} (same : d.Reordered d') (policy : Policy) :
    (ofDiff d policy).bumpFor = (ofDiff d' policy).bumpFor := by
  funext name
  rw [ofDiff, ofDiff, bumpFor_ofBuckets, bumpFor_ofBuckets]
  exact ((Buckets.ofDiff_reordered same policy).named name).bumpOf_eq

end DetailedReport

/-! ## Releases -/

namespace Release

/-- Two releases that differ only in the order of the records in their reports. -/
structure Reordered (r r' : Release) : Prop where
  report : r.report.Reordered r'.report
  previous : r.previous = r'.previous
  current : r.current = r'.current
  drift : r.drift = r'.drift

namespace Reordered

variable {r r' : Release}

theorem verdict_eq (same : r.Reordered r') : r.verdict = r'.verdict := by
  rw [verdict, verdict, same.drift, same.report.whole.bump, Buckets.breaksStorage,
    Buckets.breaksStorage, same.report.whole.changes.storage.isEmpty_eq]

theorem exitCode_eq (same : r.Reordered r') : r.exitCode = r'.exitCode := by
  rw [exitCode, exitCode, same.verdict_eq]

/-- The contracts that the gate names are the same: each is named once, in order. -/
theorem storageGate_eq (same : r.Reordered r') : r.storageGate = r'.storageGate := by
  have broken : r.brokenContracts = r'.brokenContracts :=
    distinct_perm (same.report.whole.changes.storage.map _)
  rw [storageGate, storageGate, broken]

theorem driftGate_eq (same : r.Reordered r') : r.driftGate = r'.driftGate := by
  rw [driftGate, driftGate, same.drift]

end Reordered

section Check

variable {d d' : Diff} (same : d.Reordered d')
include same

theorem checkKeeping_reordered (builtIns : Evm.BuiltIns) (keep : String → Bool)
    (settings : ProbeSettings) (policy : Policy) (previous current : List Build.Artifact) :
    (∃ failure,
      (checkKeeping keep settings d policy previous current builtIns).value = .error failure ∧
      (checkKeeping keep settings d' policy previous current builtIns).value = .error failure) ∨
    ∃ release release', release.Reordered release' ∧
      (checkKeeping keep settings d policy previous current builtIns).value = .ok release ∧
      (checkKeeping keep settings d' policy previous current builtIns).value = .ok release' := by
  have kept := same.keeping keep
  simp only [value_checkKeeping, DetailedReport.bumpFor_reordered kept policy]
  generalize (Drift.detectIn _ _ _).value = found
  cases found with
  | error fault => exact .inl ⟨_, rfl, rfl⟩
  | ok drift =>
      refine .inr ⟨⟨.ofDiff (d.keeping keep) policy, _, _, drift⟩,
        ⟨.ofDiff (d'.keeping keep) policy, _, _, drift⟩, ?_, rfl, rfl⟩
      exact ⟨DetailedReport.ofDiff_reordered kept policy, rfl, rfl, rfl⟩

/-- Settings that cannot be used are refused before the diff is looked at. -/
theorem value_check_reordered (builtIns : Evm.BuiltIns) (settings : Settings) (policy : Policy)
    (previous current : List Build.Artifact) :
    (∃ failure, (check settings d policy previous current builtIns).value = .error failure ∧
      (check settings d' policy previous current builtIns).value = .error failure) ∨
    ∃ release release', release.Reordered release' ∧
      (check settings d policy previous current builtIns).value = .ok release ∧
      (check settings d' policy previous current builtIns).value = .ok release' := by
  cases compiled : settings.pattern? with
  | error bad =>
      refine .inl ⟨.pattern bad, ?_, ?_⟩ <;> rw [check, compiled] <;> rfl
  | ok pattern =>
      rw [value_check compiled, value_check compiled]
      exact checkKeeping_reordered same builtIns (keeps pattern) settings.probe policy previous
        current

end Check

/-- **The order of a diff does not matter.** Reports on reordered diffs, under a
pattern or none, mention the same contracts with the same bumps, and each bucket
holds the same records. Checks on them fail with one failure or succeed with the
same versions, drift and verdict, and their gates name the same contracts. -/
theorem check_reordered (builtIns : Evm.BuiltIns) (d d' : Diff)
    (changes : d.changes.Perm d'.changes) (layouts : d.layouts.Perm d'.layouts)
    (policy : Policy) :
    (DetailedReport.create d policy).value.Reordered (DetailedReport.create d' policy).value ∧
    (∀ pattern : Option Pattern,
      (DetailedReport.create (d.keeping (keeps pattern)) policy).value.Reordered
        (DetailedReport.create (d'.keeping (keeps pattern)) policy).value) ∧
    ∀ (settings : Settings) (previous current : List Build.Artifact),
      (∀ failure, (check settings d policy previous current builtIns).value = .error failure ↔
        (check settings d' policy previous current builtIns).value = .error failure) ∧
      ∀ release, (check settings d policy previous current builtIns).value = .ok release →
        ∃ release', (check settings d' policy previous current builtIns).value = .ok release' ∧
          release.report.Reordered release'.report ∧
          release.previous = release'.previous ∧ release.current = release'.current ∧
          release.drift = release'.drift ∧ release.verdict = release'.verdict ∧
          release.exitCode = release'.exitCode ∧ release.storageGate = release'.storageGate ∧
          release.driftGate = release'.driftGate := by
  have same : d.Reordered d' := ⟨changes, layouts⟩
  refine ⟨DetailedReport.ofDiff_reordered same policy,
    fun pattern => DetailedReport.ofDiff_reordered (same.keeping _) policy,
    fun settings previous current => ?_⟩
  rcases value_check_reordered same builtIns settings policy previous current with
    ⟨failure, here, there⟩ | ⟨release, release', alike, here, there⟩
  · rw [here, there]
    exact ⟨fun _ => Iff.rfl, fun release found => by cases found⟩
  · rw [here, there]
    refine ⟨fun failure => ⟨fun failed => (by cases failed), fun failed => (by cases failed)⟩,
      fun found same => ?_⟩
    cases same
    exact ⟨release', rfl, alike.report, alike.previous, alike.current, alike.drift,
      alike.verdict_eq, alike.exitCode_eq, alike.storageGate_eq, alike.driftGate_eq⟩

open DetailedReport (removalPolicy)

/-- Two layouts break, one of them told of twice. -/
def brokenDiff : Diff where
  changes := [⟨"Token", "removed", []⟩, ⟨"Pool", "body", []⟩, ⟨"Token", "body", []⟩]
  layouts := [⟨"Vault", false⟩, ⟨"Pool", false⟩, ⟨"Token", true⟩, ⟨"Vault", false⟩]

/-- Read backwards, the diff leads to the same drift and the same names at the gates. -/
theorem check_reordered_reverse :
    let backwards : Diff := ⟨brokenDiff.changes.reverse, brokenDiff.layouts.reverse⟩
    brokenDiff.changes.Perm backwards.changes ∧ brokenDiff.layouts.Perm backwards.layouts ∧
      ∃ release release',
        (check .default brokenDiff removalPolicy tokenBuild tokenBuild .basic).value =
          .ok release ∧
        (check .default backwards removalPolicy tokenBuild tokenBuild .basic).value =
          .ok release' ∧
        release'.drift = [⟨"Token", ⟨1, 0, 0, 0⟩, ⟨1, 1, 0, 0⟩, ⟨1, 0, 0, 0⟩⟩] ∧
        release'.storageGate = .error (.storage ["Pool", "Vault"]) ∧
        release'.driftGate = .error (.drift ["Token"]) := by
  intro backwards
  have changes : brokenDiff.changes.Perm backwards.changes := (List.reverse_perm _).symm
  have layouts : brokenDiff.layouts.Perm backwards.layouts := (List.reverse_perm _).symm
  have told : (check .default brokenDiff removalPolicy tokenBuild tokenBuild .basic).value.map
      (fun release => (release.drift, release.storageGate, release.driftGate)) =
        .ok ([⟨"Token", ⟨1, 0, 0, 0⟩, ⟨1, 1, 0, 0⟩, ⟨1, 0, 0, 0⟩⟩],
          .error (.storage ["Pool", "Vault"]), .error (.drift ["Token"])) := by rfl
  obtain ⟨-, -, checks⟩ :=
    check_reordered .basic brokenDiff backwards changes layouts removalPolicy
  obtain ⟨-, passed⟩ := checks .default tokenBuild tokenBuild
  cases found : (check .default brokenDiff removalPolicy tokenBuild tokenBuild .basic).value with
  | error failure =>
      rw [found] at told
      cases told
  | ok release =>
      obtain ⟨release', there, -, -, -, drift, -, -, storage, drifted⟩ := passed release found
      refine ⟨changes, layouts, release, release', rfl, there, ?_⟩
      rw [found, Except.map, drift, storage, drifted] at told
      simpa using told

end Release

end ReleaseGate
