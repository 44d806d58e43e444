/-
# Proofs.Verdict — what a release check decides

A release check goes through patterns, buckets, an index by contract, the
versions of two builds and a search for drift. What comes of it can be said
without any of these (`check_verdict`): let the kept contracts be those whose
name the pattern does not match. The check fails exactly if some kept contract
of both builds has to grow a part that holds the largest number; otherwise the
release may go out exactly if no storage layout of a kept contract breaks and
every kept contract of both builds tells its old version after the bump that
its own records call for.
-/
import Mathlib
import ReleaseGate.Proofs.Batch
import ReleaseGate.Proofs.Build.Dispatch
import ReleaseGate.Proofs.Drifts
import ReleaseGate.Proofs.Reports
import ReleaseGate.Release

namespace ReleaseGate

set_option autoImplicit false

open Version (lastNumber)

theorem mem_distinct {names : List String} {name : String} :
    name ∈ distinct names ↔ name ∈ names := by
  simp [distinct, NameMap.mem_names_ofList]

namespace Release

/-! ## The verdict on a finished release -/

theorem exitCode_eq_zero_iff (r : Release) :
    r.exitCode = 0 ↔ r.report.whole.changes.storage = [] ∧ r.drift = [] := by
  unfold exitCode verdict Buckets.breaksStorage
  cases r.report.whole.changes.storage with
  | cons layout rest => simp [Verdict.passes]
  | nil =>
      cases r.drift with
      | cons drift rest => simp [Verdict.passes]
      | nil => by_cases calm : r.report.whole.bump.isUnchanged <;> simp [calm, Verdict.passes]

theorem storageGate_eq_ok_iff (r : Release) :
    r.storageGate = .ok () ↔ r.report.whole.changes.storage = [] := by
  have none_broken : r.brokenContracts = [] ↔ r.report.whole.changes.storage = [] := by
    simp only [brokenContracts, List.eq_nil_iff_forall_not_mem, mem_distinct, List.mem_map]
    exact ⟨fun h layout member => h _ ⟨layout, member, rfl⟩,
      fun h _ ⟨layout, member, _⟩ => h layout member⟩
  unfold storageGate
  by_cases empty : r.brokenContracts = []
  · simp [empty, ← none_broken]
  · simp [empty, ← none_broken]

theorem driftGate_eq_ok_iff (r : Release) : r.driftGate = .ok () ↔ r.drift = [] := by
  unfold driftGate
  by_cases empty : r.drift = [] <;> simp [empty]

/-! ## The stages of a check -/

/-- The result of a check is that of its search for drift. -/
theorem value_checkKeeping (builtIns : Evm.BuiltIns) (keep : String → Bool)
    (settings : ProbeSettings) (diff : Diff) (policy : Policy)
    (previous current : List Build.Artifact) :
    (checkKeeping keep settings diff policy previous current builtIns).value =
      let report := DetailedReport.ofDiff (diff.keeping keep) policy
      let before := (Build.versions previous settings builtIns).value.filterNames keep
      let now := (Build.versions current settings builtIns).value.filterNames keep
      match (Drift.detectIn report.bumpFor before now.toList).value with
      | .error fault => .error (.version fault)
      | .ok drift => .ok ⟨report, before, now, drift⟩ := by
  simp only [checkKeeping, Logged.value_bind, Drift.detect, DetailedReport.create]
  generalize (Drift.detectIn _ _ _).value = found
  cases found <;> rfl

theorem value_check {builtIns : Evm.BuiltIns} {settings : Settings} {pattern : Option Pattern}
    (compiled : settings.pattern? = .ok pattern) (diff : Diff) (policy : Policy)
    (previous current : List Build.Artifact) :
    (check settings diff policy previous current builtIns).value =
      (checkKeeping (keeps pattern) settings.probe diff policy previous current
        builtIns).value := by
  rw [check, compiled]

/-- A release that a check returned reports on the part of the diff that the pattern leaves. -/
theorem exists_pattern_of_check {builtIns : Evm.BuiltIns} {settings : Settings} {diff : Diff}
    {policy : Policy} {previous current : List Build.Artifact} {release : Release}
    (checked : (check settings diff policy previous current builtIns).value = .ok release) :
    ∃ pattern, settings.pattern? = .ok pattern ∧
      release.report = DetailedReport.ofDiff (diff.keeping (keeps pattern)) policy := by
  cases compiled : settings.pattern? with
  | error bad =>
      rw [check, compiled] at checked
      cases checked
  | ok pattern =>
      rw [value_check compiled, value_checkKeeping] at checked
      refine ⟨pattern, rfl, ?_⟩
      dsimp only at checked
      split at checked
      · cases checked
      · cases checked
        rfl

/-- The version a kept contract has in a build. -/
theorem get?_kept_versions {builtIns : Evm.BuiltIns} (keep : String → Bool)
    (settings : ProbeSettings) (artifacts : List Build.Artifact) (name : String)
    (version : Version) :
    ((Build.versions artifacts settings builtIns).value.filterNames keep).get? name =
        some version ↔
      keep name ∧ Build.versionOf? builtIns settings artifacts name = some version := by
  rw [NameMap.get?_filterNames, Build.get?_versions]
  by_cases kept : keep name <;> simp [kept]

/-! ## What a release has to be -/

/-- Some kept contract of both builds has to grow a part that holds the largest number. -/
def Overflows (builtIns : Evm.BuiltIns) (keep : String → Bool) (settings : ProbeSettings)
    (diff : Diff) (policy : Policy) (previous current : List Build.Artifact) : Prop :=
  ∃ name before now, keep name ∧
    Build.versionOf? builtIns settings previous name = some before ∧
    Build.versionOf? builtIns settings current name = some now ∧
    before.IsExhausted (diff.impliedPart policy name)

/-- No storage layout of a kept contract breaks. -/
def StorageHolds (keep : String → Bool) (diff : Diff) : Prop :=
  ∀ layout ∈ diff.layouts, keep layout.contract → layout.compatible

/-- Every kept contract of both builds tells its old version after the bump that
its own records call for. -/
def VersionsFollow (builtIns : Evm.BuiltIns) (keep : String → Bool) (settings : ProbeSettings)
    (diff : Diff) (policy : Policy) (previous current : List Build.Artifact) : Prop :=
  ∀ name before now, keep name →
    Build.versionOf? builtIns settings previous name = some before →
    Build.versionOf? builtIns settings current name = some now →
    now = before.after (diff.impliedPart policy name)

section Search

variable {builtIns : Evm.BuiltIns} {keep : String → Bool} {settings : ProbeSettings}
  {diff : Diff} {policy : Policy} {previous current : List Build.Artifact}

/-- The bump of a kept contract, from its own records in the whole diff. -/
theorem kept_bumpFor_apply {name : String} (kept : keep name) (v : Version) :
    ((DetailedReport.ofDiff (diff.keeping keep) policy).bumpFor name).apply v =
      if v.IsExhausted (diff.impliedPart policy name) then .error (.exhausted lastNumber)
      else .ok (v.after (diff.impliedPart policy name)) := by
  rw [DetailedReport.bumpFor_apply, Diff.impliedPart_keeping diff policy kept]

/-- The search for drift is stopped exactly if some part cannot grow. -/
theorem stops_iff_overflows :
    (∃ entry ∈ ((Build.versions current settings builtIns).value.filterNames keep).toList,
      Drift.Stops (DetailedReport.ofDiff (diff.keeping keep) policy).bumpFor
        ((Build.versions previous settings builtIns).value.filterNames keep) entry) ↔
      Overflows builtIns keep settings diff policy previous current := by
  constructor
  · rintro ⟨⟨name, now⟩, member, before, fault, old, failed⟩
    obtain ⟨kept, told⟩ :=
      (get?_kept_versions keep settings current name now).1 (NameMap.mem_toList_iff.1 member)
    obtain ⟨-, old⟩ := (get?_kept_versions keep settings previous name before).1 old
    refine ⟨name, before, now, kept, old, told, ?_⟩
    by_contra room
    rw [kept_bumpFor_apply kept, if_neg room] at failed
    cases failed
  · rintro ⟨name, before, now, kept, old, told, exhausted⟩
    refine ⟨(name, now), ?_, before, .exhausted lastNumber, ?_, ?_⟩
    · exact NameMap.mem_toList_iff.2 ((get?_kept_versions keep settings current name now).2
        ⟨kept, told⟩)
    · exact (get?_kept_versions keep settings previous name before).2 ⟨kept, old⟩
    · rw [kept_bumpFor_apply kept, if_pos exhausted]

/-- Where no part overflows there is no drift exactly if every version follows. -/
theorem no_drift_iff (fits : ¬ Overflows builtIns keep settings diff policy previous current) :
    (((Build.versions current settings builtIns).value.filterNames keep).toList.filterMap
      (Drift.of? (DetailedReport.ofDiff (diff.keeping keep) policy).bumpFor
        ((Build.versions previous settings builtIns).value.filterNames keep))) = [] ↔
      VersionsFollow builtIns keep settings diff policy previous current := by
  have room {name : String} {before now : Version} (kept : keep name)
      (old : Build.versionOf? builtIns settings previous name = some before)
      (told : Build.versionOf? builtIns settings current name = some now) :
      ¬ before.IsExhausted (diff.impliedPart policy name) :=
    fun exhausted => fits ⟨name, before, now, kept, old, told, exhausted⟩
  rw [List.filterMap_eq_nil_iff]
  constructor
  · intro calm name before now kept old told
    have member := NameMap.mem_toList_iff.2
      ((get?_kept_versions keep settings current name now).2 ⟨kept, told⟩)
    have grows := fun stop => fits (stops_iff_overflows.1 ⟨(name, now), member, stop⟩)
    have bumped := (Drift.of?_eq_none_iff grows).1 (calm _ member) before
      ((get?_kept_versions keep settings previous name before).2 ⟨kept, old⟩)
    rw [kept_bumpFor_apply kept, if_neg (room kept old told)] at bumped
    exact (Except.ok.inj bumped).symm
  · rintro follow ⟨name, now⟩ member
    have grows := fun stop => fits (stops_iff_overflows.1 ⟨(name, now), member, stop⟩)
    refine (Drift.of?_eq_none_iff grows).2 fun before old => ?_
    obtain ⟨kept, told⟩ :=
      (get?_kept_versions keep settings current name now).1 (NameMap.mem_toList_iff.1 member)
    obtain ⟨-, old⟩ := (get?_kept_versions keep settings previous name before).1 old
    rw [kept_bumpFor_apply kept, if_neg (room kept old told), follow name before now kept old told]

end Search

theorem kept_storage_eq_nil_iff (keep : String → Bool) (diff : Diff) (policy : Policy) :
    (DetailedReport.ofDiff (diff.keeping keep) policy).whole.changes.storage = [] ↔
      StorageHolds keep diff := by
  show (Buckets.ofDiff (diff.keeping keep) policy).storage = [] ↔ _
  rw [Buckets.ofDiff_eq]
  simp only [Diff.keeping, StorageHolds, List.filter_eq_nil_iff, List.mem_filter]
  constructor
  · intro calm layout member kept
    simpa using calm layout ⟨member, kept⟩
  · rintro holds layout ⟨member, kept⟩
    simp [holds layout member kept]

/-- **What a release check decides.** It fails exactly if a part overflows; else
the release may go out exactly if the storage holds and the versions follow. The
exit status says no more and no less than the two gates. -/
theorem check_verdict (builtIns : Evm.BuiltIns) (settings : Settings) (pattern : Option Pattern)
    (compiled : settings.pattern? = .ok pattern) (diff : Diff) (policy : Policy)
    (previous current : List Build.Artifact) :
    (Overflows builtIns (keeps pattern) settings.probe diff policy previous current →
      (check settings diff policy previous current builtIns).value =
        .error (.version (.exhausted lastNumber))) ∧
    (¬ Overflows builtIns (keeps pattern) settings.probe diff policy previous current →
      ∃ release, (check settings diff policy previous current builtIns).value = .ok release ∧
        (release.exitCode = 0 ↔ StorageHolds (keeps pattern) diff ∧
          VersionsFollow builtIns (keeps pattern) settings.probe diff policy previous current)) ∧
    ∀ release : Release, release.exitCode = 0 ↔
      release.storageGate = .ok () ∧ release.driftGate = .ok () := by
  rw [value_check compiled, value_checkKeeping]
  refine ⟨fun overflows => ?_, fun fits => ?_, fun release => ?_⟩
  · obtain ⟨front, name, now, rest, before, fault, split, -, old, failed, value⟩ :=
      Drift.detectIn_stops (stops_iff_overflows.2 overflows)
    have member : (name, now) ∈ _ := split ▸ List.mem_append_right front List.mem_cons_self
    obtain ⟨kept, -⟩ :=
      (get?_kept_versions _ _ current name now).1 (NameMap.mem_toList_iff.1 member)
    rw [kept_bumpFor_apply kept] at failed
    split at failed
    · cases failed
      simp only [value]
    · cases failed
  · have value := Drift.detectIn_grows fun entry member stop =>
      fits (stops_iff_overflows.1 ⟨entry, member, stop⟩)
    simp only [value]
    refine ⟨_, rfl, ?_⟩
    rw [exitCode_eq_zero_iff, kept_storage_eq_nil_iff, no_drift_iff fits]
  · rw [exitCode_eq_zero_iff, storageGate_eq_ok_iff, driftGate_eq_ok_iff]

/-! ## A release whose mocks break -/

/-- The pattern `^Mock`. -/
def mockPattern : Pattern where
  expr := .sequence
    [.look .textStart, .set (.single 'M'), .set (.single 'o'), .set (.single 'c'),
      .set (.single 'k')]

def mockSettings : Settings := ⟨some "^Mock", .default⟩

theorem pattern?_mockSettings : mockSettings.pattern? = .ok (some mockPattern) := by cbv

/-- A mock is removed and another one breaks its storage; nothing else changes. -/
def mockDiff : Diff where
  changes := [⟨"MockToken", "removed", []⟩]
  layouts := [⟨"MockVault", false⟩, ⟨"Token", true⟩]

/-- A build of one contract, whose bytecode tells nothing. -/
def tokenBuild : List Build.Artifact := [⟨"Token", "zz"⟩]

/-- What becomes of the mocks, and a function of the token that was removed. -/
def removalBesideMocks : Diff where
  changes := ⟨"Token", "removed", []⟩ :: mockDiff.changes
  layouts := mockDiff.layouts

/-- A build whose token tells a version with this major part. -/
def toldBuild (major : Fin 10) : List Build.Artifact := [⟨"Token", Build.toldText 2 major 0 0⟩]

theorem versionOf?_toldBuild {builtIns : Evm.BuiltIns} {major : Fin 10} {name : String}
    {version : Version} :
    Build.versionOf? builtIns .default (toldBuild major) name = some version ↔
      name = "Token" ∧ version = ⟨2, .ofNat major, 0, 0⟩ := by
  have tells : Build.told builtIns .default (Build.toldText 2 major 0 0) =
      ⟨2, .ofNat major, 0, 0⟩ := by
    rw [Build.told, Build.value_extract_toldText]
    rfl
  by_cases token : "Token" = name
  · subst token
    simp [Build.versionOf?, Build.last?, toldBuild, tells, eq_comm]
  · simp [Build.versionOf?, Build.last?, toldBuild, token, Ne.symm token]

/-- The token has to tell the next major part, and what becomes of mocks holds up no
release: a build that tells 2.1.0.0 after 2.0.0.0 may go out, one that still tells
2.0.0.0 may not. -/
theorem check_verdict_told :
    mockSettings.pattern? = .ok (some mockPattern) ∧
    (∃ release, (check mockSettings removalBesideMocks (fun _ => .major) (toldBuild 0)
      (toldBuild 1) .basic).value = .ok release ∧ release.exitCode = 0) ∧
    ∃ release, (check mockSettings removalBesideMocks (fun _ => .major) (toldBuild 0)
      (toldBuild 0) .basic).value = .ok release ∧ release.exitCode ≠ 0 := by
  have verdict (major : Fin 10) := check_verdict .basic mockSettings (some mockPattern)
    pattern?_mockSettings removalBesideMocks (fun _ => .major) (toldBuild 0) (toldBuild major)
  have grows (major : Fin 10) : ¬ Overflows .basic (keeps (some mockPattern)) mockSettings.probe
      removalBesideMocks (fun _ => .major) (toldBuild 0) (toldBuild major) := by
    rintro ⟨name, before, now, -, old, -, exhausted⟩
    obtain ⟨rfl, rfl⟩ := versionOf?_toldBuild.1 old
    exact absurd exhausted (by decide +kernel)
  have holds : StorageHolds (keeps (some mockPattern)) removalBesideMocks := by
    unfold StorageHolds
    decide +kernel
  obtain ⟨next, nextChecked, nextPasses⟩ := (verdict 1).2.1 (grows 1)
  obtain ⟨same, sameChecked, samePasses⟩ := (verdict 0).2.1 (grows 0)
  refine ⟨pattern?_mockSettings, ⟨next, nextChecked, nextPasses.2 ⟨holds, ?_⟩⟩,
    same, sameChecked, fun passed => ?_⟩
  · intro name before now _ old told
    obtain ⟨rfl, rfl⟩ := versionOf?_toldBuild.1 old
    obtain ⟨-, rfl⟩ := versionOf?_toldBuild.1 told
    decide +kernel
  · have kept : keeps (some mockPattern) "Token" := by decide +kernel
    have token : Build.versionOf? .basic .default (toldBuild 0) "Token" = some _ :=
      versionOf?_toldBuild.2 ⟨rfl, rfl⟩
    exact absurd ((samePasses.1 passed).2 "Token" _ _ kept token token) (by decide +kernel)

end Release

end ReleaseGate
