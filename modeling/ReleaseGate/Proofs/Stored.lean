/-
# Proofs.Stored — a release survives being stored

A release that a check returned is written as JSON and read back later. It comes
back as it was, and with it its verdict and its gates (`check_stored`), if its
changes were read from JSON, no number in their details is a double, and no more
containers stand in each other than a reader goes down.

Everything in a release but the details of its changes is written by the program
itself, so only they can make the text one that does not read back: by a key that
stands twice, or by a double. All changes of a release are changes of the diff that
was checked (`mem_changes_of_check`), and a diff that was read holds no key twice.
-/
import ReleaseGate.Proofs.Form.Diffs
import ReleaseGate.Proofs.Form.Releases
import ReleaseGate.Proofs.Locality
import ReleaseGate.Proofs.Verdict

namespace ReleaseGate

set_option autoImplicit false

/-! ## The changes of a release -/

namespace Buckets

/-- The changes in all the buckets. -/
def changes (b : Buckets) : List Change := b.major ++ b.minor ++ b.patch

theorem mem_changes_ofDiff {d : Diff} {policy : Policy} {c : Change} :
    c ∈ (ofDiff d policy).changes ↔ c ∈ d.changes := by
  simp only [changes, ofDiff_eq, List.mem_append, List.mem_filter, decide_eq_true_eq]
  cases policy c <;> simp

end Buckets

namespace DetailedReport

/-- A contract has no change that the whole has not. -/
theorem mem_changes_of_contract {d : Diff} {policy : Policy} {entry : String × Report}
    (member : entry ∈ (ofDiff d policy).contracts.toList) {c : Change}
    (own : c ∈ entry.2.changes.changes) : c ∈ (ofDiff d policy).whole.changes.changes := by
  obtain ⟨-, same⟩ := (get?_contracts d policy entry.1 entry.2).1 (NameMap.mem_toList_iff.1 member)
  rw [same] at own
  have kept : c ∈ (d.named entry.1).changes := Buckets.mem_changes_ofDiff.1 own
  exact Buckets.mem_changes_ofDiff.2 (List.mem_of_mem_filter kept)

end DetailedReport

/-! ## What is written reads back -/

namespace Form

open Json (Clean)

variable {α : Type}

/-- Fields whose names are given, and differ. -/
theorem clean_record {fields : List (String × Json)}
    (each : ∀ field ∈ fields, field.2.Clean)
    (names : (fields.map Prod.fst).Nodup := by simp) : (Json.object fields).Clean :=
  .object names each

theorem clean_list {json : α → Json} {items : List α} (each : ∀ item ∈ items, (json item).Clean) :
    (Json.list (items.map json)).Clean := by
  refine .list fun written member => ?_
  obtain ⟨item, isIn, rfl⟩ := List.mem_map.1 member
  exact each item isIn

/-- The names of a map ascend, so none stands twice. -/
theorem clean_nameMapJson {json : α → Json} {m : NameMap α}
    (each : ∀ entry ∈ m.toList, (json entry.2).Clean) : (nameMapJson json m).Clean := by
  refine .object ?_ fun field member => ?_
  · rw [List.map_map]
    exact List.pairwise_map.2 (m.ascending.imp String.ne_of_lt)
  · obtain ⟨entry, isIn, rfl⟩ := List.mem_map.1 member
    exact each entry isIn

theorem clean_versionJson (v : Version) : (versionJson v).Clean := .text _

theorem clean_bumpJson (b : Version.Bump) : (bumpJson b).Clean :=
  clean_record (by simp [Clean.text])

theorem clean_verdictJson (l : LayoutVerdict) : (verdictJson l).Clean :=
  clean_record (by simp [Clean.text, Clean.bool])

theorem clean_driftJson (d : Drift) : (driftJson d).Clean :=
  clean_record (by simp [Clean.text, clean_versionJson])

theorem clean_bucketsJson {b : Buckets} (each : ∀ c ∈ b.changes, (changeJson c).Clean) :
    (bucketsJson b).Clean := by
  simp only [Buckets.changes, List.forall_mem_append] at each
  obtain ⟨⟨major, minor⟩, patch⟩ := each
  refine clean_record ?_
  simp only [List.forall_mem_cons]
  exact ⟨clean_list fun l _ => clean_verdictJson l, clean_list major, clean_list minor,
    clean_list patch, by simp⟩

theorem clean_reportJson {r : Report} (each : ∀ c ∈ r.changes.changes, (changeJson c).Clean) :
    (reportJson r).Clean :=
  clean_record (by simp [clean_bucketsJson each, clean_bumpJson])

/-- Only the changes can keep the text of a release from reading back. -/
theorem clean_releaseJson {r : Release}
    (whole : ∀ c ∈ r.report.whole.changes.changes, (changeJson c).Clean)
    (contracts : ∀ entry ∈ r.report.contracts.toList, ∀ c ∈ entry.2.changes.changes,
      (changeJson c).Clean) : (releaseJson r).Clean := by
  have report : (detailedReportJson r.report).Clean := by
    have entries : (nameMapJson reportJson r.report.contracts).Clean :=
      clean_nameMapJson fun entry member => clean_reportJson (contracts entry member)
    exact clean_record (by simp [clean_reportJson whole, entries])
  have versions (m : NameMap Version) : (nameMapJson versionJson m).Clean :=
    clean_nameMapJson fun entry _ => clean_versionJson entry.2
  have drift : (Json.list (r.drift.map driftJson)).Clean := clean_list fun d _ => clean_driftJson d
  exact clean_record (by simp [report, versions, drift])

/-- A change reads back if no key stands twice in it and its details hold no double. -/
theorem clean_changeJson {c : Change} (distinct : (changeJson c).Distinct)
    (whole : ∀ detail ∈ c.details, detail.2.holdsReal = false) : (changeJson c).Clean := by
  refine distinct.clean ?_
  rw [changeJson, Json.holdsReal, Json.fieldsHoldReal_eq, List.any_eq_false]
  simp only [List.forall_mem_cons]
  exact ⟨by simp [Json.holdsReal], by simp [Json.holdsReal], fun detail member => by
    simp [whole detail member]⟩

/-- A release whose text fits reads back from it. -/
theorem read_write_releaseJson {r : Release} (clean : (releaseJson r).Clean)
    (shallow : (releaseJson r).nesting ≤ Json.depthLimit) :
    (Json.Document.ofText (releaseJson r).write).read readRelease = .ok r :=
  readRelease_undoes.read_write clean shallow

end Form

namespace Release

variable {builtIns : Evm.BuiltIns} {settings : Settings} {diff : Diff} {policy : Policy}
  {previous current : List Build.Artifact} {release : Release}

/-- A check reports on the part of the diff that its pattern leaves. -/
theorem report_of_check
    (checked : (check settings diff policy previous current builtIns).value = .ok release) :
    ∃ keep, release.report = DetailedReport.ofDiff (diff.keeping keep) policy := by
  obtain ⟨pattern, -, same⟩ := exists_pattern_of_check checked
  exact ⟨keeps pattern, same⟩

/-- All changes of a release are changes of the diff that was checked. -/
theorem mem_changes_of_check
    (checked : (check settings diff policy previous current builtIns).value = .ok release)
    {c : Change} (member : c ∈ release.report.whole.changes.changes) : c ∈ diff.changes := by
  obtain ⟨keep, same⟩ := report_of_check checked
  rw [same] at member
  exact List.mem_of_mem_filter (Buckets.mem_changes_ofDiff.1 member)

/-- **A release survives being stored.** -/
theorem check_stored (wasRead : diff.WasRead)
    (checked : (check settings diff policy previous current builtIns).value = .ok release)
    (whole : ∀ c ∈ release.report.whole.changes.changes, ∀ detail ∈ c.details,
      detail.2.holdsReal = false)
    (shallow : (Form.releaseJson release).nesting ≤ 127) :
    ∃ back,
      (Json.Document.ofText (Form.releaseJson release).write).read Form.readRelease = .ok back ∧
      back = release ∧ back.verdict = release.verdict ∧ back.exitCode = release.exitCode ∧
      back.storageGate = release.storageGate ∧ back.driftGate = release.driftGate := by
  have clean : ∀ c ∈ release.report.whole.changes.changes, (Form.changeJson c).Clean :=
    fun c member => Form.clean_changeJson (wasRead.distinct c (mem_changes_of_check checked member))
      (whole c member)
  have contracts : ∀ entry ∈ release.report.contracts.toList, ∀ c ∈ entry.2.changes.changes,
      (Form.changeJson c).Clean := by
    intro entry member c own
    obtain ⟨keep, same⟩ := report_of_check checked
    rw [same] at member
    exact clean c (same ▸ DetailedReport.mem_changes_of_contract member own)
  exact ⟨release, Form.read_write_releaseJson (Form.clean_releaseJson clean contracts) shallow,
    rfl, rfl, rfl, rfl, rfl⟩

/-! ## A removal on record -/

open DetailedReport (removalPolicy)

/-- A diff as it was printed: a removal, told of with numbers, escapes and a nested value. -/
def removalText : String :=
  "\x7b\"changes\": [\x7b\"contractName\": \"Token\", \"kind\": \"removed\", " ++
    "\"range\": [-1, 18446744073709551615], \"t\\u00e9l\": \x7b\"said\": \"\\\"\\n\"\x7d\x7d], " ++
    "\"storage\": [\x7b\"contractName\": \"Token\", \"compatible\": true\x7d]\x7d"

def removalDiff : Diff where
  changes :=
    [⟨"Token", "removed",
      [("range", .list [.number (.integer (-1) (by decide) (by decide)),
          .number (.integer 18446744073709551615 (by decide) (by decide))]),
        ("tél", .object [("said", .text "\"\n")])]⟩]
  layouts := [⟨"Token", true⟩]

theorem wasRead_removalDiff : removalDiff.WasRead := .inl ⟨removalText, by cbv⟩

theorem versions_tokenBuild (settings : ProbeSettings) :
    (Build.versions tokenBuild settings builtIns).value =
      ⟨[("Token", settings.fallback)], by simp⟩ := by
  show (Build.resolveAll tokenBuild settings builtIns).value.map (·.version) = _
  rw [Build.value_resolveAll]
  show (⟨[("Token", (Build.resolve (some "Token") "zz" settings builtIns).value.version)], _⟩ :
    NameMap Version) = _
  simp only [Build.version_resolve]
  rfl

/-- The token tells its old version although a part of it was removed. -/
def removalRelease : Release where
  report := DetailedReport.ofDiff removalDiff removalPolicy
  previous := ⟨[("Token", .initial)], by simp⟩
  current := ⟨[("Token", .initial)], by simp⟩
  drift := [⟨"Token", .initial, ⟨1, 1, 0, 0⟩, .initial⟩]

theorem value_check_removal :
    (check .default removalDiff removalPolicy tokenBuild tokenBuild builtIns).value =
      .ok removalRelease := by
  have compiled : Settings.default.pattern? = .ok none := rfl
  rw [value_check compiled, value_checkKeeping]
  simp only [versions_tokenBuild]
  rfl

/-- The removal and the drift it causes are still on record. -/
theorem check_stored_removal :
    removalDiff.WasRead ∧
      (check .default removalDiff removalPolicy tokenBuild tokenBuild .basic).value =
        .ok removalRelease ∧
      (Json.Document.ofText (Form.releaseJson removalRelease).write).read Form.readRelease =
        .ok removalRelease ∧ removalRelease.verdict = .drifted := by
  have whole : ∀ c ∈ removalRelease.report.whole.changes.changes, ∀ detail ∈ c.details,
      detail.2.holdsReal = false := by decide
  have shallow : (Form.releaseJson removalRelease).nesting ≤ 127 := by decide
  have checked : (check .default removalDiff removalPolicy tokenBuild tokenBuild .basic).value =
      .ok removalRelease := value_check_removal
  obtain ⟨back, read, rfl, -⟩ := check_stored wasRead_removalDiff checked whole shallow
  exact ⟨wasRead_removalDiff, checked, read, rfl⟩

end Release

end ReleaseGate
