/-
# Proofs.Repair — the drift that is found, and how it is repaired

A report may hold any bumps, also such that no set of changes calls for. Either a
bump would overflow in a contract of both builds, and the search for drift fails
with the fault of the first such contract; or it finds just the contracts of both
builds that tell another version than the bumped one (`mem_drift_iff`), each once
and in order. If those are made to tell the expected versions, it finds nothing
(`detect_repaired`). `detect_repairable` says all of this.
-/
import ReleaseGate.Proofs.Drifts
import ReleaseGate.Proofs.Names
import ReleaseGate.Proofs.Severity

namespace ReleaseGate

set_option autoImplicit false

open Version (lastNumber)

namespace Version

/-! ## Any bump -/

/-- The number after a delta. -/
def Delta.next : Delta → UInt64 → UInt64
  | .keep, n => n
  | .increment, n => n + 1
  | .reset, _ => 0

/-- The version after a bump, part by part. -/
def Bump.next (b : Bump) (v : Version) : Version :=
  ⟨b.storage.next v.storage, b.major.next v.major, b.minor.next v.minor, b.patch.next v.patch⟩

/-- Whether a bump asks a part to grow that holds the largest number. -/
def Bump.Overflows (b : Bump) (v : Version) : Prop :=
  ∃ part, b.delta part = .increment ∧ v.part part = lastNumber

instance (b : Bump) (v : Version) : Decidable (b.Overflows v) :=
  decidable_of_iff (∃ part ∈ [Part.storage, .major, .minor, .patch],
      b.delta part = .increment ∧ v.part part = lastNumber)
    ⟨fun ⟨part, _, full⟩ => ⟨part, full⟩, fun ⟨part, full⟩ => ⟨part, by cases part <;> simp, full⟩⟩

theorem Delta.apply_eq (d : Delta) (n : UInt64) :
    d.apply n =
      if d = .increment ∧ n = lastNumber then .error (.exhausted lastNumber)
      else .ok (d.next n) := by
  cases d with
  | keep => rfl
  | reset => rfl
  | increment => simp [increment_apply, Delta.next]

/-- **A bump fails exactly if it overflows**, whatever it does to the other parts. -/
theorem Bump.apply_eq (b : Bump) (v : Version) :
    b.apply v = if b.Overflows v then .error (.exhausted lastNumber) else .ok (b.next v) := by
  have full (part : Part) (grows : b.delta part = .increment ∧ v.part part = lastNumber) :
      b.Overflows v := ⟨part, grows⟩
  simp only [apply, Delta.apply_eq]
  -- The parts are bumped one after the other; the first that cannot grow ends it.
  by_cases storage : b.storage = .increment ∧ v.storage = lastNumber
  · rw [if_pos storage, if_pos (full .storage storage)]
    rfl
  by_cases major : b.major = .increment ∧ v.major = lastNumber
  · rw [if_neg storage, if_pos major, if_pos (full .major major)]
    rfl
  by_cases minor : b.minor = .increment ∧ v.minor = lastNumber
  · rw [if_neg storage, if_neg major, if_pos minor, if_pos (full .minor minor)]
    rfl
  by_cases patch : b.patch = .increment ∧ v.patch = lastNumber
  · rw [if_neg storage, if_neg major, if_neg minor, if_pos patch, if_pos (full .patch patch)]
    rfl
  have room : ¬ b.Overflows v := by
    rintro ⟨part, grows⟩
    cases part with
    | storage => exact storage grows
    | major => exact major grows
    | minor => exact minor grows
    | patch => exact patch grows
  rw [if_neg storage, if_neg major, if_neg minor, if_neg patch, if_neg room]
  rfl

end Version

namespace DetailedReport

/-- The version that a contract should tell next: the old one after its bump, or as
it is if the report does not mention the contract. -/
def nextVersion (report : DetailedReport) (name : String) (before : Version) : Version :=
  match report.contracts.get? name with
  | some entry => entry.bump.next before
  | none => before

theorem next_bumpFor (report : DetailedReport) (name : String) (before : Version) :
    (report.bumpFor name).next before = report.nextVersion name before := by
  unfold bumpFor nextVersion
  cases report.contracts.get? name <;> rfl

theorem bumpFor_overflows_iff {report : DetailedReport} {name : String} {before : Version} :
    (report.bumpFor name).Overflows before ↔
      ∃ entry, report.contracts.get? name = some entry ∧ entry.bump.Overflows before := by
  unfold bumpFor
  cases report.contracts.get? name with
  | none => simp [Version.Bump.Overflows, Version.Bump.unchanged_delta]
  | some entry => simp

end DetailedReport

namespace Drift

/-! ## What the search finds -/

/-- A contract of both builds whose bump overflows. -/
def Blocks (report : DetailedReport) (previous current : NameMap Version) (name : String) : Prop :=
  ∃ entry before, report.contracts.get? name = some entry ∧ entry.bump.Overflows before ∧
    previous.get? name = some before ∧ (current.get? name).isSome

/-- The new versions, after every drifted contract was made to tell the expected one. -/
def repaired (current : NameMap Version) (drift : List Drift) : NameMap Version :=
  (drift.map fun d => (d.contract, d.expected)).foldl (fun m pair => m.insert pair.1 pair.2) current

theorem Blocks.told {report : DetailedReport} {previous current : NameMap Version} {name : String}
    (blocks : Blocks report previous current name) : ∃ now, current.get? name = some now :=
  Option.isSome_iff_exists.1 blocks.choose_spec.choose_spec.2.2.2

section Found

variable {report : DetailedReport} {previous current : NameMap Version}

theorem stops_iff {entry : String × Version} :
    Stops report.bumpFor previous entry ↔
      ∃ before, previous.get? entry.1 = some before ∧
        (report.bumpFor entry.1).Overflows before := by
  unfold Stops
  refine exists_congr fun before => ?_
  rw [Version.Bump.apply_eq]
  by_cases full : (report.bumpFor entry.1).Overflows before <;> simp [full]

/-- A contract stops the search exactly if it is in the new build and blocks it. -/
theorem stops_iff_blocks {name : String} {now : Version} (told : current.get? name = some now) :
    Stops report.bumpFor previous (name, now) ↔ Blocks report previous current name := by
  rw [stops_iff]
  simp only [DetailedReport.bumpFor_overflows_iff, Blocks, told]
  constructor
  · rintro ⟨before, old, entry, mentioned, full⟩
    exact ⟨entry, before, mentioned, full, old, rfl⟩
  · rintro ⟨entry, before, mentioned, full, old, -⟩
    exact ⟨before, old, entry, mentioned, full⟩

/-- The drift of a contract, told by the report. -/
theorem of?_eq_some_of_report {entry : String × Version} {d : Drift} :
    of? report.bumpFor previous entry = some d ↔
      entry = (d.contract, d.reported) ∧ previous.get? d.contract = some d.previous ∧
        ¬ (report.bumpFor d.contract).Overflows d.previous ∧
        d.expected = report.nextVersion d.contract d.previous ∧ d.expected ≠ d.reported := by
  rw [of?_eq_some_iff, Version.Bump.apply_eq, DetailedReport.next_bumpFor]
  by_cases full : (report.bumpFor d.contract).Overflows d.previous
  · simp [full]
  · simp [full, eq_comm]

/-- Where nothing blocks the search, a drift is found exactly if the contract is in
both builds and tells another version than it should. -/
theorem mem_drift_iff (free : ∀ name, ¬ Blocks report previous current name) {d : Drift} :
    d ∈ current.toList.filterMap (of? report.bumpFor previous) ↔
      previous.get? d.contract = some d.previous ∧ current.get? d.contract = some d.reported ∧
        d.expected = report.nextVersion d.contract d.previous ∧ d.expected ≠ d.reported := by
  simp only [List.mem_filterMap, of?_eq_some_of_report]
  constructor
  · rintro ⟨entry, member, rfl, old, -, expected, differs⟩
    exact ⟨old, NameMap.mem_toList_iff.1 member, expected, differs⟩
  · rintro ⟨old, told, expected, differs⟩
    refine ⟨_, NameMap.mem_toList_iff.2 told, rfl, old, fun full => ?_, expected, differs⟩
    exact free d.contract ((stops_iff_blocks told).1 (stops_iff.2 ⟨d.previous, old, full⟩))

/-- The search keeps the order of the names. -/
theorem ascending_drift (current : NameMap Version) :
    (current.toList.filterMap (of? report.bumpFor previous)).Pairwise
      fun d e => d.contract < e.contract := by
  refine current.ascending.filterMap _ fun entry other before d found e foundToo => ?_
  obtain ⟨rfl, -⟩ := of?_eq_some_iff.1 found
  obtain ⟨rfl, -⟩ := of?_eq_some_iff.1 foundToo
  exact before

/-! ## Repair -/

theorem get?_repaired (current : NameMap Version) (drift : List Drift) (name : String) :
    (repaired current drift).get? name =
      (NameMap.lookup name (drift.map fun d => (d.contract, d.expected)).reverse).or
        (current.get? name) :=
  NameMap.get?_foldl_insert _ _ _

/-- After the repair a contract tells the expected version of its drift, or has none
and tells what it told. -/
theorem get?_repaired_cases {drift : List Drift} {name : String} {now : Version}
    (told : (repaired current drift).get? name = some now) :
    (∃ d ∈ drift, d.contract = name ∧ d.expected = now) ∨
      (∀ d ∈ drift, d.contract ≠ name) ∧ current.get? name = some now := by
  rw [get?_repaired] at told
  cases found : NameMap.lookup name (drift.map fun d => (d.contract, d.expected)).reverse with
  | some expected =>
      rw [found, Option.some_or] at told
      cases told
      have member := NameMap.mem_of_lookup found
      rw [List.mem_reverse, List.mem_map] at member
      obtain ⟨d, isIn, same⟩ := member
      cases same
      exact .inl ⟨d, isIn, rfl, rfl⟩
  | none =>
      rw [found, Option.none_or] at told
      refine .inr ⟨fun d isIn same => ?_, told⟩
      have there :
          (NameMap.lookup name (drift.map fun d => (d.contract, d.expected)).reverse).isSome := by
        rw [NameMap.isSome_lookup_iff, List.map_reverse, List.mem_reverse, List.map_map]
        exact List.mem_map.2 ⟨d, isIn, same⟩
      rw [found] at there
      cases there

/-- **After the repair nothing drifts.** -/
theorem detect_repaired (free : ∀ name, ¬ Blocks report previous current name) :
    (detect report previous
      (repaired current (current.toList.filterMap (of? report.bumpFor previous)))).value =
        .ok [] := by
  let drift := current.toList.filterMap (of? report.bumpFor previous)
  -- Every contract of the repaired build was in the build, so none stops the search.
  have grows {name : String} {now : Version}
      (told : (repaired current drift).get? name = some now) :
      ¬ Stops report.bumpFor previous (name, now) := by
    intro stops
    rcases get?_repaired_cases told with ⟨d, found, rfl, -⟩ | ⟨-, here⟩
    · obtain ⟨-, here, -⟩ := (mem_drift_iff free).1 found
      exact free d.contract ((stops_iff_blocks here).1 stops)
    · exact free name ((stops_iff_blocks here).1 stops)
  have settled {name : String} {now : Version}
      (told : (repaired current drift).get? name = some now) :
      of? report.bumpFor previous (name, now) = none := by
    rcases get?_repaired_cases told with ⟨d, found, rfl, rfl⟩ | ⟨absent, here⟩
    · obtain ⟨entry, -, foundAt⟩ := List.mem_filterMap.1 found
      obtain ⟨-, old, bumped, -⟩ := of?_eq_some_iff.1 foundAt
      refine (of?_eq_none_iff (grows told)).2 fun before oldToo => ?_
      rw [old] at oldToo
      cases oldToo
      exact bumped
    · refine Option.eq_none_iff_forall_ne_some.2 fun d foundAt => ?_
      have found : d ∈ drift :=
        List.mem_filterMap.2 ⟨(name, now), NameMap.mem_toList_iff.2 here, foundAt⟩
      obtain ⟨same, -⟩ := of?_eq_some_iff.1 foundAt
      exact absent d found (congrArg Prod.fst same).symm
  rw [detect, detectIn_grows fun entry member => grows (NameMap.mem_toList_iff.1 member),
    List.filterMap_eq_nil_iff.2 fun entry member => settled (NameMap.mem_toList_iff.1 member)]

/-! ## How the search ends -/

/-- A search for drift fails at a number that cannot grow, whatever it is asked for. -/
theorem fault_of_detectIn {bumpFor : String → Version.Bump} {entries : List (String × Version)}
    {fault : Version.Fault}
    (failed : (detectIn bumpFor previous entries).value = .error fault) :
    fault = .exhausted lastNumber := by
  by_cases stop : ∃ entry ∈ entries, Stops bumpFor previous entry
  · obtain ⟨-, name, -, -, before, cause, -, -, -, bumped, value⟩ := detectIn_stops stop
    cases value.symm.trans failed
    rw [Version.Bump.apply_eq] at bumped
    split at bumped
    · cases bumped
      rfl
    · cases bumped
  · rw [detectIn_grows fun entry member stops => stop ⟨entry, member, stops⟩] at failed
    cases failed

/-- If some contract blocks the search, it ends with the fault of the first of them. -/
theorem detect_blocked (blocked : ∃ name, Blocks report previous current name) :
    ∃ name before fault, Blocks report previous current name ∧
      (∀ other, Blocks report previous current other → name ≤ other) ∧
      previous.get? name = some before ∧ (report.bumpFor name).apply before = .error fault ∧
      (detect report previous current).value = .error fault := by
  have stop : ∃ entry ∈ current.toList, Stops report.bumpFor previous entry := by
    obtain ⟨name, blocks⟩ := blocked
    obtain ⟨now, told⟩ := blocks.told
    exact ⟨(name, now), NameMap.mem_toList_iff.2 told, (stops_iff_blocks told).2 blocks⟩
  obtain ⟨front, name, now, rest, before, fault, split, calm, old, failed, value⟩ :=
    detectIn_stops stop
  have told : current.get? name = some now :=
    NameMap.mem_toList_iff.1 (split ▸ List.mem_append_right front List.mem_cons_self)
  refine ⟨name, before, fault, (stops_iff_blocks told).1 ⟨before, fault, old, failed⟩,
    fun other blocks => ?_, old, failed, value⟩
  -- Another one that blocks the search is not passed before the first, so it comes after.
  obtain ⟨now', told'⟩ := blocks.told
  have member : (other, now') ∈ front ++ (name, now) :: rest :=
    split ▸ NameMap.mem_toList_iff.2 told'
  rcases List.mem_append.1 member with passed | member
  · exact absurd ((stops_iff_blocks told').2 blocks) (calm _ passed)
  rcases List.mem_cons.1 member with here | after
  · cases here
    exact String.le_refl name
  · have ascending := current.ascending
    rw [show current.entries = _ from split] at ascending
    have later : name < other :=
      (List.pairwise_cons.1 (List.pairwise_append.1 ascending).2.1).1 _ after
    exact String.not_lt.1 fun earlier => String.lt_irrefl name (String.lt_trans later earlier)

/-- If none does, it finds the drift of every contract. -/
theorem detect_free (free : ∀ name, ¬ Blocks report previous current name) :
    (detect report previous current).value =
      .ok (current.toList.filterMap (of? report.bumpFor previous)) := by
  refine detectIn_grows fun entry member stops => ?_
  exact free entry.1 ((stops_iff_blocks (NameMap.mem_toList_iff.1 member)).1 stops)

end Found

/-- **The search for drift is sound, complete and repairable**, for any report. It
fails exactly if in some contract of both builds the bump would overflow, with the
fault of the first such contract. Otherwise it finds, once each and in ascending
order, the contracts of both builds whose new version is not the old one after its
bump, with these three versions; and once they tell the expected versions, it finds
nothing. -/
theorem detect_repairable (report : DetailedReport) (previous current : NameMap Version) :
    ((∃ fault, (detect report previous current).value = .error fault) ↔
      ∃ name entry before, report.contracts.get? name = some entry ∧
        (∃ part, entry.bump.delta part = .increment ∧ before.part part = lastNumber) ∧
        previous.get? name = some before ∧ (current.get? name).isSome) ∧
    (∀ fault, (detect report previous current).value = .error fault →
      ∃ name before, Blocks report previous current name ∧
        (∀ other, Blocks report previous current other → name ≤ other) ∧
        previous.get? name = some before ∧ (report.bumpFor name).apply before = .error fault) ∧
    ∀ drift, (detect report previous current).value = .ok drift →
      (drift.Pairwise fun d e => d.contract < e.contract) ∧
      (∀ d, d ∈ drift ↔
        previous.get? d.contract = some d.previous ∧ current.get? d.contract = some d.reported ∧
          d.expected = report.nextVersion d.contract d.previous ∧ d.expected ≠ d.reported) ∧
      (detect report previous (repaired current drift)).value = .ok [] := by
  by_cases blocked : ∃ name, Blocks report previous current name
  · obtain ⟨name, before, fault, blocks, least, old, failed, value⟩ := detect_blocked blocked
    rw [value]
    refine ⟨⟨fun _ => blocked, fun _ => ⟨fault, rfl⟩⟩, fun other same => ?_, fun drift same => ?_⟩
    · cases same
      exact ⟨name, before, blocks, least, old, failed⟩
    · cases same
  · have free (name : String) : ¬ Blocks report previous current name :=
      fun blocks => blocked ⟨name, blocks⟩
    rw [detect_free free]
    refine ⟨⟨?_, fun blocks => absurd blocks blocked⟩, fun fault same => ?_, fun drift same => ?_⟩
    · rintro ⟨fault, same⟩
      cases same
    · cases same
    · cases same
      exact ⟨ascending_drift current, fun d => mem_drift_iff free, detect_repaired free⟩

/-- A report that no changes lead to: the token grows in two parts. -/
def oddReport : DetailedReport where
  whole := .ofBuckets .empty
  contracts := .ofList [("Token", ⟨.empty, ⟨.keep, .increment, .increment, .reset⟩⟩)]

def oldVersions : NameMap Version :=
  .ofList [("Vault", ⟨1, 0, 0, 0⟩), ("Token", ⟨1, 2, 3, 4⟩), ("Gone", ⟨9, 9, 9, 9⟩)]

def newVersions : NameMap Version :=
  .ofList [("Vault", ⟨2, 0, 0, 0⟩), ("Token", ⟨1, 2, 3, 4⟩), ("Novel", ⟨0, 1, 0, 0⟩)]

/-- The vault is not in the report and should have stayed; with a token that cannot
grow the search ends there and does not come to the vault. -/
theorem detect_repairable_odd :
    let drift : List Drift := [⟨"Token", ⟨1, 2, 3, 4⟩, ⟨1, 3, 4, 0⟩, ⟨1, 2, 3, 4⟩⟩,
      ⟨"Vault", ⟨1, 0, 0, 0⟩, ⟨1, 0, 0, 0⟩, ⟨2, 0, 0, 0⟩⟩]
    let full := oldVersions.insert "Token" ⟨1, 2, lastNumber, 4⟩
    (detect oddReport oldVersions newVersions).value = .ok drift ∧
      (detect oddReport oldVersions (repaired newVersions drift)).value = .ok [] ∧
      (detect oddReport full newVersions).value = .error (.exhausted lastNumber) ∧
      ∃ name, Blocks oddReport full newVersions name ∧
        ∀ other, Blocks oddReport full newVersions other → name ≤ other := by
  intro drift full
  have found : (detect oddReport oldVersions newVersions).value = .ok drift := rfl
  have failed : (detect oddReport full newVersions).value = .error (.exhausted lastNumber) :=
    rfl
  obtain ⟨-, -, complete⟩ := detect_repairable oddReport oldVersions newVersions
  obtain ⟨-, first, -⟩ := detect_repairable oddReport full newVersions
  obtain ⟨name, -, blocks, least, -⟩ := first _ failed
  exact ⟨found, (complete drift found).2.2, failed, name, blocks, least⟩

end Drift

end ReleaseGate
