/-
# Proofs.Form.Releases — a release reads back from its document

A reader undoes a writer if it makes of every written value what was written
(`Undoes`). Lists and maps of names carry this over from what is in them, and a
record from its fields, so the readers of a release are gone through from the
versions and names at the leaves up to the release itself (`readRelease_undoes`).

A change is the one record that is open: any keys may stand beside its own two. It
reads back because no key of a written object stands twice.
-/
import ReleaseGate.Form.Release
import ReleaseGate.Proofs.Form.Records
import ReleaseGate.Proofs.Json.Places
import ReleaseGate.Proofs.Names

namespace ReleaseGate

set_option autoImplicit false

namespace Form

open Json (Place Fits place)
open Record

/-- Whether a reader makes of every written value what was written. -/
def Undoes {α : Type} (read : Place → Except Refusal α) (json : α → Json) : Prop :=
  ∀ ⦃depth : Nat⦄ (value : α), Fits depth (json value) →
    read (place depth (json value)) = .ok value

variable {α : Type}

/-- What a reader undoes is had back from its text, if the text fits. -/
theorem Undoes.read_write {read : Place → Except Refusal α} {json : α → Json}
    (undoes : Undoes read json) {value : α} (clean : (json value).Clean)
    (shallow : (json value).nesting ≤ Json.depthLimit) :
    (Json.Document.ofText (json value).write).read read = .ok value := by
  have root : read (Place.root (json value).draft) = .ok value := undoes value ⟨clean, shallow⟩
  rw [Json.ofText_write clean, Json.Document.read, root, bind_ok]
  rfl

/-! ## Leaves -/

theorem readText_undoes : Undoes readText Json.text := fun _ _ _ => readText_of_shape rfl

theorem readBoolean_undoes : Undoes readBoolean Json.bool := fun _ _ _ => readBoolean_of_shape rfl

theorem readVersion_undoes : Undoes readVersion versionJson := fun _ _ _ => readVersion_of_shape rfl

theorem readDelta_undoes : Undoes readDelta fun d => .text (deltaName d) := by
  intro depth d _
  cases d with
  | keep => exact readVariant_of_lookup rfl rfl
  | increment => exact readVariant_of_lookup rfl rfl
  | reset => exact readVariant_of_lookup rfl rfl

/-! ## Lists and maps -/

theorem readList_undoes {read : Place → Except Refusal α} {json : α → Json}
    (undoes : Undoes read json) : Undoes (readList read) fun items => .list (items.map json) := by
  intro depth items fits
  obtain ⟨inner, rfl, each⟩ := fits.of_list
  have shown := Json.shape_list inner (items.map json)
  rw [List.map_map] at shown
  exact readList_of_shape (fun item => place inner (json item)) shown fun item member =>
    undoes item (each (json item) (List.mem_map_of_mem member))

theorem readNameMap_undoes {read : Place → Except Refusal α} {json : α → Json}
    (undoes : Undoes read json) : Undoes (readNameMap read) (nameMapJson json) := by
  intro depth m fits
  obtain ⟨inner, rfl, -, each⟩ := fits.of_object
  have shown := Json.shape_object inner (m.toList.map fun entry => (entry.1, json entry.2))
  rw [List.map_map] at shown
  have entries : readMap read (place (inner + 1) (nameMapJson json m)) = .ok m.toList :=
    readMap_of_shape (fun value => place inner (json value)) shown fun entry member =>
      undoes entry.2 (each (entry.1, json entry.2) (List.mem_map_of_mem member))
  rw [readNameMap, entries, bind_ok, NameMap.ofList_toList]
  rfl

/-! ## Records -/

/-- A record reads back if its fields, read by their names, fill it. -/
theorem undoes_of_layout {σ : Type} (layout : Layout Place σ α) (state : α → σ)
    {fields : α → List (String × Json)}
    (filled : ∀ inner record, (∀ field ∈ fields record, Fits inner field.2) →
      readNamed layout.fields
        ((fields record).map fun field => (some field.1, place inner field.2)) layout.blank =
          .ok (state record))
    (finished : ∀ record, layout.finish true (state record) = .ok record) :
    Undoes layout.read fun record => .object (fields record) := by
  intro depth record fits
  obtain ⟨inner, rfl, -, each⟩ := fits.of_object
  exact Layout.read_of_shape (Json.shape_object inner (fields record)) (filled inner record each)
    (finished record)

theorem readBump_undoes : Undoes readBump bumpJson := by
  refine undoes_of_layout bumpLayout
    (fun b => ⟨some b.storage, some b.major, some b.minor, some b.patch⟩) (fun inner b each => ?_)
    fun _ => rfl
  simp only [List.forall_mem_cons] at each
  obtain ⟨storage, major, minor, patch, -⟩ := each
  simp [bumpLayout, fieldOf, readNamed, readDelta_undoes _ storage, readDelta_undoes _ major,
    readDelta_undoes _ minor, readDelta_undoes _ patch, bind_ok, pure, Except.pure]

theorem readVerdict_undoes : Undoes readVerdict verdictJson := by
  refine undoes_of_layout verdictLayout (fun l => ⟨some l.contract, some l.compatible⟩)
    (fun inner l each => ?_) fun _ => rfl
  simp only [List.forall_mem_cons] at each
  obtain ⟨contract, compatible, -⟩ := each
  simp [verdictLayout, fieldOf, readNamed, readText_undoes _ contract,
    readBoolean_undoes _ compatible, bind_ok, pure, Except.pure]

/-! ## Changes -/

/-- Details are gathered in order if none of their keys is a change's own or stands twice. -/
theorem readChangeFields_details {inner : Nat} {details : List (String × Json)} {s : ChangeSoFar}
    (distinct : ((s.details ++ details).map Prod.fst).Nodup)
    (free : ∀ detail ∈ details, detail.1 ≠ "contractName" ∧ detail.1 ≠ "kind")
    (each : ∀ detail ∈ details, Fits inner detail.2) :
    readChangeFields (details.map fun detail => (some detail.1, place inner detail.2)) s =
      .ok { s with details := s.details ++ details } := by
  induction details generalizing s with
  | nil => simp [readChangeFields]
  | cons detail rest ih =>
      obtain ⟨noContract, noKind⟩ := free detail List.mem_cons_self
      have value : Json.ValueSource.toJson? (place inner detail.2) = some detail.2 :=
        Json.toJson?_draft (each detail List.mem_cons_self)
      have new : detail.1 ∉ s.details.map Prod.fst := by
        rw [List.map_append] at distinct
        exact fun member => (List.nodup_append.1 distinct).2.2 _ member _ List.mem_cons_self rfl
      have others := ih (s := { s with details := s.details ++ [detail] })
        (by simpa using distinct)
        (fun other member => free other (List.mem_cons_of_mem _ member))
        (fun other member => each other (List.mem_cons_of_mem _ member))
      rw [List.map_cons, readChangeFields]
      · simp [value, Json.setField_new new, others]
      · exact noContract
      · exact noKind

theorem readChange_undoes : Undoes readChange changeJson := by
  intro depth c fits
  obtain ⟨inner, rfl, keys, each⟩ := fits.of_object
  simp only [List.forall_mem_cons] at each
  obtain ⟨contract, kind, details⟩ := each
  have shown := Json.shape_object inner
    (("contractName", .text c.contract) :: ("kind", .text c.kind) :: c.details)
  simp only [List.map_cons, List.nodup_cons, List.mem_cons, not_or] at keys
  obtain ⟨⟨-, noContract⟩, noKind, distinct⟩ := keys
  have free : ∀ detail ∈ c.details, detail.1 ≠ "contractName" ∧ detail.1 ≠ "kind" := by
    intro detail member
    exact ⟨fun same => noContract (same ▸ List.mem_map_of_mem member),
      fun same => noKind (same ▸ List.mem_map_of_mem member)⟩
  have gathered := readChangeFields_details (s := ⟨some c.contract, some c.kind, []⟩) distinct free
    details
  rw [readChange, changeJson, shown]
  simp [readChangeFields, readText_undoes _ contract, readText_undoes _ kind, bind_ok, gathered,
    pure, Except.pure]

/-! ## Reports, drift and releases -/

theorem readBuckets_undoes : Undoes readBuckets bucketsJson := by
  refine undoes_of_layout bucketsLayout
    (fun b => ⟨some b.storage, some b.major, some b.minor, some b.patch⟩) (fun inner b each => ?_)
    fun _ => rfl
  simp only [List.forall_mem_cons] at each
  obtain ⟨storage, major, minor, patch, -⟩ := each
  have storage := readList_undoes readVerdict_undoes b.storage storage
  have major := readList_undoes readChange_undoes b.major major
  have minor := readList_undoes readChange_undoes b.minor minor
  have patch := readList_undoes readChange_undoes b.patch patch
  simp [bucketsLayout, fieldOf, readNamed, storage, major, minor, patch, bind_ok, pure, Except.pure]

theorem readReport_undoes : Undoes readReport reportJson := by
  refine undoes_of_layout reportLayout (fun r => ⟨some r.changes, some r.bump⟩)
    (fun inner r each => ?_) fun _ => rfl
  simp only [List.forall_mem_cons] at each
  obtain ⟨changes, bump, -⟩ := each
  simp [reportLayout, fieldOf, readNamed, readBuckets_undoes _ changes, readBump_undoes _ bump,
    bind_ok, pure, Except.pure]

theorem readDetailedReport_undoes : Undoes readDetailedReport detailedReportJson := by
  refine undoes_of_layout detailedLayout (fun r => ⟨some r.whole, some r.contracts⟩)
    (fun inner r each => ?_) fun _ => rfl
  simp only [List.forall_mem_cons] at each
  obtain ⟨whole, contracts, -⟩ := each
  have contracts := readNameMap_undoes readReport_undoes r.contracts contracts
  simp [detailedLayout, fieldOf, readNamed, readReport_undoes _ whole, contracts, bind_ok, pure,
    Except.pure]

theorem readDrift_undoes : Undoes readDrift driftJson := by
  refine undoes_of_layout driftLayout
    (fun d => ⟨some d.contract, some d.previous, some d.expected, some d.reported⟩)
    (fun inner d each => ?_) fun _ => rfl
  simp only [List.forall_mem_cons] at each
  obtain ⟨contract, previous, expected, reported, -⟩ := each
  simp [driftLayout, fieldOf, readNamed, readText_undoes _ contract, readVersion_undoes _ previous,
    readVersion_undoes _ expected, readVersion_undoes _ reported, bind_ok, pure, Except.pure]

/-- **A release reads back from what is written of it.** -/
theorem readRelease_undoes : Undoes readRelease releaseJson := by
  refine undoes_of_layout releaseLayout
    (fun r => ⟨some r.report, some r.previous, some r.current, some r.drift⟩)
    (fun inner r each => ?_) fun _ => rfl
  simp only [List.forall_mem_cons] at each
  obtain ⟨report, previous, current, drift, -⟩ := each
  have previous := readNameMap_undoes readVersion_undoes r.previous previous
  have current := readNameMap_undoes readVersion_undoes r.current current
  have drift := readList_undoes readDrift_undoes r.drift drift
  simp [releaseLayout, fieldOf, readNamed, readDetailedReport_undoes _ report, previous, current,
    drift, bind_ok, pure, Except.pure]

end Form

end ReleaseGate
