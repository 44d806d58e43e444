/-
# Proofs.Form.Diffs — the changes of a diff that was read

A change keeps all keys of its document but its own two, so nothing in it stands
under these, and no key stands twice: a repeated key takes the place of the first
(`readChangeFields_open`). That holds for every change of a diff that was read from
a text or from a value that was read from one (`distinct_of_readDiff`).
-/
import ReleaseGate.Form.Diff
import ReleaseGate.Proofs.Form.Records
import ReleaseGate.Proofs.Json.Places

namespace ReleaseGate

set_option autoImplicit false

namespace Form

open Json (Place ValueSource)
open Record

variable {ν : Type} [ValueSource ν]

/-- Parts that lead to parts of their kind, and whose values hold no key twice. -/
structure KeepsKeys (good : ν → Prop) : Prop where
  items : ∀ {part}, good part → ∀ items closed, Source.shape part = .list items closed →
    ∀ item ∈ items, good item
  fields : ∀ {part}, good part → ∀ fields closed, Source.shape part = .map fields closed →
    ∀ field ∈ fields, good field.2
  value : ∀ {part j}, good part → ValueSource.toJson? part = some j → j.Distinct

theorem keepsKeys_place : KeepsKeys fun _ : Place => True where
  items _ _ _ _ _ _ := trivial
  fields _ _ _ _ _ _ := trivial
  value _ read := Json.distinct_of_toJson? _ read

theorem keepsKeys_json : KeepsKeys Json.Distinct where
  items := by
    intro part distinct items closed shown item member
    cases distinct with
    | list each =>
        cases shown
        exact each item member
    | number n => cases n <;> cases shown
    | _ => cases shown
  fields := by
    intro part distinct fields closed shown field member
    cases distinct with
    | object keys each =>
        cases shown
        obtain ⟨entry, isIn, rfl⟩ := List.mem_map.1 member
        exact each entry isIn
    | number n => cases n <;> cases shown
    | _ => cases shown
  value := by
    intro part j distinct read
    cases read
    exact distinct

/-- Details that may stand beside the keys of a change. -/
structure Open (details : List (String × Json)) : Prop where
  keys : (details.map Prod.fst).Nodup
  free : ∀ detail ∈ details, detail.1 ≠ "contractName" ∧ detail.1 ≠ "kind"
  each : ∀ detail ∈ details, detail.2.Distinct

theorem Open.setField {details : List (String × Json)} (isOpen : Open details) {key : String}
    {value : Json} (free : key ≠ "contractName" ∧ key ≠ "kind") (distinct : value.Distinct) :
    Open (Json.setField key value details) where
  keys := Json.nodup_setField key value isOpen.keys
  free detail member := by
    rcases Json.mem_setField member with rfl | member
    · exact free
    · exact isOpen.free detail member
  each detail member := by
    rcases Json.mem_setField member with rfl | member
    · exact distinct
    · exact isOpen.each detail member

theorem Open.distinct {c : Change} (isOpen : Open c.details) : (changeJson c).Distinct := by
  have noContract : "contractName" ∉ c.details.map Prod.fst := by
    intro member
    obtain ⟨detail, isIn, same⟩ := List.mem_map.1 member
    exact (isOpen.free detail isIn).1 same
  have noKind : "kind" ∉ c.details.map Prod.fst := by
    intro member
    obtain ⟨detail, isIn, same⟩ := List.mem_map.1 member
    exact (isOpen.free detail isIn).2 same
  refine .object (by simp [noContract, noKind, isOpen.keys]) ?_
  simp only [List.forall_mem_cons]
  exact ⟨.text _, .text _, isOpen.each⟩

variable {good : ν → Prop}

/-- Reading the fields of a change keeps its details open. -/
theorem readChangeFields_open (keeps : KeepsKeys good) {fields : List (Option String × ν)}
    (parts : ∀ field ∈ fields, good field.2) {s s' : ChangeSoFar} (start : Open s.details)
    (read : readChangeFields fields s = .ok s') : Open s'.details := by
  fun_induction readChangeFields fields s with
  | case1 s =>
      cases read
      exact start
  | case2 | case3 | case5 | case8 => cases read
  | case4 part rest s _ ih | case6 part rest s _ ih =>
      obtain ⟨text, -, others⟩ := bind_eq_ok.1 read
      exact ih text (List.forall_mem_cons.1 parts).2 start others
  | case7 key part rest s noContract noKind value found ih =>
      obtain ⟨here, others⟩ := List.forall_mem_cons.1 parts
      exact ih others (start.setField ⟨noContract, noKind⟩ (keeps.value here found)) read

theorem readChange_open (keeps : KeepsKeys good) {part : ν} (isGood : good part) {c : Change}
    (read : readChange part = .ok c) : Open c.details := by
  unfold readChange at read
  split at read
  · next fields closed shown =>
      obtain ⟨s, gathered, finishes⟩ := bind_eq_ok.1 read
      have isOpen : Open s.details :=
        readChangeFields_open (s := {}) keeps (keeps.fields isGood _ _ shown)
          ⟨List.nodup_nil, by simp, by simp⟩ gathered
      cases closed with
      | false => cases finishes
      | true =>
          simp only [Bool.not_true, Bool.false_eq_true, if_false] at finishes
          split at finishes
          · cases finishes
            exact isOpen
          · cases finishes
  · cases read

/-- Whether no key stands twice in the changes read so far. -/
def DiffSoFar.Distinct (s : DiffSoFar) : Prop :=
  ∀ changes, s.changes = some changes → ∀ c ∈ changes, (changeJson c).Distinct

/-- **No key stands twice in a change of a diff that was read.** -/
theorem distinct_of_readDiff (keeps : KeepsKeys good) {part : ν} (isGood : good part) {diff : Diff}
    (read : readDiff part = .ok diff) : ∀ c ∈ diff.changes, (changeJson c).Distinct := by
  have kept : ∀ field ∈ diffLayout.fields, ∀ part (s s' : DiffSoFar), good part → s.Distinct →
      field.read part s = .ok s' → s'.Distinct := by
    intro field member part s s' isGood before readField
    simp only [diffLayout, List.mem_cons, List.not_mem_nil, or_false] at member
    rcases member with rfl | rfl
    · obtain ⟨changes, readChanges, rfl⟩ := fieldOf_eq_ok readField
      rintro _ ⟨⟩ c member
      obtain ⟨items, closed, shown, item, isIn, found⟩ := exists_of_mem_readList readChanges member
      exact (readChange_open keeps (keeps.items isGood _ _ shown item isIn) found).distinct
    · obtain ⟨layouts, -, rfl⟩ := fieldOf_eq_ok readField
      exact before
  have blank : ({} : DiffSoFar).Distinct := fun _ none => by cases none
  obtain ⟨byName, s, gathered, finishes⟩ :=
    Layout.exists_of_read (keeps.items isGood) (keeps.fields isGood) blank kept read
  obtain ⟨changes, hasChanges, finishes⟩ := bind_eq_ok.1 finishes
  obtain ⟨layouts, -, same⟩ := bind_eq_ok.1 finishes
  cases same
  exact gathered _ (need_eq_ok hasChanges)

end Form

/-! ## Diffs that were read -/

/-- Whether a diff was read from a JSON text, or from a value that was read from one. -/
def Diff.WasRead (diff : Diff) : Prop :=
  (∃ text, (Json.Document.ofText text).read Form.readDiff = .ok diff) ∨
    ∃ text json, Json.ofText? text = some json ∧ Form.readDiff json = .ok diff

theorem Diff.WasRead.distinct {diff : Diff} (wasRead : diff.WasRead) :
    ∀ c ∈ diff.changes, (Form.changeJson c).Distinct := by
  rcases wasRead with ⟨text, read⟩ | ⟨text, json, scanned, read⟩
  · obtain ⟨-, readRoot⟩ := Json.Document.exists_of_read read
    exact Form.distinct_of_readDiff Form.keepsKeys_place trivial readRoot
  · exact Form.distinct_of_readDiff Form.keepsKeys_json (Json.distinct_of_ofText? scanned) read

end ReleaseGate
