/-
# Proofs.Form.Artifacts — which values are artifacts

A value that was read holds no key twice, so the fields of an artifact can be told apart
by their keys wherever they stand. A value that names a contract is an artifact unless
something other than a text stands for its bytecode (`readArtifact_of_name`).
-/
import ReleaseGate.Form.Build
import ReleaseGate.Proofs.Form.Records
import ReleaseGate.Proofs.Json.Places

namespace ReleaseGate

set_option autoImplicit false

namespace Form

open Record Build

/-! ## Texts among values -/

theorem readText_json_eq_ok_iff {value : Json} {s : String} :
    readText value = .ok s ↔ value = .text s := by
  cases value with
  | number n => cases n <;> simp [readText, Source.shape, Json.shape]
  | _ => simp [readText, Source.shape, Json.shape]

/-- In a value that was read nothing is malformed. -/
theorem exists_mismatch_of_readText {value : Json} {refusal : Refusal}
    (refused : readText value = .error refusal) : ∃ m, refusal = .mismatch m := by
  cases value with
  | text s => cases refused
  | number n => cases n <;> exact ⟨_, (Except.error.inj refused).symm⟩
  | _ => exact ⟨_, (Except.error.inj refused).symm⟩

/-! ## Artifacts -/

/-- The text of a value, if it is one. -/
def textOf? : Option Json → Option String
  | some (.text s) => some s
  | _ => none

/-- What the value of the bytecode says, if there is one. -/
def readBytecode : Option Json → Except Refusal (Option String)
  | none => .ok none
  | some part => (readText part).map some

/-- The fields of an artifact are read from what stands under their keys, where no key of a
field that is set is still to come. -/
theorem readNamed_artifact {fields : List (String × Json)} {s : ArtifactSoFar}
    (distinct : (fields.map Prod.fst).Nodup)
    (newName : s.name.isSome → fields.lookup "contractName" = none)
    (newCode : s.bytecode.isSome → fields.lookup "deployedBytecode" = none)
    (texts : ∀ part, fields.lookup "contractName" = some part → ∃ name, part = .text name) :
    readNamed artifactLayout.fields (fields.map fun field => (some field.1, field.2)) s =
      (readBytecode (fields.lookup "deployedBytecode")).map fun code =>
        ⟨textOf? (fields.lookup "contractName") <|> s.name, code <|> s.bytecode⟩ := by
  induction fields generalizing s with
  | nil => rfl
  | cons field rest ih =>
      obtain ⟨key, part⟩ := field
      obtain ⟨fresh, apart⟩ := List.nodup_cons.1 distinct
      -- a key that has come up does not come up again, so its field may be set
      have gone : rest.lookup key = none := List.lookup_eq_none_iff.2 fun other member =>
        bne_iff_ne.2 fun same => fresh (List.mem_map.2 ⟨other, member, same.symm⟩)
      have past (asked : String) (differs : key ≠ asked) :
          List.lookup asked ((key, part) :: rest) = rest.lookup asked := by
        rw [List.lookup_cons, beq_false_of_ne differs.symm]
      rw [List.map_cons]
      by_cases isName : key = "contractName"
      · subst isName
        obtain ⟨name, rfl⟩ := texts part List.lookup_cons_self
        have unset : s.name = none := Option.not_isSome_iff_eq_none.1 (mt newName (by simp))
        rw [past "deployedBytecode" (by decide), List.lookup_cons_self]
        rw [past "deployedBytecode" (by decide)] at newCode
        have others := ih (s := ⟨some name, s.bytecode⟩) apart (fun _ => gone) newCode
          (by simp [gone])
        rw [gone] at others
        rw [readNamed_known rfl (by simp [fieldOf, unset])]
        exact others
      · rw [past _ isName] at newName texts ⊢
        by_cases isCode : key = "deployedBytecode"
        · subst isCode
          have unset : s.bytecode = none := Option.not_isSome_iff_eq_none.1 (mt newCode (by simp))
          rw [readNamed_known rfl (by simp [fieldOf, unset]), List.lookup_cons_self]
          cases code : readText part with
          | error refusal =>
              simp only [fieldOf, readBytecode, code]
              rfl
          | ok text =>
              have others := ih (s := ⟨s.name, some text⟩) apart newName (fun _ => gone) texts
              rw [gone] at others
              simpa [readBytecode, code, fieldOf, bind_ok, Except.map] using others
        · rw [past _ isCode] at newCode ⊢
          rw [readNamed_unknown
            (by simp [artifactLayout, fieldOf, Ne.symm isName, Ne.symm isCode]) rfl]
          exact ih apart newName newCode texts

/-- **A value that names a contract is an artifact unless its bytecode is no text**; one
without bytecode has the empty text. -/
theorem readArtifact_of_name {value : Json} {name : String} (distinct : value.Distinct)
    (named : value.field? "contractName" = some (.text name)) :
    readArtifact value =
      (readBytecode (value.field? "deployedBytecode")).map fun code => ⟨name, code.getD ""⟩ := by
  cases distinct with
  | @object fields keys each =>
      have texts : ∀ part, fields.lookup "contractName" = some part →
          ∃ name, part = Json.text name :=
        fun part found => ⟨name, Option.some.inj (found.symm.trans named)⟩
      have read := readNamed_artifact (s := {}) keys (by simp) (by simp) texts
      simp only [Json.field?] at named ⊢
      rw [named] at read
      cases code : readBytecode (fields.lookup "deployedBytecode") with
      | error refusal =>
          rw [code] at read
          exact Layout.read_of_refused rfl read
      | ok found =>
          rw [code] at read
          refine Layout.read_of_shape rfl read ?_
          cases found <;> rfl
  | _ => cases named

end Form

end ReleaseGate
