/-
# Proofs.Json.Fields — fields set one after the other

An object that is read from left to right holds each key once: a key keeps the place
where it first comes up (`keys_setAll`) and has the value that it is last given
(`lookup_setAll`). Where no key stands twice the fields are known by these two, the order
of the keys and the value under each (`eq_of_keys`), and by the values alone up to their
order (`perm_of_lookup`).
-/
import Mathlib.Data.List.Induction
import Mathlib.Data.List.Nodup
import ReleaseGate.Proofs.Json.Places

namespace ReleaseGate.Json

set_option autoImplicit false

variable {fields fields' : List (String × Json)}

/-! ## Setting fields -/

theorem lookup_cons (asked key : String) (value : Json) (rest : List (String × Json)) :
    List.lookup asked ((key, value) :: rest) =
      if asked = key then some value else rest.lookup asked := by
  rw [List.lookup_cons]
  by_cases same : asked = key
  · simp [same]
  · rw [beq_false_of_ne same, if_neg same]

theorem lookup_setField (key : String) (value : Json) (fields : List (String × Json))
    (asked : String) :
    (setField key value fields).lookup asked =
      if asked = key then some value else fields.lookup asked := by
  induction fields with
  | nil => exact lookup_cons asked key value []
  | cons field rest ih =>
      obtain ⟨k, v⟩ := field
      by_cases here : k = key
      · subst here
        rw [setField, if_pos rfl, lookup_cons, lookup_cons]
        by_cases same : asked = k <;> simp [same]
      · rw [setField, if_neg here, lookup_cons, lookup_cons, ih]
        by_cases same : asked = k <;> simp [same, here]

/-- Fields set one after the other. -/
def setAll (fields : List (String × Json)) : List (String × Json) :=
  fields.foldl (fun done field => setField field.1 field.2 done) []

theorem setAll_concat (fields : List (String × Json)) (field : String × Json) :
    setAll (fields ++ [field]) = setField field.1 field.2 (setAll fields) := by
  simp [setAll]

/-- Keys stand in the order in which they first come up. -/
theorem keys_setAll (fields : List (String × Json)) :
    (setAll fields).map Prod.fst = (fields.map Prod.fst).eraseDups := by
  induction fields using List.reverseRecOn with
  | nil => rfl
  | append_singleton front field ih =>
      rw [setAll_concat, keys_setField, ih, List.map_append, List.eraseDups_append]
      by_cases there : field.1 ∈ front.map Prod.fst
      · simp [List.removeAll, there]
      · simp [List.removeAll, there, List.eraseDups_cons]

/-- The value that a key is last given is its value. -/
theorem lookup_setAll (fields : List (String × Json)) (key : String) :
    (setAll fields).lookup key = fields.reverse.lookup key := by
  induction fields using List.reverseRecOn with
  | nil => rfl
  | append_singleton front field ih =>
      rw [setAll_concat, lookup_setField, ih, List.reverse_concat, lookup_cons]

theorem nodup_setAll (fields : List (String × Json)) : ((setAll fields).map Prod.fst).Nodup := by
  induction fields using List.reverseRecOn with
  | nil => exact .nil
  | append_singleton front field ih =>
      rw [setAll_concat]
      exact nodup_setField _ _ ih

/-- Fields are kept as they are where no key stands twice. -/
theorem setAll_of_nodup (distinct : (fields.map Prod.fst).Nodup) : setAll fields = fields := by
  induction fields using List.reverseRecOn with
  | nil => rfl
  | append_singleton front field ih =>
      rw [List.map_append, List.nodup_append] at distinct
      obtain ⟨before, -, apart⟩ := distinct
      have new : field.1 ∉ front.map Prod.fst :=
        fun member => apart _ member _ (List.mem_singleton_self _) rfl
      rw [setAll_concat, ih before, setField_new new]

/-! ## Fields as a look-up -/

/-- Where no key stands twice a field is what is found under its key. -/
theorem mem_iff_lookup (distinct : (fields.map Prod.fst).Nodup) {field : String × Json} :
    field ∈ fields ↔ fields.lookup field.1 = some field.2 := by
  obtain ⟨key, value⟩ := field
  induction fields with
  | nil => simp
  | cons first rest ih =>
      obtain ⟨fresh, apart⟩ := List.nodup_cons.1 distinct
      rw [List.mem_cons, ih apart, lookup_cons]
      by_cases same : key = first.1
      · subst same
        have gone : rest.lookup first.1 = none := List.lookup_eq_none_iff.2 fun other member =>
          bne_iff_ne.2 fun again => fresh (again ▸ List.mem_map_of_mem member)
        simp [gone, Prod.ext_iff, eq_comm]
      · simp [same, Prod.ext_iff]

/-- Fields with the same values are the same but for their order. -/
theorem perm_of_lookup (distinct : (fields.map Prod.fst).Nodup)
    (distinct' : (fields'.map Prod.fst).Nodup)
    (same : ∀ key, fields.lookup key = fields'.lookup key) : fields.Perm fields' := by
  refine (List.perm_ext_iff_of_nodup (List.Nodup.of_map _ distinct)
    (List.Nodup.of_map _ distinct')).2 fun field => ?_
  rw [mem_iff_lookup distinct, mem_iff_lookup distinct', same]

/-- Fields with the same values under keys in the same order are the same. -/
theorem eq_of_keys (distinct : (fields.map Prod.fst).Nodup)
    (keys : fields.map Prod.fst = fields'.map Prod.fst)
    (same : ∀ key, fields.lookup key = fields'.lookup key) : fields = fields' := by
  have told {fields : List (String × Json)} (distinct : (fields.map Prod.fst).Nodup) :
      fields.map (fun field => (field.1, some field.2)) =
        (fields.map Prod.fst).map fun key => (key, fields.lookup key) := by
    rw [List.map_map]
    refine List.map_congr_left fun field member => ?_
    exact congrArg (Prod.mk field.1) ((mem_iff_lookup distinct).1 member).symm
  have values : fields.map (fun field => (field.1, some field.2)) =
      fields'.map fun field => (field.1, some field.2) := by
    rw [told distinct, told (keys ▸ distinct), keys]
    simp only [same]
  refine List.map_injective_iff.2 ?_ values
  rintro ⟨key, value⟩ ⟨key', value'⟩ equal
  simpa using equal

end ReleaseGate.Json
