/-
# Proofs.Names — a name map is its look-up

Whatever is done to a map of names, what it holds is told by `NameMap.get?`
alone: two maps with the same look-up are equal, since the names ascend.

* `mem_toList_iff`: the entries are the names with their values;
* `eq_of_ascending`, `ext_get?`: equal members or look-ups, equal lists or maps;
* `get?_ofList`: of the pairs with one name the last counts;
* `get?_foldl_update`: records gathered under their keys come to each name on
  their own, in their order, whatever stands between them.
-/
import Mathlib.Data.List.Pairwise
import ReleaseGate.NameMap

namespace ReleaseGate.NameMap

set_option autoImplicit false

variable {α β ρ : Type}

/-! ## Look-up in a list of pairs -/

theorem lookup_append (name : String) (front back : List (String × α)) :
    lookup name (front ++ back) = (lookup name front).or (lookup name back) := by
  induction front with
  | nil => rfl
  | cons entry rest ih =>
      obtain ⟨key, value⟩ := entry
      by_cases same : key = name
      · simp [lookup, same]
      · simpa [lookup, same] using ih

theorem mem_of_lookup {name : String} {value : α} {entries : List (String × α)}
    (found : lookup name entries = some value) : (name, value) ∈ entries := by
  induction entries with
  | nil => simp [lookup] at found
  | cons entry rest ih =>
      obtain ⟨key, held⟩ := entry
      unfold lookup at found
      split at found
      · next same =>
          cases found
          exact same ▸ List.mem_cons_self
      · exact List.mem_cons_of_mem _ (ih found)

/-- Where names ascend no entry hides another. -/
theorem lookup_of_mem {name : String} {value : α} {entries : List (String × α)}
    (ascending : entries.Pairwise fun a b => a.1 < b.1) (member : (name, value) ∈ entries) :
    lookup name entries = some value := by
  induction entries with
  | nil => simp at member
  | cons entry rest ih =>
      obtain ⟨below, sorted⟩ := List.pairwise_cons.1 ascending
      rcases List.mem_cons.1 member with rfl | member
      · simp [lookup]
      · have differ : entry.1 ≠ name := String.ne_of_lt (below _ member)
        rw [lookup, if_neg differ]
        exact ih sorted member

theorem isSome_lookup_iff {name : String} {entries : List (String × α)} :
    (lookup name entries).isSome ↔ name ∈ entries.map (·.1) := by
  induction entries with
  | nil => simp [lookup]
  | cons entry rest ih =>
      by_cases same : entry.1 = name
      · simp [lookup, same]
      · simpa [lookup, same, Ne.symm same] using ih

/-! ## Maps -/

theorem mem_toList_iff {m : NameMap α} {name : String} {value : α} :
    (name, value) ∈ m.toList ↔ m.get? name = some value :=
  ⟨lookup_of_mem m.ascending, mem_of_lookup⟩

/-- Lists whose keys ascend are equal if they have the same members. -/
theorem eq_of_ascending (key : ρ → String) {items items' : List ρ}
    (ascends : items.Pairwise fun a b => key a < key b)
    (ascends' : items'.Pairwise fun a b => key a < key b)
    (same : ∀ item, item ∈ items ↔ item ∈ items') : items = items' := by
  have apart {items : List ρ} (ascends : items.Pairwise fun a b => key a < key b) :
      items.Nodup := by
    refine ascends.imp ?_
    rintro a _ before rfl
    exact String.lt_irrefl (key a) before
  have entries : items.Perm items' :=
    (List.perm_ext_iff_of_nodup (apart ascends) (apart ascends')).2 same
  refine entries.eq_of_pairwise (fun a b _ _ before after => ?_) ascends ascends'
  exact absurd (String.lt_trans before after) (String.lt_irrefl (key a))

/-- Equal look-ups, equal maps. -/
theorem ext_get? {m m' : NameMap α} (same : ∀ name, m.get? name = m'.get? name) : m = m' := by
  have : m.entries = m'.entries := by
    refine eq_of_ascending Prod.fst m.ascending m'.ascending ?_
    rintro ⟨name, value⟩
    exact mem_toList_iff.trans (same name ▸ mem_toList_iff.symm)
  obtain ⟨entries, _⟩ := m
  cases this
  rfl

theorem get?_foldl_insert (pairs : List (String × α)) (m : NameMap α) (name : String) :
    (pairs.foldl (fun m pair => m.insert pair.1 pair.2) m).get? name =
      (lookup name pairs.reverse).or (m.get? name) := by
  induction pairs generalizing m with
  | nil => rfl
  | cons pair rest ih =>
      rw [List.foldl_cons, ih, List.reverse_cons, lookup_append, get?_insert]
      by_cases same : pair.1 = name
      · simp [lookup, same]
      · simp [lookup, same, Ne.symm same]

/-- Of the pairs with one name the last counts. -/
theorem get?_ofList (pairs : List (String × α)) (name : String) :
    (ofList pairs).get? name = lookup name pairs.reverse := by
  rw [ofList, get?_foldl_insert, get?_empty, Option.or_none]

/-- A map is made of its own entries. -/
theorem ofList_toList (m : NameMap α) : ofList m.toList = m := by
  refine ext_get? fun name => ?_
  rw [get?_ofList]
  cases found : lookup name m.toList.reverse with
  | some value => exact (mem_toList_iff.1 (List.mem_reverse.1 (mem_of_lookup found))).symm
  | none =>
      refine (Option.not_isSome_iff_eq_none.1 fun there => ?_).symm
      have : (lookup name m.toList.reverse).isSome := by
        rw [isSome_lookup_iff, List.map_reverse, List.mem_reverse]
        exact isSome_lookup_iff.1 there
      rw [found] at this
      cases this

theorem mem_names_iff {m : NameMap α} {name : String} : name ∈ m.names ↔ (m.get? name).isSome :=
  isSome_lookup_iff.symm

theorem mem_names_ofList {pairs : List (String × α)} {name : String} :
    name ∈ (ofList pairs).names ↔ name ∈ pairs.map (·.1) := by
  rw [mem_names_iff, get?_ofList, isSome_lookup_iff, List.map_reverse, List.mem_reverse]

theorem names_map (f : α → β) (m : NameMap α) : (m.map f).names = m.names := by
  simp [names, map, Function.comp_def]

/-- Maps that know the same names list them alike, whatever they hold. -/
theorem names_congr {m : NameMap α} {m' : NameMap β}
    (same : ∀ name, (m.get? name).isSome = (m'.get? name).isSome) : m.names = m'.names := by
  have forgotten : (m.map fun _ => ()) = m'.map fun _ => () := by
    refine ext_get? fun name => ?_
    have known := same name
    rw [get?_map, get?_map]
    cases here : m.get? name <;> cases there : m'.get? name <;> simp [here, there] at known ⊢
  rw [← names_map (fun _ => ()) m, forgotten, names_map]

/-- Records gathered under their keys: each name has what its own records make,
one after the other. -/
theorem get?_foldl_update (key : ρ → String) (step : Option α → ρ → α) (records : List ρ)
    (m : NameMap α) (name : String) :
    (records.foldl (fun m record => m.update (key record) fun own => step own record) m).get? name =
      (records.filter fun record => key record = name).foldl
        (fun own record => some (step own record)) (m.get? name) := by
  induction records generalizing m with
  | nil => rfl
  | cons record rest ih =>
      rw [List.foldl_cons, ih, get?_update]
      by_cases same : key record = name
      · simp [same]
      · simp [same, Ne.symm same]

end ReleaseGate.NameMap
