/-
# NameMap — values by contract name

A `NameMap` holds at most one value per name and lists its names in ascending
order (code point by code point). The order is part of the type, so a map has
one written form.

* `get?_update`: an update changes the named value and no other;
* `get?_filterNames`, `get?_map`: the other operations through the same view.
-/
namespace ReleaseGate

set_option autoImplicit false

/-- Values by name, names strictly ascending. -/
structure NameMap (α : Type) where
  entries : List (String × α)
  ascending : entries.Pairwise fun a b => a.1 < b.1

namespace NameMap

variable {α β : Type}

/-- The map without names. -/
def empty : NameMap α := ⟨[], .nil⟩

instance : EmptyCollection (NameMap α) := ⟨empty⟩

instance : Inhabited (NameMap α) := ⟨empty⟩

/-- The value under the first entry called `name`. -/
def lookup (name : String) : List (String × α) → Option α
  | [] => none
  | (key, value) :: rest => if key = name then some value else lookup name rest

/-- The value a map holds for `name`. -/
def get? (m : NameMap α) (name : String) : Option α := lookup name m.entries

/-- Put `f` of the present value under `name`, at its place in the order. -/
def updateList (name : String) (f : Option α → α) : List (String × α) → List (String × α)
  | [] => [(name, f none)]
  | (key, value) :: rest =>
      if name < key then (name, f none) :: (key, value) :: rest
      else if key = name then (key, f (some value)) :: rest
      else (key, value) :: updateList name f rest

theorem mem_updateList {name : String} {f : Option α → α} {entry : String × α} :
    ∀ {entries : List (String × α)}, entry ∈ updateList name f entries →
      entry.1 = name ∨ entry ∈ entries
  | [], h => by
      simp only [updateList, List.mem_singleton] at h
      exact .inl (by rw [h])
  | (key, value) :: rest, h => by
      unfold updateList at h
      split at h
      · rcases List.mem_cons.1 h with rfl | h
        · exact .inl rfl
        · exact .inr h
      · split at h
        · next same =>
            rcases List.mem_cons.1 h with rfl | h
            · exact .inl same
            · exact .inr (List.mem_cons_of_mem _ h)
        · rcases List.mem_cons.1 h with rfl | h
          · exact .inr List.mem_cons_self
          · exact (mem_updateList h).imp id (List.mem_cons_of_mem _)

theorem ascending_updateList (name : String) (f : Option α → α) :
    ∀ {entries : List (String × α)}, entries.Pairwise (fun a b => a.1 < b.1) →
      (updateList name f entries).Pairwise fun a b => a.1 < b.1
  | [], _ => List.pairwise_singleton _ _
  | (key, value) :: rest, h => by
      obtain ⟨below, sorted⟩ := List.pairwise_cons.1 h
      unfold updateList
      split
      · next before =>
          refine List.pairwise_cons.2 ⟨fun entry member => ?_, h⟩
          rcases List.mem_cons.1 member with rfl | member
          · exact before
          · exact String.lt_trans before (below entry member)
      · next notBefore =>
          split
          · exact List.pairwise_cons.2 ⟨below, sorted⟩
          · next differ =>
              have after : key < name := by
                rcases String.le_total key name with le | le
                · exact String.not_le.1 fun ge => differ (String.le_antisymm le ge)
                · exact absurd (String.not_le.1 fun ge => differ (String.le_antisymm ge le))
                    notBefore
              refine List.pairwise_cons.2
                ⟨fun entry member => ?_, ascending_updateList name f sorted⟩
              rcases mem_updateList member with same | member
              · rw [same]; exact after
              · exact below entry member

/-- Replace the value under `name` by `f` of it. -/
def update (m : NameMap α) (name : String) (f : Option α → α) : NameMap α :=
  ⟨updateList name f m.entries, ascending_updateList name f m.ascending⟩

/-- Put `value` under `name`; an earlier value is replaced. -/
def insert (m : NameMap α) (name : String) (value : α) : NameMap α :=
  m.update name fun _ => value

/-- The map of a list of pairs; of two pairs with one name the later counts. -/
def ofList (pairs : List (String × α)) : NameMap α :=
  pairs.foldl (fun m pair => m.insert pair.1 pair.2) empty

/-- The names and values, names ascending. -/
def toList (m : NameMap α) : List (String × α) := m.entries

/-- The names, ascending. -/
def names (m : NameMap α) : List String := m.entries.map (·.1)

/-- The values in the order of their names. -/
def values (m : NameMap α) : List α := m.entries.map (·.2)

def size (m : NameMap α) : Nat := m.entries.length

/-- Apply `f` to every value. -/
def map (f : α → β) (m : NameMap α) : NameMap β :=
  ⟨m.entries.map fun entry => (entry.1, f entry.2), by
    rw [List.pairwise_map]
    exact m.ascending⟩

/-- Keep the entries whose name passes `keep`. -/
def filterNames (keep : String → Bool) (m : NameMap α) : NameMap α :=
  ⟨m.entries.filter fun entry => keep entry.1, m.ascending.filter _⟩

/-! ## The map as a look-up -/

/-- A name that no entry bears has no value. -/
theorem lookup_eq_none {name : String} : ∀ {entries : List (String × α)},
    (∀ entry ∈ entries, entry.1 ≠ name) → lookup name entries = none
  | [], _ => rfl
  | (key, value) :: rest, h => by
      rw [lookup, if_neg (h (key, value) List.mem_cons_self)]
      exact lookup_eq_none fun entry member => h entry (List.mem_cons_of_mem _ member)

theorem lookup_updateList (name : String) (f : Option α → α) (asked : String) :
    ∀ {entries : List (String × α)}, entries.Pairwise (fun a b => a.1 < b.1) →
      lookup asked (updateList name f entries) =
        if asked = name then some (f (lookup name entries)) else lookup asked entries
  | [], _ => by
      by_cases h : asked = name
      · simp [updateList, lookup, h]
      · simp [updateList, lookup, h, Ne.symm h]
  | (key, value) :: rest, sorted => by
      have ih := lookup_updateList name f asked (List.pairwise_cons.1 sorted).2
      unfold updateList
      split
      · next before =>
          have absent : lookup name ((key, value) :: rest) = none := by
            refine lookup_eq_none fun entry member same => ?_
            rcases List.mem_cons.1 member with rfl | member
            · exact String.ne_of_lt before same.symm
            · exact String.ne_of_lt
                (String.lt_trans before ((List.pairwise_cons.1 sorted).1 entry member)) same.symm
          rw [absent]
          by_cases h : asked = name
          · simp [lookup, h]
          · simp [lookup, h, Ne.symm h]
      · split
        · next same =>
            subst same
            by_cases h : asked = key
            · simp [lookup, h]
            · simp [lookup, h, Ne.symm h]
        · next differ =>
            by_cases h : key = asked
            · subst h
              simp [lookup, differ]
            · rw [lookup, if_neg h, ih]
              by_cases h' : asked = name
              · simp [lookup, h', differ]
              · simp [lookup, h, h']

/-- An update changes the value under its name and no other. -/
theorem get?_update (m : NameMap α) (name : String) (f : Option α → α) (asked : String) :
    (m.update name f).get? asked = if asked = name then some (f (m.get? name)) else m.get? asked :=
  lookup_updateList name f asked m.ascending

@[simp] theorem get?_empty (asked : String) : (empty : NameMap α).get? asked = none := rfl

theorem get?_insert (m : NameMap α) (name : String) (value : α) (asked : String) :
    (m.insert name value).get? asked = if asked = name then some value else m.get? asked :=
  get?_update m name _ asked

theorem get?_map (f : α → β) (m : NameMap α) (asked : String) :
    (m.map f).get? asked = (m.get? asked).map f := by
  show lookup asked (m.entries.map fun entry => (entry.1, f entry.2)) =
    (lookup asked m.entries).map f
  induction m.entries with
  | nil => rfl
  | cons entry rest ih =>
      by_cases h : entry.1 = asked
      · simp [lookup, h]
      · simpa [lookup, h] using ih

theorem lookup_filter (keep : String → Bool) (asked : String) (entries : List (String × α)) :
    lookup asked (entries.filter fun entry => keep entry.1) =
      if keep asked then lookup asked entries else none := by
  induction entries with
  | nil => simp [lookup]
  | cons entry rest ih =>
      by_cases kept : keep entry.1
      · rw [List.filter_cons_of_pos (by simpa using kept)]
        by_cases h : entry.1 = asked
        · subst h; simp [lookup, kept]
        · simpa [lookup, h] using ih
      · rw [List.filter_cons_of_neg (by simpa using kept)]
        by_cases h : entry.1 = asked
        · subst h; simpa [kept] using ih
        · simpa [lookup, h] using ih

theorem get?_filterNames (keep : String → Bool) (m : NameMap α) (asked : String) :
    (m.filterNames keep).get? asked = if keep asked then m.get? asked else none :=
  lookup_filter keep asked m.entries

@[simp] theorem filterNames_true (m : NameMap α) : m.filterNames (fun _ => true) = m := by
  obtain ⟨entries, _⟩ := m
  simp [filterNames]

end NameMap

end ReleaseGate
