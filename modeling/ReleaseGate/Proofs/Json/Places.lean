/-
# Proofs.Json.Places — what stands in the places of a written value

A value is read through its places: a place shows the kind of what stands in it and
leads to the places inside, as long as few enough containers are open. Where a value
fits (`Fits`) every place shows what was written there, and the value can be had
back as a whole (`toJson?_draft`).

A value that was read holds no key of an object twice, whatever the text was
(`distinct_of_toJson?`).
-/
import ReleaseGate.Json.Place
import ReleaseGate.Proofs.Json.Scan
import ReleaseGate.Proofs.Outcomes

namespace ReleaseGate

set_option autoImplicit false

namespace Json

/-! ## Nesting -/

mutual

/-- How many lists and objects stand in each other. -/
def nesting : Json → Nat
  | .list items => itemsNesting items + 1
  | .object fields => fieldsNesting fields + 1
  | _ => 0

def itemsNesting : List Json → Nat
  | [] => 0
  | item :: rest => max item.nesting (itemsNesting rest)

def fieldsNesting : List (String × Json) → Nat
  | [] => 0
  | (_, value) :: rest => max value.nesting (fieldsNesting rest)

end

theorem nesting_le_items {items : List Json} {item : Json} (member : item ∈ items) :
    item.nesting ≤ itemsNesting items := by
  induction items with
  | nil => cases member
  | cons first rest ih =>
      rw [itemsNesting]
      rcases List.mem_cons.1 member with rfl | member
      · exact Nat.le_max_left _ _
      · exact Nat.le_trans (ih member) (Nat.le_max_right _ _)

theorem nesting_le_fields {fields : List (String × Json)} {field : String × Json}
    (member : field ∈ fields) : field.2.nesting ≤ fieldsNesting fields := by
  induction fields with
  | nil => cases member
  | cons first rest ih =>
      rw [fieldsNesting]
      rcases List.mem_cons.1 member with rfl | member
      · exact Nat.le_max_left _ _
      · exact Nat.le_trans (ih member) (Nat.le_max_right _ _)

/-! ## Doubles -/

mutual

/-- Whether some number in a value is a double. -/
def holdsReal : Json → Bool
  | .number (.real _) => true
  | .list items => itemsHoldReal items
  | .object fields => fieldsHoldReal fields
  | _ => false

def itemsHoldReal : List Json → Bool
  | [] => false
  | item :: rest => item.holdsReal || itemsHoldReal rest

def fieldsHoldReal : List (String × Json) → Bool
  | [] => false
  | (_, value) :: rest => value.holdsReal || fieldsHoldReal rest

end

theorem itemsHoldReal_eq (items : List Json) : itemsHoldReal items = items.any holdsReal := by
  induction items with
  | nil => rfl
  | cons item rest ih => rw [itemsHoldReal, ih, List.any_cons]

theorem fieldsHoldReal_eq (fields : List (String × Json)) :
    fieldsHoldReal fields = fields.any fun field => field.2.holdsReal := by
  induction fields with
  | nil => rfl
  | cons field rest ih => rw [fieldsHoldReal, ih, List.any_cons]

/-! ## Values that fit -/

/-- Whether a value can be written and read back where `depth` containers may still be opened. -/
structure Fits (depth : Nat) (j : Json) : Prop where
  clean : j.Clean
  shallow : j.nesting ≤ depth

theorem Fits.of_list {depth : Nat} {items : List Json} (fits : Fits depth (.list items)) :
    ∃ inner, depth = inner + 1 ∧ ∀ item ∈ items, Fits inner item := by
  obtain ⟨clean, shallow⟩ := fits
  cases clean with
  | list each =>
      rw [nesting] at shallow
      obtain ⟨inner, rfl⟩ := Nat.exists_eq_add_one.2 (Nat.zero_lt_of_lt shallow)
      exact ⟨inner, rfl, fun item member => ⟨each item member,
        Nat.le_trans (nesting_le_items member) (Nat.le_of_succ_le_succ shallow)⟩⟩

theorem Fits.of_object {depth : Nat} {fields : List (String × Json)}
    (fits : Fits depth (.object fields)) :
    ∃ inner, depth = inner + 1 ∧ (fields.map Prod.fst).Nodup ∧
      ∀ field ∈ fields, Fits inner field.2 := by
  obtain ⟨clean, shallow⟩ := fits
  cases clean with
  | object keys each =>
      rw [nesting] at shallow
      obtain ⟨inner, rfl⟩ := Nat.exists_eq_add_one.2 (Nat.zero_lt_of_lt shallow)
      exact ⟨inner, rfl, keys, fun field member => ⟨each field member,
        Nat.le_trans (nesting_le_fields member) (Nat.le_of_succ_le_succ shallow)⟩⟩

/-! ## Places -/

/-- The place of a value, where `depth` containers may still be opened. -/
def place (depth : Nat) (j : Json) : Place := ⟨j.draft, depth⟩

theorem shape_list (depth : Nat) (items : List Json) :
    Record.Source.shape (place (depth + 1) (.list items)) =
      .list (items.map (place depth)) true := by
  show Record.Shape.list ((draftItems items).map fun item => (⟨item, depth⟩ : Place)) true = _
  rw [draftItems_eq, List.map_map]
  rfl

theorem shape_object (depth : Nat) (fields : List (String × Json)) :
    Record.Source.shape (place (depth + 1) (.object fields)) =
      .map (fields.map fun field => (some field.1, place depth field.2)) true := by
  show Record.Shape.map
    ((draftFields fields).map fun field => (field.1, (⟨field.2, depth⟩ : Place))) true = _
  rw [draftFields_eq, List.map_map]
  rfl

/-! ## Values had back -/

/-- A new key goes last. -/
theorem setField_new {key : String} {value : Json} {fields : List (String × Json)}
    (new : key ∉ fields.map Prod.fst) : setField key value fields = fields ++ [(key, value)] := by
  induction fields with
  | nil => rfl
  | cons field rest ih =>
      obtain ⟨k, v⟩ := field
      rw [List.map_cons, List.mem_cons, not_or] at new
      rw [setField, if_neg (Ne.symm new.1), ih new.2, List.cons_append]

theorem itemsToJson?_map {depth : Nat} {items : List Json}
    (each : ∀ item ∈ items, item.draft.toJson? depth = some item) :
    itemsToJson? depth (items.map draft) = some items := by
  induction items with
  | nil => rfl
  | cons item rest ih =>
      have first := each item List.mem_cons_self
      have others := ih fun other member => each other (List.mem_cons_of_mem _ member)
      simp [itemsToJson?, first, others]

theorem fieldsToJson?_map {depth : Nat} (done : List (String × Json))
    {fields : List (String × Json)} (distinct : ((done ++ fields).map Prod.fst).Nodup)
    (each : ∀ field ∈ fields, field.2.draft.toJson? depth = some field.2) :
    fieldsToJson? depth done (fields.map fun field => (some field.1, field.2.draft)) =
      some (done ++ fields) := by
  induction fields generalizing done with
  | nil => simp [fieldsToJson?]
  | cons field rest ih =>
      have first := each field List.mem_cons_self
      have new : field.1 ∉ done.map Prod.fst := by
        rw [List.map_append] at distinct
        exact fun member => (List.nodup_append.1 distinct).2.2 _ member _ List.mem_cons_self rfl
      have others := ih (done ++ [field]) (by simpa using distinct)
        fun other member => each other (List.mem_cons_of_mem _ member)
      rw [List.append_assoc, List.singleton_append] at others
      simp [fieldsToJson?, first, setField_new new, others]

/-- **A value that fits is had back from its draft.** -/
theorem toJson?_draft {j : Json} {depth : Nat} (fits : Fits depth j) :
    j.draft.toJson? depth = some j := by
  obtain ⟨clean, shallow⟩ := fits
  induction clean generalizing depth with
  | null | bool b | integer n least below | text s => rfl
  | list each ih =>
      obtain ⟨inner, rfl, fits⟩ := Fits.of_list ⟨.list each, shallow⟩
      have items := itemsToJson?_map fun item member => ih item member (fits item member).shallow
      simp [draft, draftItems_eq, Draft.toJson?, items]
  | object keys each ih =>
      obtain ⟨inner, rfl, -, fits⟩ := Fits.of_object ⟨.object keys each, shallow⟩
      have fields := fieldsToJson?_map [] keys
        fun field member => ih field member (fits field member).shallow
      simp only [List.nil_append] at fields
      simp [draft, draftFields_eq, Draft.toJson?, fields]

/-! ## Keys of values that were read -/

/-- Whether no object in a value holds a key twice. -/
inductive Distinct : Json → Prop where
  | null : Distinct .null
  | bool (b : Bool) : Distinct (.bool b)
  | number (n : Number) : Distinct (.number n)
  | text (s : String) : Distinct (.text s)
  | list {items : List Json} (each : ∀ item ∈ items, Distinct item) : Distinct (.list items)
  | object {fields : List (String × Json)} (keys : (fields.map Prod.fst).Nodup)
      (each : ∀ field ∈ fields, Distinct field.2) : Distinct (.object fields)

theorem Distinct.clean {j : Json} (distinct : Distinct j) (whole : j.holdsReal = false) :
    Clean j := by
  induction distinct with
  | null => exact .null
  | bool b => exact .bool b
  | number n =>
      cases n with
      | integer n least below => exact .integer n least below
      | real x => cases whole
  | text s => exact .text s
  | list _ ih =>
      rw [holdsReal, itemsHoldReal_eq, List.any_eq_false] at whole
      exact .list fun item member => ih item member (by simpa using whole item member)
  | object keys _ ih =>
      rw [holdsReal, fieldsHoldReal_eq, List.any_eq_false] at whole
      exact .object keys fun field member => ih field member (by simpa using whole field member)

/-- Setting a key makes no key stand twice. -/
theorem keys_setField (key : String) (value : Json) (fields : List (String × Json)) :
    (setField key value fields).map Prod.fst =
      if key ∈ fields.map Prod.fst then fields.map Prod.fst else fields.map Prod.fst ++ [key] := by
  induction fields with
  | nil => rfl
  | cons field rest ih =>
      obtain ⟨k, v⟩ := field
      by_cases same : k = key
      · simp [setField, same]
      · rw [setField, if_neg same, List.map_cons, ih]
        by_cases there : key ∈ rest.map Prod.fst
        · simp [there, Ne.symm same]
        · simp [there, Ne.symm same]

theorem nodup_setField (key : String) (value : Json) {fields : List (String × Json)}
    (distinct : (fields.map Prod.fst).Nodup) :
    ((setField key value fields).map Prod.fst).Nodup := by
  rw [keys_setField]
  split
  · exact distinct
  · next new =>
      refine List.nodup_append.2 ⟨distinct, by simp, ?_⟩
      intro k member other isKey same
      rw [List.mem_singleton.1 isKey] at same
      exact new (same ▸ member)

theorem mem_setField {key : String} {value : Json} {fields : List (String × Json)}
    {field : String × Json} (member : field ∈ setField key value fields) :
    field = (key, value) ∨ field ∈ fields := by
  induction fields with
  | nil => exact .inl (List.mem_singleton.1 member)
  | cons first rest ih =>
      obtain ⟨k, v⟩ := first
      rw [setField] at member
      split at member
      · next same =>
          rcases List.mem_cons.1 member with rfl | member
          · exact .inl (by rw [same])
          · exact .inr (List.mem_cons_of_mem _ member)
      · rcases List.mem_cons.1 member with rfl | member
        · exact .inr List.mem_cons_self
        · exact (ih member).imp_right (List.mem_cons_of_mem _)

mutual

/-- **A value that was read holds no key twice.** -/
theorem distinct_of_toJson? {depth : Nat} {j : Json} :
    ∀ (d : Draft), d.toJson? depth = some j → Distinct j
  | .null, read => by
      cases read
      exact .null
  | .bool b, read => by
      cases read
      exact .bool b
  | .number n, read => by
      cases read
      exact .number n
  | .text s, read => by
      cases read
      exact .text s
  | .list items closed, read => by
      cases depth with
      | zero => cases read
      | succ depth =>
          simp only [Draft.toJson?, Option.bind_eq_bind, Option.bind_eq_some_iff] at read
          obtain ⟨values, found, closes⟩ := read
          split at closes
          · cases closes
            exact .list (distinct_of_itemsToJson? items found)
          · cases closes
  | .object fields closed, read => by
      cases depth with
      | zero => cases read
      | succ depth =>
          simp only [Draft.toJson?, Option.bind_eq_bind, Option.bind_eq_some_iff] at read
          obtain ⟨values, found, closes⟩ := read
          split at closes
          · cases closes
            obtain ⟨keys, each⟩ := distinct_of_fieldsToJson? fields found .nil (by simp)
            exact .object keys each
          · cases closes
  | .unreadable, read => by cases read
  | .broken, read => by cases read

theorem distinct_of_itemsToJson? {depth : Nat} {values : List Json} :
    ∀ (items : List Draft), itemsToJson? depth items = some values →
      ∀ value ∈ values, Distinct value
  | [], read => by
      cases read
      simp
  | item :: rest, read => by
      simp only [itemsToJson?, Option.bind_eq_bind, Option.bind_eq_some_iff, Option.pure_def,
        Option.some.injEq] at read
      obtain ⟨first, readFirst, others, readOthers, rfl⟩ := read
      intro value member
      rcases List.mem_cons.1 member with rfl | member
      · exact distinct_of_toJson? item readFirst
      · exact distinct_of_itemsToJson? rest readOthers value member

theorem distinct_of_fieldsToJson? {depth : Nat} {done values : List (String × Json)} :
    ∀ (fields : List (Option String × Draft)), fieldsToJson? depth done fields = some values →
      (done.map Prod.fst).Nodup → (∀ field ∈ done, Distinct field.2) →
        (values.map Prod.fst).Nodup ∧ ∀ field ∈ values, Distinct field.2
  | [], read, keys, each => by
      cases read
      exact ⟨keys, each⟩
  | (none, value) :: rest, read, _, _ => by cases read
  | (some key, value) :: rest, read, keys, each => by
      simp only [fieldsToJson?, Option.bind_eq_bind, Option.bind_eq_some_iff] at read
      obtain ⟨first, readFirst, readOthers⟩ := read
      refine distinct_of_fieldsToJson? rest readOthers (nodup_setField key first keys) ?_
      intro field member
      rcases mem_setField member with rfl | member
      · exact distinct_of_toJson? value readFirst
      · exact each field member

end

/-- A document that is read ends where its value does. -/
theorem Document.exists_of_read {α : Type} {document : Document}
    {read : Place → Except Record.Refusal α} {value : α}
    (found : document.read read = .ok value) :
    document.ended ∧ read (Place.root document.root) = .ok value := by
  obtain ⟨first, readFirst, ends⟩ := bind_eq_ok.1 found
  split at ends
  · next ended =>
      cases ends
      exact ⟨ended, readFirst⟩
  · cases ends

theorem distinct_of_ofText? {text : String} {json : Json}
    (read : ofText? text = some json) : Distinct json := by
  unfold ofText? at read
  dsimp only at read
  split at read
  · exact distinct_of_toJson? _ read
  · cases read

end Json

end ReleaseGate
