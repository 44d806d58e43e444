/-
# Proofs.Form.Changes — which objects are changes, and what is kept of them

The keys of a change and those of its details stand in one object, in any order and as
often as the document has them. The two keys of the change itself may not be repeated;
any other key keeps the place where it first stands and takes the value that it is last
given. Both are said of the object as a whole (`Flattens`), without the reader: what
stands under a key, in which order keys first come up, which value comes last.

* `readChange_flattens`: what is read, and that it is written in one form which reads
  as itself.
-/
import Mathlib
import ReleaseGate.Proofs.Form.Artifacts
import ReleaseGate.Proofs.Form.Releases
import ReleaseGate.Proofs.Json.Fields

namespace ReleaseGate

set_option autoImplicit false

namespace Form

open Json (Place ValueSource setAll)
open Record

/-! ## The fields of an object -/

/-- The values under a key, in their order. -/
def valuesOf (key : String) (fields : List (String × Json)) : List Json :=
  (fields.filter fun field => field.1 = key).map Prod.snd

/-- The fields beside the two that a change has of its own. -/
def beside (fields : List (String × Json)) : List (String × Json) :=
  fields.filter fun field => field.1 ≠ "contractName" ∧ field.1 ≠ "kind"

/-- Whether an object with these fields is the change: a contract, at most one kind, and
under the other keys, in the order in which they first come up, the last of their values. -/
structure Flattens (fields : List (String × Json)) (c : Change) : Prop where
  contract : valuesOf "contractName" fields = [.text c.contract]
  kind : valuesOf "kind" fields = [.text c.kind] ∨ valuesOf "kind" fields = [] ∧ c.kind = ""
  keys : c.details.map Prod.fst = ((beside fields).map Prod.fst).eraseDups
  last : ∀ key, c.details.lookup key = (beside fields).reverse.lookup key

section Fields

variable {fields : List (String × Json)} {key : String} {value : Json}

theorem valuesOf_cons_self :
    valuesOf key ((key, value) :: fields) = value :: valuesOf key fields := by
  simp [valuesOf]

theorem valuesOf_cons_of_ne {asked : String} (differ : key ≠ asked) :
    valuesOf asked ((key, value) :: fields) = valuesOf asked fields := by
  simp [valuesOf, differ]

theorem beside_cons_of_ne (noContract : key ≠ "contractName") (noKind : key ≠ "kind") :
    beside ((key, value) :: fields) = (key, value) :: beside fields := by
  simp [beside, noContract, noKind]

theorem beside_cons_own (own : key = "contractName" ∨ key = "kind") :
    beside ((key, value) :: fields) = beside fields := by
  rcases own with rfl | rfl <;> simp [beside]

theorem keys_beside {field : String × Json} (member : field ∈ beside fields) :
    field.1 ≠ "contractName" ∧ field.1 ≠ "kind" := by
  simpa using (List.mem_filter.1 member).2

end Fields

/-! ## Reading the fields -/

/-- What a key of the change holds after some values: it takes one, which has to be a text. -/
def Takes (before : Option String) (values : List Json) (after : Option String) : Prop :=
  values = [] ∧ after = before ∨ before = none ∧ ∃ s, values = [.text s] ∧ after = some s

theorem takes_cons {before after : Option String} {value : Json} {values : List Json} :
    Takes before (value :: values) after ↔
      before = none ∧ ∃ s, value = .text s ∧ Takes (some s) values after := by
  simp only [Takes]
  constructor
  · rintro (⟨none, -⟩ | ⟨unset, s, one, set⟩)
    · cases none
    · obtain ⟨rfl, rfl⟩ := List.cons.inj one
      exact ⟨unset, s, rfl, .inl ⟨rfl, set⟩⟩
  · rintro ⟨unset, s, rfl, ⟨rfl, set⟩ | ⟨taken, -⟩⟩
    · exact .inr ⟨unset, s, rfl, set⟩
    · cases taken

/-- A key of the change is read once, and has to hold a text. -/
theorem readOnce_eq_ok_iff {σ : Type} {before : Option String} {refusal : Refusal} {value : Json}
    {next : String → Except Refusal σ} {after : σ} :
    (if before.isSome then .error refusal else readText value >>= next) = .ok after ↔
      before = none ∧ ∃ s, value = .text s ∧ next s = .ok after := by
  cases before with
  | some s => simp
  | none => simp [bind_eq_ok, readText_json_eq_ok_iff]

/-- Reading goes from left to right; what is said of the fields is said of those to come. -/
theorem readChangeFields_eq_ok_iff (fields : List (String × Json)) (s s' : ChangeSoFar) :
    readChangeFields (fields.map fun field => (some field.1, field.2)) s = .ok s' ↔
      Takes s.contract (valuesOf "contractName" fields) s'.contract ∧
      Takes s.kind (valuesOf "kind" fields) s'.kind ∧
      s'.details = (beside fields).foldl (fun done field => Json.setField field.1 field.2 done)
        s.details := by
  induction fields generalizing s with
  | nil =>
      obtain ⟨contract, kind, details⟩ := s
      obtain ⟨contract', kind', details'⟩ := s'
      simp [readChangeFields, Takes, valuesOf, beside, eq_comm]
  | cons field rest ih =>
      obtain ⟨key, value⟩ := field
      rw [List.map_cons]
      by_cases isContract : key = "contractName"
      · subst isContract
        rw [readChangeFields, readOnce_eq_ok_iff, valuesOf_cons_self, takes_cons,
          valuesOf_cons_of_ne (by decide), beside_cons_own (.inl rfl)]
        constructor
        · rintro ⟨unset, text, rfl, read⟩
          obtain ⟨taken, others⟩ := (ih _).1 read
          exact ⟨⟨unset, text, rfl, taken⟩, others⟩
        · rintro ⟨⟨unset, text, rfl, taken⟩, others⟩
          exact ⟨unset, text, rfl, (ih _).2 ⟨taken, others⟩⟩
      by_cases isKind : key = "kind"
      · subst isKind
        rw [readChangeFields, readOnce_eq_ok_iff, valuesOf_cons_self, takes_cons,
          valuesOf_cons_of_ne (by decide), beside_cons_own (.inr rfl)]
        constructor
        · rintro ⟨unset, text, rfl, read⟩
          obtain ⟨contract, taken, others⟩ := (ih _).1 read
          exact ⟨contract, ⟨unset, text, rfl, taken⟩, others⟩
        · rintro ⟨contract, ⟨unset, text, rfl, taken⟩, others⟩
          exact ⟨unset, text, rfl, (ih _).2 ⟨contract, taken, others⟩⟩
      · rw [readChangeFields, valuesOf_cons_of_ne isContract, valuesOf_cons_of_ne isKind,
          beside_cons_of_ne isContract isKind]
        · exact ih _
        · exact isContract
        · exact isKind

theorem readChange_of_shape {ν : Type} [ValueSource ν] {part : ν}
    {fields : List (Option String × ν)} (shown : Source.shape part = .map fields true)
    {c : Change} :
    readChange part = .ok c ↔ ∃ s, readChangeFields fields {} = .ok s ∧
      s.contract = some c.contract ∧ s.kind.getD "" = c.kind ∧ s.details = c.details := by
  obtain ⟨contract, kind, details⟩ := c
  rw [readChange, shown]
  simp only [bind_eq_ok]
  refine exists_congr fun s => and_congr_right fun _ => ?_
  cases s.contract <;> simp [pure, Except.pure, throw, throwThe, MonadExceptOf.throw]

/-- An object with one contract, which is a text, and no more than one kind, which is one
too, is read as a change; its details are the other fields, set one after the other. -/
theorem readChange_object_eq_ok_iff {fields : List (String × Json)} {c : Change} :
    readChange (Json.object fields) = .ok c ↔
      valuesOf "contractName" fields = [.text c.contract] ∧
      (valuesOf "kind" fields = [.text c.kind] ∨ valuesOf "kind" fields = [] ∧ c.kind = "") ∧
      c.details = setAll (beside fields) := by
  have shown : Source.shape (Json.object fields) =
      .map (fields.map fun field => (some field.1, field.2)) true := rfl
  rw [readChange_of_shape shown]
  simp only [readChangeFields_eq_ok_iff]
  constructor
  · rintro ⟨s, ⟨contract, kind, details⟩, hasContract, hasKind, same⟩
    refine ⟨?_, ?_, same.symm.trans details⟩
    · obtain ⟨-, unset⟩ | ⟨-, text, one, set⟩ := contract
      · cases unset.symm.trans hasContract
      · cases set.symm.trans hasContract
        exact one
    · obtain ⟨absent, unset⟩ | ⟨-, text, one, set⟩ := kind
      · exact .inr ⟨absent, by rw [← hasKind, unset]; rfl⟩
      · exact .inl (by rw [one, ← hasKind, set]; rfl)
  · rintro ⟨contract, kind, details⟩
    have taken : Takes none (valuesOf "contractName" fields) (some c.contract) :=
      .inr ⟨rfl, _, contract, rfl⟩
    obtain one | ⟨absent, blank⟩ := kind
    · exact ⟨⟨some c.contract, some c.kind, c.details⟩,
        ⟨taken, .inr ⟨rfl, _, one, rfl⟩, details⟩, rfl, rfl, rfl⟩
    · exact ⟨⟨some c.contract, none, c.details⟩, ⟨taken, .inl ⟨absent, rfl⟩, details⟩, rfl,
        blank.symm, rfl⟩

section Flattened

variable {fields fields' : List (String × Json)} {c : Change}

theorem flattens_iff : Flattens fields c ↔
    valuesOf "contractName" fields = [.text c.contract] ∧
      (valuesOf "kind" fields = [.text c.kind] ∨ valuesOf "kind" fields = [] ∧ c.kind = "") ∧
      c.details = setAll (beside fields) := by
  constructor
  · rintro ⟨contract, kind, keys, last⟩
    have order : (setAll (beside fields)).map Prod.fst = c.details.map Prod.fst := by
      rw [keys, Json.keys_setAll]
    refine ⟨contract, kind, (Json.eq_of_keys (Json.nodup_setAll _) order fun key => ?_).symm⟩
    rw [Json.lookup_setAll, last]
  · rintro ⟨contract, kind, details⟩
    exact ⟨contract, kind, by rw [details, Json.keys_setAll],
      fun key => by rw [details, Json.lookup_setAll]⟩

/-- What is read of an object is what stands in it. -/
theorem readChange_object_iff_flattens :
    readChange (Json.object fields) = .ok c ↔ Flattens fields c :=
  readChange_object_eq_ok_iff.trans flattens_iff.symm

namespace Flattens

theorem nodup (flattens : Flattens fields c) : (c.details.map Prod.fst).Nodup := by
  obtain ⟨-, -, details⟩ := flattens_iff.1 flattens
  rw [details]
  exact Json.nodup_setAll _

/-- No key of a change is left among its details. -/
theorem free (flattens : Flattens fields c) {detail : String × Json} (member : detail ∈ c.details) :
    detail.1 ≠ "contractName" ∧ detail.1 ≠ "kind" := by
  have key : detail.1 ∈ c.details.map Prod.fst := List.mem_map_of_mem member
  rw [flattens.keys, List.mem_eraseDups] at key
  obtain ⟨field, isBeside, same⟩ := List.mem_map.1 key
  exact same ▸ keys_beside isBeside

/-- A change that was read is what its written form is read as. -/
theorem written (flattens : Flattens fields c) :
    Flattens (("contractName", .text c.contract) :: ("kind", .text c.kind) :: c.details) c := by
  have absent (key : String) (own : key = "contractName" ∨ key = "kind") :
      valuesOf key c.details = [] := by
    refine List.map_eq_nil_iff.2 (List.filter_eq_nil_iff.2 fun detail member same => ?_)
    have isFree := flattens.free member
    rcases own with rfl | rfl
    · exact isFree.1 (of_decide_eq_true same)
    · exact isFree.2 (of_decide_eq_true same)
  have all : beside c.details = c.details :=
    List.filter_eq_self.2 fun detail member => decide_eq_true (flattens.free member)
  refine flattens_iff.2 ⟨?_, .inl ?_, ?_⟩
  · rw [valuesOf_cons_self, valuesOf_cons_of_ne (by decide), absent _ (.inl rfl)]
  · rw [valuesOf_cons_of_ne (by decide), valuesOf_cons_self, absent _ (.inr rfl)]
  · rw [beside_cons_own (.inl rfl), beside_cons_own (.inr rfl), all,
      Json.setAll_of_nodup flattens.nodup]

end Flattens

/-- Whether two objects differ only in where the keys of a change stand, in values that are
overwritten and in the order of the details: under either key of a change they have the
same values, under any other one the same last value. -/
structure SameTold (fields fields' : List (String × Json)) : Prop where
  contract : valuesOf "contractName" fields' = valuesOf "contractName" fields
  kind : valuesOf "kind" fields' = valuesOf "kind" fields
  last : ∀ key, (beside fields').reverse.lookup key = (beside fields).reverse.lookup key

/-- A field that is overwritten later may be left out. -/
theorem sameTold_of_overwritten {front back : List (String × Json)} {key : String} {value : Json}
    (noContract : key ≠ "contractName") (noKind : key ≠ "kind")
    (later : key ∈ back.map Prod.fst) :
    SameTold (front ++ (key, value) :: back) (front ++ back) where
  contract := by simp [valuesOf, noContract]
  kind := by simp [valuesOf, noKind]
  last asked := by
    have split (fields : List (String × Json)) : beside (front ++ fields) =
        beside front ++ beside fields := List.filter_append ..
    rw [split, split, beside_cons_of_ne noContract noKind, List.reverse_append, List.reverse_append,
      List.reverse_cons, List.lookup_append, List.lookup_append, List.lookup_append,
      Json.lookup_cons]
    by_cases same : asked = key
    · subst same
      -- The value is found in what comes later, so what it overwrites is not asked for.
      obtain ⟨field, member, same⟩ := List.mem_map.1 later
      have told : (beside back).reverse.lookup asked ≠ none := fun absent => by
        have isBeside : field ∈ (beside back).reverse := List.mem_reverse.2
          (List.mem_filter.2 ⟨member, by simp [same, noContract, noKind]⟩)
        exact bne_iff_ne.1 (List.lookup_eq_none_iff.1 absent field isBeside) same.symm
      obtain ⟨last, found⟩ := Option.ne_none_iff_exists'.1 told
      simp [found]
    · simp [same]

/-- Such objects are read as equal changes, whose details may stand in another order. -/
theorem SameTold.read (same : SameTold fields fields')
    (read : readChange (Json.object fields) = .ok c) :
    ∃ c', readChange (Json.object fields') = .ok c' ∧ c'.contract = c.contract ∧
      c'.kind = c.kind ∧ c'.details.Perm c.details ∧
      (((beside fields').map Prod.fst).eraseDups = ((beside fields).map Prod.fst).eraseDups →
        c' = c) := by
  have flattens := readChange_object_iff_flattens.1 read
  have told : Flattens fields' ⟨c.contract, c.kind, setAll (beside fields')⟩ :=
    flattens_iff.2 ⟨same.contract.trans flattens.contract, same.kind ▸ flattens.kind, rfl⟩
  have lookups (key : String) : (setAll (beside fields')).lookup key = c.details.lookup key := by
    rw [Json.lookup_setAll, same.last, flattens.last]
  refine ⟨_, readChange_object_iff_flattens.2 told, rfl, rfl,
    Json.perm_of_lookup told.nodup flattens.nodup lookups, fun keys => ?_⟩
  have details : setAll (beside fields') = c.details :=
    Json.eq_of_keys told.nodup (told.keys.trans (keys.trans flattens.keys.symm)) lookups
  rw [details]

end Flattened

/-! ## Objects in texts -/

/-- What is said of a key's value in a text and of the value itself is the same. -/
theorem readText_of_toJson? {draft : Json.Draft} {depth : Nat} {value : Json}
    (told : draft.toJson? depth = some value) :
    readText (⟨draft, depth⟩ : Place) = readText value := by
  cases draft with
  | null | bool | text =>
      cases told
      rfl
  | number n =>
      cases told
      cases n <;> rfl
  | list items closed | object fields closed =>
      cases depth with
      | zero => cases told
      | succ depth =>
          simp only [Json.Draft.toJson?, Option.bind_eq_bind, Option.bind_eq_some_iff] at told
          obtain ⟨values, -, closes⟩ := told
          split at closes <;> cases closes
          rfl
  | unreadable | broken => cases told

/-- Whether scanned fields are these: key by key and value by value, repeats included. -/
def Tells (drafts : List (Option String × Json.Draft)) (fields : List (String × Json)) : Prop :=
  List.Forall₂ (fun draft field => draft.1 = some field.1 ∧ draft.2.toJson? 126 = some field.2)
    drafts fields

/-- Whether a text is an object with these fields, in their order. -/
def TextHolds (text : String) (fields : List (String × Json)) : Prop :=
  ∃ drafts, Json.Document.ofText text = ⟨.object drafts true, true⟩ ∧ Tells drafts fields

theorem readChangeFields_drafts {drafts : List (Option String × Json.Draft)}
    {fields : List (String × Json)} (tells : Tells drafts fields) (s : ChangeSoFar) :
    readChangeFields (drafts.map fun draft => (draft.1, (⟨draft.2, 126⟩ : Place))) s =
      readChangeFields (fields.map fun field => (some field.1, field.2)) s := by
  induction tells generalizing s with
  | nil => rfl
  | @cons draft field drafts fields same _ ih =>
      obtain ⟨key, part⟩ := draft
      obtain ⟨name, value⟩ := field
      obtain ⟨rfl, told⟩ := same
      have text := readText_of_toJson? told
      have whole : ValueSource.toJson? (⟨part, 126⟩ : Place) = some value := told
      rw [List.map_cons, List.map_cons]
      by_cases isContract : name = "contractName"
      · subst isContract
        simp only [readChangeFields, text, ih]
      by_cases isKind : name = "kind"
      · subst isKind
        simp only [readChangeFields, text, ih]
      · rw [readChangeFields, readChangeFields, whole]
        · exact ih _
        all_goals assumption

/-- A text is read as a change or refused as the object in it is. -/
theorem read_of_textHolds {text : String} {fields : List (String × Json)}
    (holds : TextHolds text fields) :
    (Json.Document.ofText text).read readChange = readChange (Json.object fields) := by
  obtain ⟨drafts, scanned, tells⟩ := holds
  have shown : Source.shape (Place.root (.object drafts true)) =
      .map (drafts.map fun draft => (draft.1, (⟨draft.2, 126⟩ : Place))) true := rfl
  have shown' : Source.shape (Json.object fields) =
      .map (fields.map fun field => (some field.1, field.2)) true := rfl
  have root : readChange (Place.root (.object drafts true)) = readChange (Json.object fields) := by
    rw [readChange, readChange, shown, shown']
    simp only [readChangeFields_drafts tells]
  rw [scanned, Json.Document.read, root]
  cases readChange (Json.object fields) <;> rfl

/-! ## Changes -/

/-- **A change keeps all that its object says.** Whatever the fields of an object are, in
any order and with any repeats, it is read as a change exactly if it has one contract and
at most one kind, both texts; the details are the other keys in the order in which they
first come up, each with the value it is last given. The change is written with its two
keys before the details, and that is read as the same change, so what is written of what
was read is written again as it is; as a text it is had back, too, if it holds no double
and is not too deep. Objects that differ only in the places of the two keys, or in what is
overwritten, are read as equal changes. And a text is read, or refused, as the object in
it is. -/
theorem readChange_flattens (fields : List (String × Json)) :
    ((∃ c, readChange (Json.object fields) = .ok c) ↔
      (∃ name, valuesOf "contractName" fields = [.text name]) ∧
      (valuesOf "kind" fields = [] ∨ ∃ kind, valuesOf "kind" fields = [.text kind])) ∧
    (∀ c, readChange (Json.object fields) = .ok c ↔ Flattens fields c) ∧
    (∀ c, readChange (Json.object fields) = .ok c →
      changeJson c =
        .object (("contractName", .text c.contract) :: ("kind", .text c.kind) :: c.details) ∧
      readChange (changeJson c) = .ok c ∧
      ((changeJson c).Clean → (changeJson c).nesting ≤ 127 →
        (Json.Document.ofText (changeJson c).write).read readChange = .ok c)) ∧
    (∀ written, (readChange (Json.object fields)).map changeJson = .ok written →
      (readChange written).map changeJson = .ok written) ∧
    (∀ fields' c, SameTold fields fields' → readChange (Json.object fields) = .ok c →
      ∃ c', readChange (Json.object fields') = .ok c' ∧ c'.contract = c.contract ∧
        c'.kind = c.kind ∧ c'.details.Perm c.details ∧
        (((beside fields').map Prod.fst).eraseDups = ((beside fields).map Prod.fst).eraseDups →
          c' = c)) ∧
    ∀ text, TextHolds text fields →
      (Json.Document.ofText text).read readChange = readChange (Json.object fields) := by
  have back {c : Change} (read : readChange (Json.object fields) = .ok c) :
      readChange (changeJson c) = .ok c :=
    readChange_object_iff_flattens.2 (readChange_object_iff_flattens.1 read).written
  refine ⟨⟨?_, ?_⟩, fun c => readChange_object_iff_flattens, fun c read => ⟨rfl, back read,
    fun clean shallow => readChange_undoes.read_write clean shallow⟩, fun written twice => ?_,
    fun fields' c same => same.read, fun text => read_of_textHolds⟩
  · rintro ⟨c, read⟩
    obtain ⟨contract, kind, -, -⟩ := readChange_object_iff_flattens.1 read
    exact ⟨⟨_, contract⟩, kind.symm.imp And.left fun one => ⟨_, one⟩⟩
  · rintro ⟨⟨name, contract⟩, absent | ⟨kind, one⟩⟩
    · exact ⟨⟨name, "", setAll (beside fields)⟩,
        readChange_object_eq_ok_iff.2 ⟨contract, .inr ⟨absent, rfl⟩, rfl⟩⟩
    · exact ⟨⟨name, kind, setAll (beside fields)⟩,
        readChange_object_eq_ok_iff.2 ⟨contract, .inl one, rfl⟩⟩
  · obtain ⟨c, read, rfl⟩ := map_eq_ok.1 twice
    exact map_eq_ok.2 ⟨c, back read, rfl⟩

/-! ## A change told twice over -/

/-- A change whose own keys stand between details that are told twice. -/
def repeatedText : String :=
  "\x7b\"a\": 1, \"kind\": \"removed\", \"b\": [], \"a\": null, " ++
    "\"contractName\": \"Token\", \"b\": \x7b\"x\": \"y\"\x7d\x7d"

def repeatedFields : List (String × Json) :=
  [("a", .number (.integer 1 (by decide) (by decide))), ("kind", .text "removed"),
    ("b", .list []), ("a", .null), ("contractName", .text "Token"),
    ("b", .object [("x", .text "y")])]

def repeatedChange : Change where
  contract := "Token"
  kind := "removed"
  details := [("a", .null), ("b", .object [("x", .text "y")])]

theorem textHolds_repeated : TextHolds repeatedText repeatedFields := by
  refine ⟨[(some "a", .number (.integer 1 (by decide) (by decide))), (some "kind", .text "removed"),
    (some "b", .list [] true), (some "a", .null), (some "contractName", .text "Token"),
    (some "b", .object [(some "x", .text "y")] true)], by cbv, ?_⟩
  exact .cons ⟨rfl, rfl⟩ (.cons ⟨rfl, rfl⟩ (.cons ⟨rfl, rfl⟩ (.cons ⟨rfl, rfl⟩
    (.cons ⟨rfl, rfl⟩ (.cons ⟨rfl, rfl⟩ .nil)))))

/-- The same fields with the two keys of the change moved away from each other. -/
def movedFields : List (String × Json) :=
  [("contractName", .text "Token"), ("a", .number (.integer 1 (by decide) (by decide))),
    ("b", .list []), ("a", .null), ("b", .object [("x", .text "y")]), ("kind", .text "removed")]

/-- The last values are kept, in the order of the first. Moving the two keys changes
nothing; without the value that is overwritten first, the details are the same but in
another order. -/
theorem readChange_flattens_repeated :
    (Json.Document.ofText repeatedText).read readChange = .ok repeatedChange ∧
      Flattens repeatedFields repeatedChange ∧
      readChange (changeJson repeatedChange) = .ok repeatedChange ∧
      (Json.Document.ofText (changeJson repeatedChange).write).read readChange =
        .ok repeatedChange ∧
      readChange (Json.object movedFields) = .ok repeatedChange ∧
      ∃ c, readChange (Json.object repeatedFields.tail) = .ok c ∧
        c.details ≠ repeatedChange.details ∧ c.details.Perm repeatedChange.details := by
  obtain ⟨-, meaning, back, -, others, texts⟩ := readChange_flattens repeatedFields
  have read : readChange (Json.object repeatedFields) = .ok repeatedChange := rfl
  have moved : SameTold repeatedFields movedFields := ⟨rfl, rfl, fun _ => rfl⟩
  have shorter : SameTold repeatedFields repeatedFields.tail :=
    @sameTold_of_overwritten [] repeatedFields.tail "a" _ (by decide) (by decide) (by decide)
  have clean : (changeJson repeatedChange).Clean := by
    refine .object (by decide) ?_
    simp only [repeatedChange, List.forall_mem_cons]
    exact ⟨.text _, .text _, .null, .object (by decide) (by simp [Json.Clean.text]), by simp⟩
  have shallow : (changeJson repeatedChange).nesting ≤ 127 := by decide
  obtain ⟨-, asValue, asText⟩ := back _ read
  obtain ⟨c, readMoved, -, -, -, same⟩ := others movedFields _ moved read
  obtain ⟨c', readShorter, -, -, perm, -⟩ := others repeatedFields.tail _ shorter read
  refine ⟨(texts _ textHolds_repeated).trans read, (meaning _).1 read, asValue,
    asText clean shallow, same rfl ▸ readMoved, c', readShorter, ?_, perm⟩
  cases readShorter
  exact fun equal => absurd (congrArg (List.map Prod.fst) equal) (by decide)

end Form

end ReleaseGate
