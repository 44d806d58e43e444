/-
# Proofs.Form.Records — what readers make of parts that look right

A reader asks a part for its shape and the parts inside it for theirs. What it
answers where the shape is the wanted one is the same in every notation: a text, a
number, the items of a list or the entries of a map in order, and the record that
its named fields fill (`Layout.read_of_shape`).
-/
import ReleaseGate.Form.Version
import ReleaseGate.Proofs.Outcomes
import ReleaseGate.Proofs.Version.Text

namespace ReleaseGate

set_option autoImplicit false

namespace Record

variable {ν α σ : Type}

/-! ## Items and entries in order -/

section Lists

variable {read : ν → Except Refusal α} {place : α → ν}

theorem readItems_map {items : List α} (each : ∀ item ∈ items, read (place item) = .ok item) :
    readItems read (items.map place) = .ok items := by
  induction items with
  | nil => rfl
  | cons item rest ih =>
      have here := each item List.mem_cons_self
      have next := ih fun other member => each other (List.mem_cons_of_mem _ member)
      simp [readItems, here, next, bind_ok, pure, Except.pure]

theorem readEntries_map {entries : List (String × α)}
    (each : ∀ entry ∈ entries, read (place entry.2) = .ok entry.2) :
    readEntries read (entries.map fun entry => (some entry.1, place entry.2)) = .ok entries := by
  induction entries with
  | nil => rfl
  | cons entry rest ih =>
      have here := each entry List.mem_cons_self
      have next := ih fun other member => each other (List.mem_cons_of_mem _ member)
      simp [readEntries, here, next, bind_ok, pure, Except.pure]

/-- Every value of a list was read from one of its items. -/
theorem exists_of_mem_readItems {items : List ν} {values : List α}
    (whole : readItems read items = .ok values) {value : α} (member : value ∈ values) :
    ∃ item ∈ items, read item = .ok value := by
  induction items generalizing values with
  | nil =>
      cases whole
      cases member
  | cons item rest ih =>
      simp only [readItems, bind_eq_ok, pure_eq_ok] at whole
      obtain ⟨first, readFirst, others, readOthers, rfl⟩ := whole
      rcases List.mem_cons.1 member with rfl | member
      · exact ⟨item, List.mem_cons_self, readFirst⟩
      · obtain ⟨other, isIn, found⟩ := ih readOthers member
        exact ⟨other, List.mem_cons_of_mem _ isIn, found⟩

end Lists

variable [Source ν] {part : ν}

/-! ## Single values -/

theorem readText_of_shape {s : String} (shown : Source.shape part = .text s) :
    readText part = .ok s := by
  rw [readText, shown]

theorem readBoolean_of_shape {b : Bool} (shown : Source.shape part = .boolean b) :
    readBoolean part = .ok b := by
  rw [readBoolean, shown]

theorem readOptionalText_of_shape {s : String} (shown : Source.shape part = .text s) :
    readOptionalText part = .ok (some s) := by
  rw [readOptionalText, shown]

theorem readUInt64_of_shape {n : UInt64} (shown : Source.shape part = .integer n.toNat) :
    readUInt64 part = .ok n := by
  have fits : (0 : Int) ≤ n.toNat ∧ (n.toNat : Int) < UInt64.size := by
    have := n.toNat_lt
    simp only [UInt64.size]
    omega
  rw [readUInt64, shown]
  simp only [fits, and_self, if_true, Int.toNat_natCast, UInt64.ofNat_toNat]

theorem readVariant_of_lookup {variants : List (String × α)} {name : String} {value : α}
    (named : Source.variant (variants.map (·.1)) part = .ok name)
    (found : variants.lookup name = some value) : readVariant variants part = .ok value := by
  simp [readVariant, named, found, bind_ok]

/-! ## Lists and maps -/

theorem readList_of_shape {read : ν → Except Refusal α} (place : α → ν) {items : List α}
    (shown : Source.shape part = .list (items.map place) true)
    (each : ∀ item ∈ items, read (place item) = .ok item) : readList read part = .ok items := by
  rw [readList, shown]
  simp [readItems_map each, bind_ok]

theorem readMap_of_shape {read : ν → Except Refusal α} (place : α → ν)
    {entries : List (String × α)}
    (shown : Source.shape part = .map (entries.map fun entry => (some entry.1, place entry.2)) true)
    (each : ∀ entry ∈ entries, read (place entry.2) = .ok entry.2) :
    readMap read part = .ok entries := by
  rw [readMap, shown]
  simp [readEntries_map each, bind_ok]

/-! ## Records -/

/-- A known field is read when its key comes up. -/
theorem readNamed_known {fields : List (Field ν σ)} {key : String} {field : Field ν σ}
    (known : fields.find? (·.name == key) = some field) {state : σ}
    (unset : field.isSet state = false) (rest : List (Option String × ν)) :
    readNamed fields ((some key, part) :: rest) state =
      field.read part state >>= readNamed fields rest := by
  simp [readNamed, known, unset]

/-- Keys that no field has are passed over. -/
theorem readNamed_unknown {fields : List (Field ν σ)} {key : String}
    (unknown : fields.find? (·.name == key) = none) (skips : Source.skips part) {state : σ}
    (rest : List (Option String × ν)) :
    readNamed fields ((some key, part) :: rest) state = readNamed fields rest state := by
  simp [readNamed, unknown, skips]

/-- A part that shows a record's fields by their names is the record they fill. -/
theorem Layout.read_of_shape {layout : Layout ν σ α} {fields : List (Option String × ν)}
    {state : σ} {record : α} (shown : Source.shape part = .map fields true)
    (filled : readNamed layout.fields fields layout.blank = .ok state)
    (finished : layout.finish true state = .ok record) : layout.read part = .ok record := by
  rw [Layout.read, shown]
  simp [filled, finished, bind_ok]

theorem Layout.read_of_refused {layout : Layout ν σ α} {fields : List (Option String × ν)}
    {closed : Bool} {refusal : Refusal} (shown : Source.shape part = .map fields closed)
    (stopped : readNamed layout.fields fields layout.blank = .error refusal) :
    layout.read part = .error refusal := by
  rw [Layout.read, shown]
  simp [stopped, bind_error]

/-! ## What was read -/

theorem exists_of_mem_readList {read : ν → Except Refusal α} {values : List α}
    (whole : readList read part = .ok values) {value : α} (member : value ∈ values) :
    ∃ items closed, Source.shape part = .list items closed ∧
      ∃ item ∈ items, read item = .ok value := by
  unfold readList at whole
  split at whole
  · next items closed shown =>
      simp only [bind_eq_ok] at whole
      obtain ⟨all, readAll, closes⟩ := whole
      split at closes
      · cases closes
        exact ⟨items, closed, shown, exists_of_mem_readItems readAll member⟩
      · cases closes
  · cases whole

section Invariants

variable {good : ν → Prop} {holds : σ → Prop}

/-- What every field keeps, where it is read from a good part, is kept by all of them. -/
theorem holds_of_readNamed {fields : List (Field ν σ)}
    (kept : ∀ field ∈ fields, ∀ part state state', good part → holds state →
      field.read part state = .ok state' → holds state')
    {entries : List (Option String × ν)} (parts : ∀ entry ∈ entries, good entry.2)
    {state state' : σ} (start : holds state) (read : readNamed fields entries state = .ok state') :
    holds state' := by
  induction entries generalizing state with
  | nil =>
      cases read
      exact start
  | cons entry rest ih =>
      have others := fun other member => parts other (List.mem_cons_of_mem entry member)
      obtain ⟨_ | key, part⟩ := entry
      · cases read
      · rw [readNamed] at read
        split at read
        · next field found =>
            split at read
            · cases read
            · obtain ⟨between, readField, readOthers⟩ := bind_eq_ok.1 read
              exact ih others (kept field (List.mem_of_find?_eq_some found) part state between
                (parts _ List.mem_cons_self) start readField) readOthers
        · split at read
          · exact ih others start read
          · cases read

omit [Source ν] in
theorem holds_of_readPlaced {fields : List (Field ν σ)}
    (kept : ∀ field ∈ fields, ∀ part state state', good part → holds state →
      field.read part state = .ok state' → holds state')
    {items : List ν} (parts : ∀ item ∈ items, good item) {state : σ} {read : σ × List ν}
    (start : holds state) (placed : readPlaced fields items state = .ok read) : holds read.1 := by
  induction fields generalizing items state with
  | nil =>
      cases items with
      | nil =>
          cases placed
          exact start
      | cons item rest =>
          cases placed
          exact start
  | cons field others ih =>
      cases items with
      | nil =>
          cases placed
          exact start
      | cons item rest =>
          rw [readPlaced] at placed
          obtain ⟨between, readField, readOthers⟩ := bind_eq_ok.1 placed
          exact ih (fun other member => kept other (List.mem_cons_of_mem _ member))
            (fun other member => parts other (List.mem_cons_of_mem _ member))
            (kept field List.mem_cons_self item state between (parts item List.mem_cons_self) start
              readField) readOthers

/-- **What the blank record has and every field keeps, a record that is read has** in the end,
however its fields are written. -/
theorem Layout.exists_of_read {layout : Layout ν σ α}
    (listed : ∀ items closed, Source.shape part = .list items closed → ∀ item ∈ items, good item)
    (named : ∀ fields closed, Source.shape part = .map fields closed →
      ∀ field ∈ fields, good field.2)
    (blank : holds layout.blank)
    (kept : ∀ field ∈ layout.fields, ∀ part state state', good part → holds state →
      field.read part state = .ok state' → holds state')
    {record : α} (read : layout.read part = .ok record) :
    ∃ byName state, holds state ∧ layout.finish byName state = .ok record := by
  unfold Layout.read at read
  split at read
  · next fields closed shown =>
      obtain ⟨state, filled, finishes⟩ := bind_eq_ok.1 read
      refine ⟨true, state, holds_of_readNamed kept (named fields closed shown) blank filled, ?_⟩
      split at finishes
      · split at finishes
        · next finished =>
            cases finishes
            exact finished
        · cases finishes
      · cases finishes
  · next items closed shown =>
      obtain ⟨⟨state, left⟩, filled, finishes⟩ := bind_eq_ok.1 read
      refine ⟨false, state, holds_of_readPlaced kept (listed items closed shown) blank filled, ?_⟩
      dsimp only at finishes
      split at finishes
      · cases finishes
      · split at finishes
        · next ended finished =>
            have closes :
              (if closed = true then Except.ok ended else Except.error Refusal.malformed) =
                Except.ok record := by
              split at finishes
              · obtain ⟨_, -, closing⟩ := bind_eq_ok.1 finishes
                exact closing
              · exact finishes
            split at closes
            · cases closes
              exact finished
            · cases closes
        · cases finishes
  · cases read

end Invariants

end Record

namespace Form

open Record

variable {ν : Type}

/-! ## Fields -/

theorem fieldOf_eq_ok {σ β : Type} {name : String} {get : σ → Option β} {set : σ → β → σ}
    {read : ν → Except Refusal β} {part : ν} {s s' : σ}
    (done : (fieldOf name get set read).read part s = .ok s') :
    ∃ value, read part = .ok value ∧ s' = set s value := by
  obtain ⟨value, found, same⟩ := bind_eq_ok.1 done
  exact ⟨value, found, (pure_eq_ok.1 same).symm⟩

theorem need_eq_ok {β : Type} {name : String} {place : Nat} {o : Option β} {value : β}
    (found : need name place o = .ok value) : o = some value := by
  cases o with
  | none => cases found
  | some _ =>
      cases found
      rfl

variable [Source ν] {part : ν}

/-- A version reads back from its text. -/
theorem readVersion_of_shape {v : Version} (shown : Source.shape part = .text v.toText) :
    readVersion part = .ok v := by
  simp [readVersion, readText_of_shape shown, Version.ofText_toText, bind_ok, pure, Except.pure]

end Form

end ReleaseGate
