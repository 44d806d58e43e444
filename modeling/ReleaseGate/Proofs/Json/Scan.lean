/-
# Proofs.Json.Scan — a written value is scanned whole

The text of a value without doubles is scanned as the draft of that value, and what
follows the text is left (`Scans`). A number has no end of its own, so what follows
must not go on with it; in a list or an object it is a comma or a bracket.

The proof follows the value: `scanItems_of_each` and `scanFields_of_each` carry it
from the parts to the whole. The scanner has fuel for two turns per character, and
every part of a value is shorter than the value.
-/
import ReleaseGate.Proofs.Json.Strings
import ReleaseGate.Proofs.Text.Runs

namespace ReleaseGate

set_option autoImplicit false

namespace Json

/-! ## Drafts of values -/

mutual

/-- The draft of a value: everything in it is closed. -/
def draft : Json → Draft
  | .null => .null
  | .bool b => .bool b
  | .number n => .number n
  | .text s => .text s
  | .list items => .list (draftItems items) true
  | .object fields => .object (draftFields fields) true

def draftItems : List Json → List Draft
  | [] => []
  | item :: rest => item.draft :: draftItems rest

def draftFields : List (String × Json) → List (Option String × Draft)
  | [] => []
  | (key, value) :: rest => (some key, value.draft) :: draftFields rest

end

theorem draftItems_eq (items : List Json) : draftItems items = items.map draft := by
  induction items with
  | nil => rfl
  | cons item rest ih => rw [draftItems, ih, List.map_cons]

theorem draftFields_eq (fields : List (String × Json)) :
    draftFields fields = fields.map fun field => (some field.1, field.2.draft) := by
  induction fields with
  | nil => rfl
  | cons field rest ih => rw [draftFields, ih, List.map_cons]

/-- A value without doubles in which no object holds a key twice. -/
inductive Clean : Json → Prop where
  | null : Clean .null
  | bool (b : Bool) : Clean (.bool b)
  | integer (n : Int) (least : leastInteger ≤ n) (below : n < integerLimit) :
      Clean (.number (.integer n least below))
  | text (s : String) : Clean (.text s)
  | list {items : List Json} (each : ∀ item ∈ items, Clean item) : Clean (.list items)
  | object {fields : List (String × Json)} (keys : (fields.map Prod.fst).Nodup)
      (each : ∀ field ∈ fields, Clean field.2) : Clean (.object fields)

/-! ## Numbers -/

/-- Whether a number ends where this text begins. -/
def EndsNumber (rest : List Char) : Prop :=
  ∀ c ∈ rest.head?, c.isDigit = false ∧ c ≠ '.' ∧ c ≠ 'e' ∧ c ≠ 'E'

theorem digitRun_append {digits rest : List Char} (all : ∀ c ∈ digits, c.isDigit)
    (ends : EndsNumber rest) : digitRun (digits ++ rest) = (digits, rest) := by
  have stops : ∀ c ∈ rest.head?, c.isDigit = false := fun c first => (ends c first).1
  rw [digitRun, Text.takeWhile_run all stops, Text.dropWhile_run all stops]

theorem scanExponent_of_ends (negative : Bool) (whole : List Char) {rest : List Char}
    (ends : EndsNumber rest) :
    scanExponent negative whole [] rest = (readInteger negative whole, rest) := by
  unfold scanExponent
  split
  · exact absurd rfl (ends _ rfl).2.2.1
  · exact absurd rfl (ends _ rfl).2.2.2
  · rfl

theorem scanMagnitude_toDigits (negative : Bool) (n : Nat) {rest : List Char}
    (ends : EndsNumber rest) :
    scanMagnitude negative (Nat.toDigits 10 n ++ rest) =
      (readInteger negative (Nat.toDigits 10 n), rest) := by
  have run := digitRun_append (fun c => Text.isDigit_of_mem_toDigits (n := n)) ends
  unfold scanMagnitude
  rw [run]
  split
  · next empty => exact absurd (Prod.mk.inj empty).1 Nat.toDigits_ne_nil
  · next front =>
      exact absurd (Text.toDigits_zero_cons (Prod.mk.inj front).1) (List.cons_ne_nil _ _)
  · next front =>
      rw [(Prod.mk.inj front).2] at ends
      exact absurd rfl (ends '.' rfl).2.1
  · next whole left _ _ _ same =>
      obtain ⟨rfl, rfl⟩ := Prod.mk.inj same
      exact scanExponent_of_ends negative _ ends

theorem readInteger_toDigits (negative : Bool) (n : Nat) {value : Int}
    (spelled : value = if negative then - Int.ofNat n else Int.ofNat n)
    (used : ¬ (negative = true ∧ n = 0)) (least : leastInteger ≤ value)
    (below : value < integerLimit) :
    readInteger negative (Nat.toDigits 10 n) = .number (.integer value least below) := by
  subst spelled
  have number : digitsValue (Nat.toDigits 10 n) = n := Nat.ofDigitChars_ten_toDigits
  simp only [readInteger, number]
  rw [dif_pos ⟨least, below, used⟩]

/-! ## One turn of the scanner -/

/-- Whether a text begins with neither a blank nor a closing bracket. -/
def Opens (text : List Char) : Prop :=
  ∃ c more, text = c :: more ∧ isBlank c = false ∧ c ≠ ']' ∧ c ≠ '\x7d'

theorem Opens.append {text : List Char} (opens : Opens text) (rest : List Char) :
    Opens (text ++ rest) := by
  obtain ⟨c, more, rfl, front⟩ := opens
  exact ⟨c, more ++ rest, rfl, front⟩

theorem skipBlanks_cons {c : Char} (dark : isBlank c = false) (more : List Char) :
    skipBlanks (c :: more) = c :: more := by
  simp [skipBlanks, dark]

theorem isBlank_of_isDigit {c : Char} (digit : c.isDigit) : isBlank c = false := by
  have other (d : Char) (noDigit : d.isDigit = false := by decide) : c ≠ d :=
    Text.ne_of_isDigit digit noDigit
  simp [isBlank, other ' ', other '\n', other '\t', other '\r']

theorem draft_ne_broken (j : Json) : j.draft ≠ .broken := by
  cases j <;> simp [draft]

section Turns

variable {fuel : Nat} {text more after : List Char}

theorem scanValue_digit {c : Char} (digit : c.isDigit) :
    scanValue (fuel + 1) (c :: more) = scanMagnitude false (c :: more) := by
  have other (d : Char) (noDigit : d.isDigit = false := by decide) : c ≠ d :=
    Text.ne_of_isDigit digit noDigit
  simp [scanValue, skipBlanks_cons (isBlank_of_isDigit digit), other '"', other '[', other '\x7b',
    other '-', other 'n', other 't', other 'f']

theorem scanValue_list {items : List Draft} {closed : Bool} (opens : Opens text)
    (scanned : scanItems fuel text = (items, closed, after)) :
    scanValue (fuel + 1) ('[' :: text) = (.list items closed, after) := by
  obtain ⟨c, more, rfl, dark, inside, -⟩ := opens
  have bracket : isBlank '[' = false := by decide
  simp [scanValue, skipBlanks_cons bracket, skipBlanks_cons dark, inside, scanned]

theorem scanValue_object {fields : List (Option String × Draft)} {closed : Bool}
    (opens : Opens text) (scanned : scanFields fuel text = (fields, closed, after)) :
    scanValue (fuel + 1) ('\x7b' :: text) = (.object fields closed, after) := by
  obtain ⟨c, more, rfl, dark, -, inside⟩ := opens
  have brace : isBlank '\x7b' = false := by decide
  simp [scanValue, skipBlanks_cons brace, skipBlanks_cons dark, inside, scanned]

section Items

variable {item : Draft}

theorem scanItems_last (whole : item ≠ .broken)
    (scanned : scanValue fuel text = (item, ']' :: after)) :
    scanItems (fuel + 1) text = ([item], true, after) := by
  have bracket : isBlank ']' = false := by decide
  rw [scanItems, scanned]
  simp only [skipBlanks_cons bracket]

theorem scanItems_next {items : List Draft} {closed : Bool} (whole : item ≠ .broken)
    (scanned : scanValue fuel text = (item, ',' :: more)) (opens : Opens more)
    (others : scanItems fuel more = (items, closed, after)) :
    scanItems (fuel + 1) text = (item :: items, closed, after) := by
  obtain ⟨c, tail, rfl, dark, inside, -⟩ := opens
  have comma : isBlank ',' = false := by decide
  rw [scanItems, scanned]
  simp [skipBlanks_cons comma, skipBlanks_cons dark, inside, others]

end Items

/-- The characters of a key and of the colon behind it, in front of its value. -/
def keyChars (key : String) (rest : List Char) : List Char :=
  '"' :: (key.toList.flatMap escapeChar ++ '"' :: ':' :: rest)

theorem keyChars_append (key : String) (value rest : List Char) :
    keyChars key value ++ rest = keyChars key (value ++ rest) := by
  simp [keyChars]

theorem length_lt_keyChars (key : String) (rest : List Char) :
    rest.length < (keyChars key rest).length := by
  simp only [keyChars, List.length_cons, List.length_append]
  omega

section Fields

variable {key : String} {value : Draft}

theorem scanFields_last (whole : value ≠ .broken)
    (scanned : scanValue fuel text = (value, '\x7d' :: after)) :
    scanFields (fuel + 1) (keyChars key text) = ([(some key, value)], true, after) := by
  have colon : isBlank ':' = false := by decide
  have brace : isBlank '\x7d' = false := by decide
  rw [keyChars, scanFields, scanString_quote]
  simp only [skipBlanks_cons colon, scanned, skipBlanks_cons brace]

theorem scanFields_next {fields : List (Option String × Draft)} {closed : Bool}
    (whole : value ≠ .broken) (scanned : scanValue fuel text = (value, ',' :: more))
    (opens : Opens more) (others : scanFields fuel more = (fields, closed, after)) :
    scanFields (fuel + 1) (keyChars key text) = ((some key, value) :: fields, closed, after) := by
  obtain ⟨c, tail, rfl, dark, -, -⟩ := opens
  have colon : isBlank ':' = false := by decide
  have comma : isBlank ',' = false := by decide
  rw [keyChars, scanFields, scanString_quote]
  simp only [skipBlanks_cons colon, scanned, skipBlanks_cons comma, skipBlanks_cons dark, others]

end Fields

end Turns

/-! ## Whole values -/

/-- The characters of a value's text. -/
def chars (j : Json) : List Char := j.write.toList

def itemChars (items : List Json) : List Char := (writeItems items).toList

def fieldChars (fields : List (String × Json)) : List Char := (writeFields fields).toList

theorem chars_list (items : List Json) :
    (Json.list items).chars = '[' :: (itemChars items ++ [']']) := by
  simp [chars, write, itemChars]

theorem chars_object (fields : List (String × Json)) :
    (Json.object fields).chars = '\x7b' :: (fieldChars fields ++ ['\x7d']) := by
  simp [chars, write, fieldChars]

theorem itemChars_single (item : Json) : itemChars [item] = item.chars := rfl

theorem itemChars_cons (item next : Json) (rest : List Json) :
    itemChars (item :: next :: rest) = item.chars ++ ',' :: itemChars (next :: rest) := by
  simp [itemChars, writeItems, chars]

theorem fieldChars_single (field : String × Json) :
    fieldChars [field] = keyChars field.1 field.2.chars := by
  simp [fieldChars, writeFields, chars, keyChars, toList_quote]

theorem fieldChars_cons (field next : String × Json) (rest : List (String × Json)) :
    fieldChars (field :: next :: rest) =
      keyChars field.1 (field.2.chars ++ ',' :: fieldChars (next :: rest)) := by
  simp [fieldChars, writeFields, chars, keyChars, toList_quote]

/-- Whether the text of a value is scanned as its draft. -/
structure Scans (j : Json) : Prop where
  opens : Opens j.chars
  reads : ∀ (fuel : Nat) (rest : List Char), 2 * j.chars.length ≤ fuel → EndsNumber rest →
    scanValue fuel (j.chars ++ rest) = (j.draft, rest)

/-- A value is scanned if the turn that its text opens scans it. -/
theorem Scans.of_turn {j : Json} {text : List Char} (written : j.chars = text) (opens : Opens text)
    (turn : ∀ (spare : Nat) (rest : List Char), 2 * text.length ≤ spare + 1 → EndsNumber rest →
      scanValue (spare + 1) (text ++ rest) = (j.draft, rest)) : Scans j := by
  subst written
  refine ⟨opens, fun fuel rest enough ends => ?_⟩
  obtain ⟨spare, rfl⟩ : ∃ spare, fuel = spare + 1 := by
    obtain ⟨c, more, same, -⟩ := opens
    refine Nat.exists_eq_add_one.2 ?_
    rw [same, List.length_cons] at enough
    omega
  exact turn spare rest enough ends

theorem scans_null : Scans .null := by
  have written : (Json.null).chars = ['n', 'u', 'l', 'l'] := rfl
  refine .of_turn written ⟨'n', _, rfl, by decide⟩ fun spare rest _ _ => ?_
  simp [scanValue, skipBlanks, isBlank, scanLiteral, draft]

theorem scans_bool (b : Bool) : Scans (.bool b) := by
  cases b with
  | true =>
      have written : (Json.bool true).chars = ['t', 'r', 'u', 'e'] := rfl
      refine .of_turn written ⟨'t', _, rfl, by decide⟩ fun spare rest _ _ => ?_
      simp [scanValue, skipBlanks, isBlank, scanLiteral, draft]
  | false =>
      have written : (Json.bool false).chars = ['f', 'a', 'l', 's', 'e'] := rfl
      refine .of_turn written ⟨'f', _, rfl, by decide⟩ fun spare rest _ _ => ?_
      simp [scanValue, skipBlanks, isBlank, scanLiteral, draft]

theorem opens_toDigits (n : Nat) : Opens (Nat.toDigits 10 n) := by
  obtain ⟨c, more, front, digit⟩ := Text.exists_cons_toDigits n
  exact ⟨c, more, front, isBlank_of_isDigit digit, Text.ne_of_isDigit digit,
    Text.ne_of_isDigit digit⟩

theorem scans_integer (n : Int) (least : leastInteger ≤ n) (below : n < integerLimit) :
    Scans (.number (.integer n least below)) := by
  cases n with
  | ofNat n =>
      have read : readInteger false (Nat.toDigits 10 n) =
          .number (.integer (Int.ofNat n) least below) :=
        readInteger_toDigits false n rfl (by simp) least below
      refine .of_turn String.toList_ofList (opens_toDigits n) fun spare rest _ ends => ?_
      obtain ⟨c, more, front, digit⟩ := Text.exists_cons_toDigits n
      have scanned := scanMagnitude_toDigits false n ends
      rw [read, front, List.cons_append] at scanned
      rw [front, List.cons_append, scanValue_digit digit, scanned, draft]
  | negSucc n =>
      have written : (Json.number (.integer (Int.negSucc n) least below)).chars =
          '-' :: Nat.toDigits 10 (n + 1) := by
        simp [chars, write, Number.write]
      have read : readInteger true (Nat.toDigits 10 (n + 1)) =
          .number (.integer (Int.negSucc n) least below) :=
        readInteger_toDigits true (n + 1) rfl (by simp) least below
      refine .of_turn written ⟨'-', _, rfl, by decide⟩ fun spare rest _ ends => ?_
      have minus : isBlank '-' = false := by decide
      rw [List.cons_append, scanValue, skipBlanks_cons minus]
      simp only [scanMagnitude_toDigits true (n + 1) ends]
      rw [read, draft]

theorem scans_text (s : String) : Scans (.text s) := by
  refine .of_turn (toList_quote s) ⟨'"', _, rfl, by decide⟩ fun spare rest _ _ => ?_
  have quote : isBlank '"' = false := by decide
  simp [scanValue, skipBlanks_cons quote, scanString_quote, draft]

/-! ## Lists and objects -/

theorem endsNumber_cons {c : Char} (mark : c.isDigit = false ∧ c ≠ '.' ∧ c ≠ 'e' ∧ c ≠ 'E')
    (rest : List Char) : EndsNumber (c :: rest) := by
  intro d first
  obtain rfl := Option.some.inj first
  exact mark

/-- The texts of some values open like the first of them. -/
theorem opens_itemChars {items : List Json} (used : items ≠ [])
    (each : ∀ item ∈ items, Scans item) : Opens (itemChars items) := by
  match items with
  | [item] => exact (each item List.mem_cons_self).opens
  | item :: next :: rest =>
      rw [itemChars_cons]
      exact (each item List.mem_cons_self).opens.append _

theorem opens_keyChars (key : String) (rest : List Char) : Opens (keyChars key rest) :=
  ⟨'"', _, rfl, by decide⟩

theorem opens_fieldChars {fields : List (String × Json)} (used : fields ≠ []) :
    Opens (fieldChars fields) := by
  match fields with
  | [field] =>
      rw [fieldChars_single]
      exact opens_keyChars _ _
  | field :: next :: rest =>
      rw [fieldChars_cons]
      exact opens_keyChars _ _

/-- If each value is scanned, so is their list. -/
theorem scanItems_of_each {items : List Json} (used : items ≠ [])
    (each : ∀ item ∈ items, Scans item) {fuel : Nat}
    (enough : 2 * (itemChars items).length < fuel) (rest : List Char) :
    scanItems fuel (itemChars items ++ ']' :: rest) = (items.map draft, true, rest) := by
  induction items generalizing fuel with
  | nil => exact absurd rfl used
  | cons item others ih =>
      have first := each item List.mem_cons_self
      obtain ⟨spare, rfl⟩ := Nat.exists_eq_add_one.2 (Nat.zero_lt_of_lt enough)
      cases others with
      | nil =>
          rw [itemChars_single] at enough ⊢
          exact scanItems_last (draft_ne_broken item)
            (first.reads spare _ (by omega) (endsNumber_cons (by decide) rest))
      | cons next more =>
          have rest_each : ∀ other ∈ next :: more, Scans other := fun other member =>
            each other (List.mem_cons_of_mem _ member)
          rw [itemChars_cons, List.length_append, List.length_cons] at enough
          rw [itemChars_cons, List.append_assoc, List.cons_append]
          exact scanItems_next (draft_ne_broken item)
            (first.reads spare _ (by omega) (endsNumber_cons (by decide) _))
            ((opens_itemChars (List.cons_ne_nil _ _) rest_each).append _)
            (ih (List.cons_ne_nil _ _) rest_each (by omega))

/-- If each value is scanned, so are the fields that hold them. -/
theorem scanFields_of_each {fields : List (String × Json)} (used : fields ≠ [])
    (each : ∀ field ∈ fields, Scans field.2) {fuel : Nat}
    (enough : 2 * (fieldChars fields).length < fuel) (rest : List Char) :
    scanFields fuel (fieldChars fields ++ '\x7d' :: rest) =
      (fields.map fun field => (some field.1, field.2.draft), true, rest) := by
  induction fields generalizing fuel with
  | nil => exact absurd rfl used
  | cons field others ih =>
      have first := each field List.mem_cons_self
      obtain ⟨spare, rfl⟩ := Nat.exists_eq_add_one.2 (Nat.zero_lt_of_lt enough)
      cases others with
      | nil =>
          rw [fieldChars_single] at enough ⊢
          have shorter := length_lt_keyChars field.1 field.2.chars
          rw [keyChars_append]
          exact scanFields_last (draft_ne_broken field.2)
            (first.reads spare _ (by omega) (endsNumber_cons (by decide) rest))
      | cons next more =>
          have rest_each : ∀ other ∈ next :: more, Scans other.2 := fun other member =>
            each other (List.mem_cons_of_mem _ member)
          rw [fieldChars_cons] at enough ⊢
          have shorter := length_lt_keyChars field.1
            (field.2.chars ++ ',' :: fieldChars (next :: more))
          rw [List.length_append, List.length_cons] at shorter
          rw [keyChars_append, List.append_assoc, List.cons_append]
          exact scanFields_next (draft_ne_broken field.2)
            (first.reads spare _ (by omega) (endsNumber_cons (by decide) _))
            ((opens_fieldChars (List.cons_ne_nil _ _)).append _)
            (ih (List.cons_ne_nil _ _) rest_each (by omega))

theorem scans_list {items : List Json} (each : ∀ item ∈ items, Scans item) :
    Scans (.list items) := by
  refine .of_turn (chars_list items) ⟨'[', _, rfl, by decide⟩ fun spare rest enough _ => ?_
  rw [draft, draftItems_eq]
  simp only [List.cons_append, List.append_assoc, List.nil_append]
  cases items with
  | nil =>
      have brackets : isBlank '[' = false ∧ isBlank ']' = false := by decide
      simp [itemChars, writeItems, scanValue, skipBlanks_cons brackets.1,
        skipBlanks_cons brackets.2]
  | cons item others =>
      have used : item :: others ≠ [] := List.cons_ne_nil _ _
      rw [List.length_cons, List.length_append] at enough
      exact scanValue_list ((opens_itemChars used each).append _)
        (scanItems_of_each used each (by omega) rest)

theorem scans_object {fields : List (String × Json)} (each : ∀ field ∈ fields, Scans field.2) :
    Scans (.object fields) := by
  refine .of_turn (chars_object fields) ⟨'\x7b', _, rfl, by decide⟩ fun spare rest enough _ => ?_
  rw [draft, draftFields_eq]
  simp only [List.cons_append, List.append_assoc, List.nil_append]
  cases fields with
  | nil =>
      have braces : isBlank '\x7b' = false ∧ isBlank '\x7d' = false := by decide
      simp [fieldChars, writeFields, scanValue, skipBlanks_cons braces.1, skipBlanks_cons braces.2]
  | cons field others =>
      have used : field :: others ≠ [] := List.cons_ne_nil _ _
      rw [List.length_cons, List.length_append] at enough
      exact scanValue_object ((opens_fieldChars used).append _)
        (scanFields_of_each used each (by omega) rest)

/-- **Every value without doubles is scanned as its draft.** -/
theorem scans_of_clean {j : Json} (clean : Clean j) : Scans j := by
  induction clean with
  | null => exact scans_null
  | bool b => exact scans_bool b
  | integer n least below => exact scans_integer n least below
  | text s => exact scans_text s
  | list _ ih => exact scans_list ih
  | object _ _ ih => exact scans_object ih

/-- The text of a value is scanned to its end. -/
theorem ofText_write {j : Json} (clean : Clean j) : Document.ofText j.write = ⟨j.draft, true⟩ := by
  have scanned := (scans_of_clean clean).reads (2 * j.chars.length + 2) [] (by omega)
    (fun _ first => by cases first)
  rw [List.append_nil, chars] at scanned
  simp only [Document.ofText, scanned]
  rfl

end Json

end ReleaseGate
