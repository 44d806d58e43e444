/-
# Proofs.Toml.Documents — plain documents read back

A plain document is lines that set keys to texts or whole numbers, then one header,
then more such lines. A line is read in one turn of the reader, whatever stands
below it (`sections?_line`), so the lines of a section are read in as many turns
as there are (`sections?_lines`); the header takes one more (`sections?_header`).

* `ofText?_document`: the whole document, if no key of a section is set twice.
-/
import ReleaseGate.Proofs.Toml.Numbers
import ReleaseGate.Proofs.Toml.Strings

namespace ReleaseGate.Toml

set_option autoImplicit false

/-! ## Plain documents -/

/-- A value that stands in one place of a document without brackets or braces. -/
inductive Scalar where
  | text (s : String)
  | number (n : Nat)

namespace Scalar

def write : Scalar → List Char
  | .text s => writeChars s.toList
  | .number n => Nat.toDigits 10 n

def value : Scalar → Toml
  | .text s => .text s
  | .number n => .integer n

/-- Whether a value can be written down. -/
def Fits : Scalar → Prop
  | .text _ => True
  | .number n => n < integerLimit

end Scalar

/-- Whether a key needs no quotes. -/
def IsBareKey (key : String) : Prop := key.toList ≠ [] ∧ ∀ c ∈ key.toList, isBare c

instance (key : String) : Decidable (IsBareKey key) :=
  decidable_of_iff (key.toList ≠ [] ∧ key.toList.all isBare) (by simp [IsBareKey])

/-- A key that needs no quotes, and its value. -/
structure Assignment where
  key : String
  scalar : Scalar
  bare : IsBareKey key

namespace Assignment

def line (e : Assignment) : List Char :=
  e.key.toList ++ ' ' :: '=' :: ' ' :: (e.scalar.write ++ ['\n'])

def field (e : Assignment) : String × Toml := (e.key, e.scalar.value)

end Assignment

def lines (entries : List Assignment) : List Char := entries.flatMap Assignment.line

/-- The lines of a section without a header, a blank line below them, and a section that
has one. -/
def document (front : List Assignment) (key : String) (back : List Assignment) : List Char :=
  lines front ++ (if front.isEmpty then [] else ['\n']) ++
    '[' :: (key.toList ++ ']' :: '\n' :: lines back)

/-! ## Keys -/

section Keys

variable {key : String} {rest : List Char}

/-- A bare key begins with a bare character. -/
theorem IsBareKey.exists_cons (bare : IsBareKey key) :
    ∃ c more, key.toList = c :: more ∧ isBare c := by
  obtain ⟨c, more, front⟩ := List.exists_cons_of_ne_nil bare.1
  exact ⟨c, more, front, bare.2 c (front ▸ List.mem_cons_self)⟩

theorem ne_of_isBare {c d : Char} (bare : isBare c) (other : isBare d = false := by decide) :
    c ≠ d := by
  rintro rfl
  rw [bare] at other
  cases other

theorem keyPart?_append (bare : IsBareKey key) (ends : ∀ c ∈ rest.head?, isBare c = false) :
    keyPart? (key.toList ++ rest) = some (key, rest) := by
  have unquoted : shortString? (key.toList ++ rest) = none := by
    obtain ⟨c, more, front, first⟩ := bare.exists_cons
    have noDouble : c ≠ '"' := ne_of_isBare first
    have noSingle : c ≠ '\'' := ne_of_isBare first
    simp [front, shortString?, noDouble, noSingle]
  unfold keyPart?
  rw [unquoted, Text.takeWhile_run bare.2 ends, Text.dropWhile_run bare.2 ends]
  simp [bare.1]

theorem dropWhile_isSpace_key (bare : IsBareKey key) :
    (key.toList ++ rest).dropWhile isSpace = key.toList ++ rest := by
  obtain ⟨c, more, front, first⟩ := bare.exists_cons
  have noBlank : c ≠ ' ' := ne_of_isBare first
  have noTab : c ≠ '\t' := ne_of_isBare first
  simp [front, isSpace, noBlank, noTab]

/-- A bare key is a key of one part, if no point follows it. -/
theorem key?_append (bare : IsBareKey key) (ends : ∀ c ∈ rest.head?, isBare c = false)
    (single : (rest.dropWhile isSpace).head? ≠ some '.') :
    key? (key.toList ++ rest) = some ([], key, rest.dropWhile isSpace) := by
  unfold key? nestingLimit keyUpTo?
  rw [dropWhile_isSpace_key bare, keyPart?_append bare ends]
  cases left : rest.dropWhile isSpace with
  | nil => simp [left]
  | cons c more =>
      have noPoint : c ≠ '.' := fun same => single (by rw [left, same]; rfl)
      simp [left, noPoint]

/-- Where a key stands the reader is past blanks and comments. -/
theorem pastTrivia_key (bare : IsBareKey key) :
    pastTrivia false (key.toList ++ rest) = some (key.toList ++ rest) := by
  obtain ⟨c, more, front, first⟩ := bare.exists_cons
  have other (d : Char) (dull : isBare d = false := by decide) : c ≠ d := ne_of_isBare first dull
  simp [front, pastTrivia, isSpace, other '\n', other '\r', other '#', other ' ', other '\t']

end Keys

/-! ## Values -/

theorem isScalarChar_of_isDigit {c : Char} (digit : c.isDigit) : isScalarChar c := by
  simp [isScalarChar, Char.isAlphanum, digit]

/-- A text begins with a quote. -/
theorem exists_quote_writeChars (cs : List Char) :
    ∃ quote more, writeChars cs = quote :: more ∧ (quote = '"' ∨ quote = '\'') := by
  unfold writeChars
  cases styleOf cs with
  | basic | longBasic => exact ⟨'"', _, rfl, .inl rfl⟩
  | literal | longLiteral => exact ⟨'\'', _, rfl, .inr rfl⟩
  | escaped =>
      dsimp only
      split
      · exact ⟨'"', _, rfl, .inl rfl⟩
      · exact ⟨'"', _, rfl, .inl rfl⟩

theorem scalarChars_digits {digits : List Char} (all : ∀ c ∈ digits, c.isDigit) (rest : List Char) :
    scalarChars (digits ++ '\n' :: rest) = (digits, '\n' :: rest) := by
  have whole : ∀ c ∈ digits, isScalarChar c := fun c member =>
    isScalarChar_of_isDigit (all c member)
  have ends : ∀ c ∈ ('\n' :: rest).head?, isScalarChar c = false := by simp; decide
  simp [scalarChars, Text.takeWhile_run whole ends, Text.dropWhile_run whole ends]

section Values

variable {c : Char} {more chars rest : List Char} (fuel depth : Nat)

theorem value?_quoted (quote : c = '"' ∨ c = '\'')
    (read : string? (c :: more) = some (chars, rest)) :
    value? (fuel + 1) depth (c :: more) = some (.text (String.ofList chars), rest) := by
  rcases quote with rfl | rfl
  · simp [value?, read]
  · simp [value?, read]

theorem value?_digit {value : Toml} (digit : c.isDigit)
    (apart : scalarChars (c :: more) = (chars, rest)) (read : scalar? chars = some value) :
    value? (fuel + 1) depth (c :: more) = some (value, rest) := by
  have other (d : Char) (noDigit : d.isDigit = false := by decide) : c ≠ d :=
    Text.ne_of_isDigit digit noDigit
  simp [value?, other '[', other '\x7b', other '"', other '\'', apart, read]

end Values

/-- **A value reads back** at the end of its line. -/
theorem value?_write {s : Scalar} (fits : s.Fits) (fuel depth : Nat) (rest : List Char) :
    value? (fuel + 1) depth (s.write ++ '\n' :: rest) = some (s.value, '\n' :: rest) := by
  cases s with
  | text s =>
      have ends : EndsText ('\n' :: rest) := ⟨by simp, by simp⟩
      have read := string?_writeChars s.toList ends
      obtain ⟨quote, more, front, isQuote⟩ := exists_quote_writeChars s.toList
      rw [front, List.cons_append] at read
      rw [Scalar.write, front, List.cons_append, value?_quoted fuel depth isQuote read,
        String.ofList_toList, Scalar.value]
  | number n =>
      have all : ∀ c ∈ Nat.toDigits 10 n, c.isDigit := fun c => Text.isDigit_of_mem_toDigits
      have apart := scalarChars_digits all rest
      obtain ⟨c, more, front, digit⟩ := Text.exists_cons_toDigits n
      have number := scalar?_toDigits fits
      rw [front, List.cons_append] at apart
      rw [Scalar.write, front, List.cons_append,
        value?_digit fuel depth digit apart (front ▸ number)]
      rfl

/-- No blank stands in front of a value. -/
theorem dropWhile_isSpace_write (s : Scalar) (rest : List Char) :
    (s.write ++ rest).dropWhile isSpace = s.write ++ rest := by
  cases s with
  | text s =>
      obtain ⟨quote, more, front, isQuote⟩ := exists_quote_writeChars s.toList
      rw [Scalar.write, front]
      rcases isQuote with rfl | rfl <;> rfl
  | number n =>
      obtain ⟨c, more, front, digit⟩ := Text.exists_cons_toDigits n
      have noBlank : c ≠ ' ' := Text.ne_of_isDigit digit
      have noTab : c ≠ '\t' := Text.ne_of_isDigit digit
      rw [Scalar.write, front]
      simp [isSpace, noBlank, noTab]

/-! ## Lines -/

theorem lines_cons (e : Assignment) (more : List Assignment) :
    lines (e :: more) = e.line ++ lines more := rfl

theorem assignment?_line {e : Assignment} (fits : e.scalar.Fits) (rest : List Char) :
    assignment? (e.line ++ rest) = some ([], e.key, e.scalar.value, '\n' :: rest) := by
  let set := ' ' :: '=' :: ' ' :: (e.scalar.write ++ '\n' :: rest)
  have written : e.line ++ rest = e.key.toList ++ set := by simp [Assignment.line, set]
  have named : key? (e.key.toList ++ set) = some ([], e.key, set.dropWhile isSpace) :=
    key?_append e.bare (by simp [set]; decide) (by simp [set, isSpace])
  rw [written, assignment?, named]
  simp [set, isSpace, dropWhile_isSpace_write, value?_write fits]

theorem lineEnd?_feed (rest : List Char) : lineEnd? ('\n' :: rest) = some rest := by
  simp [lineEnd?, isSpace, pastComment, lineBreak?]

theorem lookup_of_new {fields : Fields} {key : String} (new : ∀ field ∈ fields, field.1 ≠ key) :
    fields.lookup key = none := by
  rw [List.lookup_eq_none_iff]
  intro field member
  simpa using Ne.symm (new field member)

/-- One line is read in one turn. -/
theorem sections?_line {e : Assignment} (fits : e.scalar.Fits) {s : Sections}
    (new : s.current.lookup e.key = none) (fuel : Nat) (rest : List Char) :
    sections? (fuel + 1) s (e.line ++ rest) =
      sections? fuel { s with current := s.current ++ [e.field] } rest := by
  have assignment := assignment?_line fits rest
  have clear : pastTrivia false (e.line ++ rest) = some (e.line ++ rest) := by
    rw [Assignment.line, List.append_assoc]
    exact pastTrivia_key e.bare
  obtain ⟨c, more, front, noHeader⟩ : ∃ c more, e.line ++ rest = c :: more ∧ c ≠ '[' := by
    obtain ⟨c, more, front, first⟩ := e.bare.exists_cons
    exact ⟨c, _, by rw [Assignment.line, front]; rfl, ne_of_isBare first⟩
  have added : s.current.addUnder [] e.key e.scalar.value = some (s.current ++ [e.field]) := by
    simp [Fields.addUnder, Fields.add, new, Assignment.field]
  rw [front] at assignment clear ⊢
  simp [sections?, clear, noHeader, assignment, added, lineEnd?_feed]

/-- Lines are read in as many turns. -/
theorem sections?_lines {entries : List Assignment} (fits : ∀ e ∈ entries, e.scalar.Fits)
    {s : Sections}
    (distinct : (s.current.map Prod.fst ++ entries.map Assignment.key).Nodup) (fuel : Nat)
    (rest : List Char) :
    sections? (fuel + entries.length) s (lines entries ++ rest) =
      sections? fuel { s with current := s.current ++ entries.map Assignment.field } rest := by
  induction entries generalizing s with
  | nil => simp [lines]
  | cons e more ih =>
      have new : s.current.lookup e.key = none := lookup_of_new fun field member same =>
        (List.nodup_append.1 distinct).2.2 field.1 (List.mem_map_of_mem member) e.key
          List.mem_cons_self same
      have next := ih (s := { s with current := s.current ++ [e.field] })
        (fun e' member => fits e' (List.mem_cons_of_mem _ member))
        (by simpa [Assignment.field] using distinct)
      rw [lines_cons, List.append_assoc, List.length_cons, ← Nat.add_assoc,
        sections?_line (fits e List.mem_cons_self) new, next, List.append_assoc]
      rfl

/-! ## The whole -/

theorem sections?_blankLine (fuel : Nat) (s : Sections) (rest : List Char) :
    sections? (fuel + 1) s ('\n' :: rest) = sections? (fuel + 1) s rest := by
  rw [sections?, sections?, pastTrivia]

/-- A header that is the first one closes the section without a header and opens an empty one. -/
theorem sections?_header {key : String} (bare : IsBareKey key) {fields : Fields}
    (new : ∀ field ∈ fields, field.1 ≠ key) (fuel : Nat) (rest : List Char) :
    sections? (fuel + 1) { current := fields } ('[' :: (key.toList ++ ']' :: '\n' :: rest)) =
      sections? fuel { whole := fields, header := some ⟨[], key, false⟩ } rest := by
  have named : key? (key.toList ++ ']' :: '\n' :: rest) = some ([], key, ']' :: '\n' :: rest) :=
    key?_append bare (by simp; decide) (by simp [isSpace])
  have noBracket : ∀ more, key.toList ++ ']' :: '\n' :: rest ≠ '[' :: more := by
    obtain ⟨c, more, front, first⟩ := bare.exists_cons
    intro other same
    rw [front, List.cons_append] at same
    have differ : c ≠ '[' := ne_of_isBare first
    exact differ (List.cons.inj same).1
  have header : header? (key.toList ++ ']' :: '\n' :: rest) =
      some (⟨[], key, false⟩, '\n' :: rest) := by
    unfold header?
    split
    · next more same => exact absurd same (noBracket more)
    · simp [named]
  have begun : Sections.begin { current := fields } ⟨[], key, false⟩ =
      some { whole := fields, header := some ⟨[], key, false⟩ } := by
    have kept : fields.without key = fields := List.filter_eq_self.2 (by simpa using new)
    simp [Sections.begin, Sections.finish, tableAt, openTable, lookup_of_new new,
      Fields.atPath, kept]
  have clear (more : List Char) : pastTrivia false ('[' :: more) = some ('[' :: more) := by
    simp [pastTrivia, isSpace]
  simp [sections?, clear, header, begun, lineEnd?_feed]

theorem length_le_lines (entries : List Assignment) : entries.length ≤ (lines entries).length := by
  induction entries with
  | nil => exact Nat.zero_le _
  | cons e more ih =>
      rw [lines_cons, List.length_append, List.length_cons]
      have : 0 < e.line.length :=
        List.length_pos_of_mem (List.mem_append_right _ List.mem_cons_self)
      omega

/-- A plain document has no mark in front. -/
theorem pastByteOrderMark_document (front : List Assignment) (key : String)
    (back : List Assignment) :
    pastByteOrderMark (document front key back) = document front key back := by
  cases front with
  | nil => simp [document, lines, pastByteOrderMark]
  | cons e more =>
      obtain ⟨c, tail, start, first⟩ := e.bare.exists_cons
      have noMark : c ≠ '\ufeff' := ne_of_isBare first
      simp [document, lines_cons, Assignment.line, start, pastByteOrderMark, noMark]

section Documents

variable {front back : List Assignment} {key : String}

theorem new_of_distinct (distinct : (front.map Assignment.key ++ [key]).Nodup) :
    ∀ field ∈ front.map Assignment.field, field.1 ≠ key := by
  intro field member
  obtain ⟨e, isIn, rfl⟩ := List.mem_map.1 member
  obtain ⟨-, -, apart⟩ := List.nodup_append.1 distinct
  exact apart e.key (List.mem_map_of_mem isIn) key List.mem_cons_self

/-- What is left of a plain document in the end: the section below its header is still
under construction. -/
theorem sections?_document (bare : IsBareKey key) (fits : ∀ e ∈ front ++ back, e.scalar.Fits)
    (frontDistinct : (front.map Assignment.key ++ [key]).Nodup)
    (backDistinct : (back.map Assignment.key).Nodup) (spare : Nat) :
    sections? (spare + 1 + back.length + 1 + front.length) {} (document front key back) =
      some { whole := front.map Assignment.field, header := some ⟨[], key, false⟩,
             current := back.map Assignment.field } := by
  have frontNodup := (List.nodup_append.1 frontDistinct).1
  have frontFits : ∀ e ∈ front, e.scalar.Fits := fun e member =>
    fits e (List.mem_append_left back member)
  have backFits : ∀ e ∈ back, e.scalar.Fits := fun e member =>
    fits e (List.mem_append_right front member)
  let below := '[' :: (key.toList ++ ']' :: '\n' :: lines back)
  calc sections? (spare + 1 + back.length + 1 + front.length) {} (document front key back)
      = sections? (spare + 1 + back.length + 1) { current := front.map Assignment.field }
          ((if front.isEmpty then [] else ['\n']) ++ below) := by
        rw [document, List.append_assoc, sections?_lines frontFits (by simpa using frontNodup)]
        rfl
    _ = sections? (spare + 1 + back.length + 1) { current := front.map Assignment.field } below := by
        split
        · rfl
        · exact sections?_blankLine _ _ below
    _ = sections? (spare + 1 + back.length)
          { whole := front.map Assignment.field, header := some ⟨[], key, false⟩ } (lines back) :=
        sections?_header bare (new_of_distinct frontDistinct) _ (lines back)
    _ = sections? (spare + 1)
          { whole := front.map Assignment.field, header := some ⟨[], key, false⟩,
            current := back.map Assignment.field } [] := by
        rw [← List.append_nil (lines back), sections?_lines backFits (by simpa using backDistinct)]
        rfl
    _ = _ := by simp [sections?, pastTrivia]

/-- **A plain document reads back** as its entries and one table with the entries below
its header, if no key is set twice. -/
theorem ofText?_document (bare : IsBareKey key) (fits : ∀ e ∈ front ++ back, e.scalar.Fits)
    (frontDistinct : (front.map Assignment.key ++ [key]).Nodup)
    (backDistinct : (back.map Assignment.key).Nodup) :
    ofText? (String.ofList (document front key back)) =
      some (.table .header
        (front.map Assignment.field ++ [(key, .table .header (back.map Assignment.field))])) := by
  obtain ⟨spare, turns⟩ : ∃ spare, (document front key back).length + 1 =
      spare + 1 + back.length + 1 + front.length := by
    have front_le := length_le_lines front
    have back_le := length_le_lines back
    refine ⟨(document front key back).length + 1 - (back.length + 2 + front.length), ?_⟩
    simp only [document, List.length_append, List.length_cons]
    omega
  have new := lookup_of_new (new_of_distinct frontDistinct)
  rw [ofText?, String.toList_ofList, pastByteOrderMark_document, turns,
    sections?_document bare fits frontDistinct backDistinct spare]
  simp [Sections.finish, Fields.atPath, settle, Fields.add, new]

end Documents

end ReleaseGate.Toml
