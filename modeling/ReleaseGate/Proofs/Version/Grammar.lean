/-
# Proofs.Version.Grammar — which texts are versions

A text is a version if it is four numerals with points between them (`IsDotted`).
What falls apart at points is put together with points again (`intercalate_fields`), so
this is what both passes over a text look for (`ofText_iff_dotted`). Of all the texts of
one version a single one has neither signs nor zeros to leave out: the one that is
written (`isDotted_plain_iff`).

* `ofText_grammar`: the texts that are read, in a document too, and the one that is
  written.
-/
import ReleaseGate.Proofs.Form.Records
import ReleaseGate.Proofs.Json.Scan
import ReleaseGate.Proofs.Version.Text

namespace ReleaseGate

set_option autoImplicit false

namespace Version

/-- Four parts with points between them, each in the way that `Written` tells. -/
def IsDotted (Written : UInt64 → List Char → Prop) (v : Version) (text : String) : Prop :=
  ∃ storage major minor patch,
    text.toList = storage ++ '.' :: (major ++ '.' :: (minor ++ '.' :: patch)) ∧
    Written v.storage storage ∧ Written v.major major ∧ Written v.minor minor ∧
    Written v.patch patch

/-! ## Points -/

section Points

variable {separator : Char}

theorem fields_ne_nil (text : List Char) : fields separator text ≠ [] := by
  cases text with
  | nil => exact List.cons_ne_nil _ _
  | cons c rest =>
      rw [fields]
      split
      · exact List.cons_ne_nil _ _
      · split <;> exact List.cons_ne_nil _ _

/-- What falls apart at separators is put together with them. -/
theorem intercalate_fields (text : List Char) :
    [separator].intercalate (fields separator text) = text := by
  induction text with
  | nil => rfl
  | cons c rest ih =>
      obtain ⟨field, more, apart⟩ := List.exists_cons_of_ne_nil (fields_ne_nil rest)
      rw [apart] at ih
      rw [fields, apart]
      split
      · next same =>
          rw [List.intercalate_cons_cons, ih, same]
          rfl
      · dsimp only
        rw [← ih]
        cases more with
        | nil => simp
        | cons next others =>
            rw [List.intercalate_cons_cons, List.intercalate_cons_cons]
            rfl

end Points

theorem IsNumeral.point_notMem {n : UInt64} {part : List Char} (numeral : IsNumeral n part) :
    '.' ∉ part := by
  cases numeral with
  | unsigned decimal => exact decimal.point_notMem
  | signed decimal =>
      intro member
      rcases List.mem_cons.1 member with same | member
      · exact absurd same (by decide)
      · exact decimal.point_notMem member

/-! ## Texts that are read -/

theorem isValid_of_ofText {text : String} {v : Version} (read : ofText text = .ok v) :
    isValid text := by
  by_cases valid : isValid text
  · exact valid
  · rw [ofText, if_neg valid] at read
    cases read

/-- **A text is read exactly if it is four numerals with points between them.** -/
theorem ofText_iff_dotted {text : String} {v : Version} :
    ofText text = .ok v ↔ IsDotted IsNumeral v text := by
  constructor
  · intro read
    match apart : fields '.' text.toList, (isValid_iff.1 (isValid_of_ofText read)).1 with
    | [storage, major, minor, patch], _ =>
        rw [ofText_eq_ok_iff apart] at read
        simp only [readPart_eq_ok_iff] at read
        have whole : ['.'].intercalate (fields '.' text.toList) = text.toList :=
          intercalate_fields text.toList
        rw [apart] at whole
        refine ⟨storage, major, minor, patch, ?_, read⟩
        rw [← whole]
        simp
  · rintro ⟨storage, major, minor, patch, shape, first, second, third, fourth⟩
    have apart : fields '.' text.toList = [storage, major, minor, patch] := by
      rw [shape, fields_cons first.point_notMem, fields_cons second.point_notMem,
        fields_cons third.point_notMem, fields_last fourth.point_notMem]
    rw [ofText_eq_ok_iff apart]
    simp only [readPart_eq_ok_iff]
    exact ⟨first, second, third, fourth⟩

/-- The two passes over a text agree on it. -/
theorem isValid_iff_exists_ofText {text : String} : isValid text ↔ ∃ v, ofText text = .ok v :=
  ⟨exists_ofText_of_isValid, fun ⟨_, read⟩ => isValid_of_ofText read⟩

/-! ## The text that is written -/

/-- A numeral with nothing to leave out: no sign, and no zero before another digit. -/
structure IsPlain (n : UInt64) (part : List Char) : Prop where
  numeral : IsNumeral n part
  unsigned : '+' ∉ part
  noZeros : part.head? = some '0' → part = ['0']

/-- A digit is the character of a number below ten. -/
theorem exists_digitChar_of_isDigit {c : Char} (digit : c.isDigit) :
    ∃ n < 10, c.toNat - '0'.toNat = n ∧ Nat.digitChar n = c := by
  have zero : '0'.toNat = 48 := rfl
  have bounds : 48 ≤ c.toNat ∧ c.toNat ≤ 57 := by
    simpa [Char.isDigit, UInt32.le_iff_toNat_le] using digit
  refine ⟨c.toNat - '0'.toNat, by omega, rfl, Char.toNat_inj.1 ?_⟩
  rw [Nat.toNat_digitChar_of_lt_ten (by omega)]
  omega

/-- Digits behind a number other than zero are the last digits of what they make of it. -/
theorem toDigits_ofDigitChars {digits : List Char} (all : ∀ c ∈ digits, c.isDigit) {n : Nat}
    (positive : 0 < n) :
    Nat.toDigits 10 (Nat.ofDigitChars 10 digits n) = Nat.toDigits 10 n ++ digits := by
  induction digits generalizing n with
  | nil => simp
  | cons c rest ih =>
      rw [List.forall_mem_cons] at all
      obtain ⟨digit, small, value, shown⟩ := exists_digitChar_of_isDigit all.1
      calc Nat.toDigits 10 (Nat.ofDigitChars 10 (c :: rest) n)
        _ = Nat.toDigits 10 (10 * n + digit) ++ rest := by
            rw [Nat.ofDigitChars_cons, value, ih all.2 (by omega)]
        _ = Nat.toDigits 10 n ++ [c] ++ rest := by
            rw [← Nat.toDigits_append_toDigits (by decide) positive small,
              Nat.toDigits_of_lt_base small, shown]
        _ = Nat.toDigits 10 n ++ c :: rest := by simp

/-- The plain numeral of a number is the one that is written. -/
theorem isPlain_iff {n : UInt64} {part : List Char} :
    IsPlain n part ↔ part = (partText n).toList := by
  constructor
  · intro plain
    have decimal : IsDecimal n part := by
      cases plain.numeral with
      | unsigned decimal => exact decimal
      | signed _ => exact absurd List.mem_cons_self plain.unsigned
    rw [toList_partText, ← decimal.value]
    obtain ⟨c, rest, rfl⟩ := List.exists_cons_of_ne_nil decimal.used
    by_cases zero : c = '0'
    · subst zero
      rw [plain.noZeros rfl]
      rfl
    · -- The first digit is the number that the others stand behind.
      obtain ⟨digit, small, value, shown⟩ :=
        exists_digitChar_of_isDigit (decimal.all c List.mem_cons_self)
      have positive : 0 < digit := by
        rcases Nat.eq_zero_or_pos digit with rfl | positive
        · exact absurd shown.symm zero
        · exact positive
      have others : ∀ c ∈ rest, c.isDigit := fun c member =>
        decimal.all c (List.mem_cons_of_mem _ member)
      rw [Nat.ofDigitChars_cons, value, Nat.mul_zero, Nat.zero_add,
        toDigits_ofDigitChars others positive, Nat.toDigits_of_lt_base small, shown]
      rfl
  · rintro rfl
    refine ⟨.unsigned (isDecimal_partText n), ?_, ?_⟩
    · intro member
      exact absurd ((isDecimal_partText n).all _ member) (by decide)
    · intro first
      rw [toList_partText] at first ⊢
      obtain ⟨rest, front⟩ := List.head?_eq_some_iff.1 first
      rw [front, Text.toDigits_zero_cons front]

/-- **One text of a version has nothing to leave out.** -/
theorem isDotted_plain_iff {v : Version} {text : String} :
    IsDotted IsPlain v text ↔ text = v.toText := by
  rw [← String.toList_inj, toList_toText]
  simp only [IsDotted, isPlain_iff]
  constructor
  · rintro ⟨storage, major, minor, patch, shape, rfl, rfl, rfl, rfl⟩
    exact shape
  · intro shape
    exact ⟨_, _, _, _, shape, rfl, rfl, rfl, rfl⟩

end Version

/-! ## Documents -/

namespace Form

open Record

theorem readText_eq_ok_iff {ν : Type} [Source ν] {part : ν} {text : String} :
    readText part = .ok text ↔ Source.shape part = .text text := by
  unfold readText
  split
  · next same => simp [same]
  · next other =>
      refine ⟨nofun, fun same => ?_⟩
      exact absurd same (other text)

/-- A document holds a version where it holds a text of one. -/
theorem readVersion_eq_ok_iff {ν : Type} [Source ν] {part : ν} {v : Version} :
    readVersion part = .ok v ↔
      ∃ text, Source.shape part = .text text ∧ Version.ofText text = .ok v := by
  simp only [readVersion, bind_eq_ok, readText_eq_ok_iff]
  refine exists_congr fun text => and_congr_right fun _ => ?_
  cases Version.ofText text with
  | ok w => simp [pure, Except.pure]
  | error fault => exact iff_of_false throw_ne_ok throw_ne_ok

/-- In a JSON document that is a text, the text is what is read. -/
theorem read_write_text {text : String} {v : Version} :
    (Json.Document.ofText (Json.text text).write).read readVersion = .ok v ↔
      Version.ofText text = .ok v := by
  have root : (Json.Document.ofText (Json.text text).write).read readVersion =
      (readVersion (Json.Place.root (.text text)) >>= fun v => .ok v) := by
    rw [Json.ofText_write (.text text)]
    rfl
  have shown : Source.shape (Json.Place.root (.text text)) = .text text := rfl
  rw [root, bind_eq_ok]
  simp only [readVersion_eq_ok_iff, shown, Except.ok.injEq, exists_eq_right, Shape.text.injEq]
  simp

end Form

namespace Version

/-- **The texts of versions.** A text is read exactly if it is four numerals with points
between them, as their numbers; the two passes over it agree, so only the first refuses.
A version reads back from its text, which is the one text of it without signs and
zeros to leave out. Documents hold a version as such a text and in no other way. -/
theorem ofText_grammar :
    (∀ text v, ofText text = .ok v ↔ IsDotted IsNumeral v text) ∧
    (∀ text, isValid text ↔ ∃ v, ofText text = .ok v) ∧
    (∀ text fault, ofText text = .error fault → fault = .malformed text) ∧
    (∀ v, ofText v.toText = .ok v) ∧
    (∀ text v, IsDotted IsPlain v text ↔ text = v.toText) ∧
    (∀ (ν : Type) [Record.Source ν] (part : ν) v, Form.readVersion part = .ok v ↔
      ∃ text, Record.Source.shape part = .text text ∧ ofText text = .ok v) ∧
    (∀ text v, (Json.Document.ofText (Json.text text).write).read Form.readVersion = .ok v ↔
      ofText text = .ok v) ∧
    ∀ v, Form.versionJson v = .text v.toText :=
  ⟨fun _ _ => ofText_iff_dotted, fun _ => isValid_iff_exists_ofText,
    fun _ _ => eq_malformed_of_ofText, ofText_toText, fun _ _ => isDotted_plain_iff,
    fun _ _ _ _ => Form.readVersion_eq_ok_iff, fun _ _ => Form.read_write_text, fun _ => rfl⟩

/-- A text with a sign and with zeros to leave out. -/
def signedText : String := "+1.002.0.18446744073709551615"

/-- A text with a number too large. -/
def largeText : String := "1.2.0.18446744073709551616"

theorem dotted_signedText : IsDotted IsNumeral ⟨1, 2, 0, 18446744073709551615⟩ signedText :=
  ⟨['+', '1'], ['0', '0', '2'], ['0'], "18446744073709551615".toList, by decide +kernel,
    .signed (by decide +kernel), .unsigned (by decide +kernel), .unsigned (by decide +kernel),
    .unsigned (by decide +kernel)⟩

/-- A sign and zeros are read, though they are not written; a number too large is refused
with the text as a whole. -/
theorem ofText_grammar_signed :
    ofText signedText = .ok ⟨1, 2, 0, 18446744073709551615⟩ ∧
    ¬ IsDotted IsPlain ⟨1, 2, 0, 18446744073709551615⟩ signedText ∧
    ¬ (∃ v, ofText largeText = .ok v) ∧
    ∀ part why, ofText largeText ≠ .error (.badPart part largeText why) := by
  obtain ⟨grammar, valid, refused, -, plain, -⟩ := ofText_grammar
  refine ⟨(grammar _ _).2 dotted_signedText, fun dotted => ?_, fun read => ?_,
    fun part why other => ?_⟩
  · exact absurd ((plain _ _).1 dotted) (by decide +kernel)
  · exact absurd ((valid _).2 read) (by decide +kernel)
  · cases refused _ _ other

end Version

end ReleaseGate
