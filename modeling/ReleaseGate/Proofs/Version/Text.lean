/-
# Proofs.Version.Text — a version reads back from its text

The text of a version is four runs of digits with points between them. No run
holds a point, so the text falls apart at its points into the same four runs
(`fields_cons`, `fields_last`), and each run denotes the number it was made from
(`readPart_partText`). A part is read exactly if it is a numeral (`IsNumeral`,
`readPart_eq_ok_iff`), and a text that passes its check is read to its end, since both
passes ask the same of each part (`ofText_eq_ok_iff`).
-/
import ReleaseGate.Proofs.Outcomes
import ReleaseGate.Version

namespace ReleaseGate.Version

set_option autoImplicit false

/-! ## Falling apart at points -/

variable {separator : Char}

theorem fields_last {field : List Char} (free : separator ∉ field) :
    fields separator field = [field] := by
  induction field with
  | nil => rfl
  | cons c rest ih =>
      have differ : c ≠ separator := Ne.symm (List.ne_of_not_mem_cons free)
      rw [fields, if_neg differ, ih (List.not_mem_of_not_mem_cons free)]

theorem fields_cons {field : List Char} (free : separator ∉ field) (rest : List Char) :
    fields separator (field ++ separator :: rest) = field :: fields separator rest := by
  induction field with
  | nil => rw [List.nil_append, fields, if_pos rfl]
  | cons c more ih =>
      have differ : c ≠ separator := Ne.symm (List.ne_of_not_mem_cons free)
      rw [List.cons_append, fields, if_neg differ, ih (List.not_mem_of_not_mem_cons free)]

/-! ## Parts -/

/-- Digits of the number `n`, with any number of zeros before the others. -/
structure IsDecimal (n : UInt64) (digits : List Char) : Prop where
  used : digits ≠ []
  all : ∀ c ∈ digits, c.isDigit
  value : Nat.ofDigitChars 10 digits 0 = n.toNat

instance (n : UInt64) (digits : List Char) : Decidable (IsDecimal n digits) :=
  decidable_of_iff
    (digits ≠ [] ∧ digits.all Char.isDigit ∧ Nat.ofDigitChars 10 digits 0 = n.toNat)
    ⟨fun ⟨used, all, value⟩ => ⟨used, List.all_eq_true.1 all, value⟩,
      fun ⟨used, all, value⟩ => ⟨used, List.all_eq_true.2 all, value⟩⟩

/-- Digits of `n` with at most one plus sign before them. -/
inductive IsNumeral (n : UInt64) : List Char → Prop
  | unsigned {digits : List Char} : IsDecimal n digits → IsNumeral n digits
  | signed {digits : List Char} : IsDecimal n digits → IsNumeral n ('+' :: digits)

theorem le_ofDigitChars (digits : List Char) (n : Nat) : n ≤ Nat.ofDigitChars 10 digits n := by
  induction digits generalizing n with
  | nil => exact Nat.le_refl n
  | cons c rest ih =>
      rw [Nat.ofDigitChars_cons]
      have later := ih (10 * n + (c.toNat - '0'.toNat))
      omega

/-- Digits are gathered if there is nothing else and 64 bits hold their number. -/
theorem readDigits_eq_ok_iff {start : Nat} (fits : start < UInt64.size) {digits : List Char}
    {n : UInt64} :
    readDigits start digits = .ok n ↔
      (∀ c ∈ digits, c.isDigit) ∧ Nat.ofDigitChars 10 digits start = n.toNat := by
  induction digits generalizing start with
  | nil =>
      have whole : (UInt64.ofNat start).toNat = start := UInt64.toNat_ofNat_of_lt' fits
      rw [readDigits, Except.ok.injEq, Nat.ofDigitChars_nil, ← UInt64.toNat_inj, whole]
      simp
  | cons c rest ih =>
      rw [readDigits, Nat.ofDigitChars_cons, List.forall_mem_cons]
      dsimp only
      split
      · next digit =>
          rw [and_iff_right digit]
          split
          · next small => exact ih small
          · next large =>
              -- What follows makes the number no smaller.
              have least := le_ofDigitChars rest (10 * start + (c.toNat - '0'.toNat))
              refine ⟨nofun, fun ⟨_, value⟩ => ?_⟩
              have bound : n.toNat < UInt64.size := n.toNat_lt
              omega
      · next other => exact ⟨nofun, fun ⟨⟨digit, _⟩, _⟩ => absurd digit other⟩

theorem IsDecimal.head_ne_plus {n : UInt64} {c : Char} {rest : List Char}
    (decimal : IsDecimal n (c :: rest)) : c ≠ '+' := by
  rintro rfl
  exact absurd (decimal.all '+' List.mem_cons_self) (by decide)

theorem readDigits_zero_iff {n : UInt64} {c : Char} {rest : List Char} :
    readDigits 0 (c :: rest) = .ok n ↔ IsDecimal n (c :: rest) := by
  rw [readDigits_eq_ok_iff (by decide)]
  exact ⟨fun ⟨digits, value⟩ => ⟨List.cons_ne_nil c rest, digits, value⟩,
    fun decimal => ⟨decimal.all, decimal.value⟩⟩

/-- **A part is read exactly if it is a numeral**, as the number it denotes. -/
theorem readPart_eq_ok_iff {n : UInt64} {text : List Char} :
    readPart text = .ok n ↔ IsNumeral n text := by
  match text with
  | [] =>
      refine ⟨nofun, fun numeral => ?_⟩
      cases numeral with
      | unsigned decimal => exact absurd rfl decimal.used
  | c :: rest =>
      by_cases plus : c = '+'
      · subst plus
        have signed : IsNumeral n ('+' :: rest) ↔ IsDecimal n rest := by
          refine ⟨fun numeral => ?_, .signed⟩
          cases numeral with
          | unsigned decimal => exact absurd rfl decimal.head_ne_plus
          | signed decimal => exact decimal
        rw [signed]
        cases rest with
        | nil => exact ⟨nofun, fun decimal => absurd rfl decimal.used⟩
        | cons c rest => exact readDigits_zero_iff
      · have unsigned : IsNumeral n (c :: rest) ↔ IsDecimal n (c :: rest) := by
          refine ⟨fun numeral => ?_, .unsigned⟩
          cases numeral with
          | unsigned decimal => exact decimal
          | signed decimal => exact absurd rfl plus
        have plain : readPart (c :: rest) = readDigits 0 (c :: rest) := by
          simp [readPart, plus]
        rw [unsigned, plain, readDigits_zero_iff]

theorem toList_partText (n : UInt64) : (partText n).toList = Nat.toDigits 10 n.toNat :=
  String.toList_ofList

theorem isDecimal_partText (n : UInt64) : IsDecimal n (partText n).toList := by
  rw [toList_partText]
  exact ⟨Nat.toDigits_ne_nil,
    fun c member => Nat.isDigit_of_mem_toDigits (by decide) (by decide) member,
    Nat.ofDigitChars_ten_toDigits⟩

theorem IsDecimal.point_notMem {n : UInt64} {digits : List Char} (decimal : IsDecimal n digits) :
    '.' ∉ digits :=
  fun member => absurd (decimal.all '.' member) (by decide)

theorem point_notMem_partText (n : UInt64) : '.' ∉ (partText n).toList :=
  (isDecimal_partText n).point_notMem

/-- A part reads back from its digits. -/
theorem readPart_partText (n : UInt64) : readPart (partText n).toList = .ok n :=
  readPart_eq_ok_iff.2 (.unsigned (isDecimal_partText n))

/-! ## Versions -/

theorem numberAt_eq_ok_iff {text : String} {index : Nat} {part : List Char}
    (there : (fields '.' text.toList)[index]? = some part) {n : UInt64} :
    numberAt text index = .ok n ↔ readPart part = .ok n := by
  rw [numberAt, there]
  dsimp only
  cases readPart part with
  | error why => exact ⟨nofun, nofun⟩
  | ok m =>
      show (Except.ok m : Except Fault UInt64) = .ok n ↔ _
      rw [Except.ok.injEq, Except.ok.injEq]

/-- A valid text has four parts, and a number for each. -/
theorem isValid_iff {text : String} :
    isValid text ↔ (fields '.' text.toList).length = 4 ∧
      ∀ part ∈ fields '.' text.toList, ∃ n, readPart part = .ok n := by
  have isOk (part : List Char) : (readPart part).isOk ↔ ∃ n, readPart part = .ok n := by
    cases readPart part <;> simp [Except.isOk, Except.toBool]
  simp [isValid, isOk]

/-- **Both passes ask the same of a text**, so it is read part by part. -/
theorem ofText_eq_ok_iff {text : String} {storage major minor patch : List Char}
    (apart : fields '.' text.toList = [storage, major, minor, patch]) {v : Version} :
    ofText text = .ok v ↔
      readPart storage = .ok v.storage ∧ readPart major = .ok v.major ∧
        readPart minor = .ok v.minor ∧ readPart patch = .ok v.patch := by
  have reads (index : Nat) (part : List Char)
      (there : [storage, major, minor, patch][index]? = some part) (n : UInt64) :
      numberAt text index = .ok n ↔ readPart part = .ok n :=
    numberAt_eq_ok_iff (by rw [apart]; exact there)
  rw [ofText]
  split
  · -- The second pass asks for the parts one after the other.
    simp only [bind_eq_ok, pure_eq_ok, reads 0 storage rfl, reads 1 major rfl, reads 2 minor rfl,
      reads 3 patch rfl]
    constructor
    · rintro ⟨_, first, _, second, _, third, _, fourth, rfl⟩
      exact ⟨first, second, third, fourth⟩
    · rintro ⟨first, second, third, fourth⟩
      exact ⟨_, first, _, second, _, third, _, fourth, rfl⟩
  · next invalid =>
      -- The first pass has asked for them already.
      refine ⟨nofun, fun ⟨first, second, third, fourth⟩ => absurd ?_ invalid⟩
      rw [isValid_iff, apart]
      refine ⟨rfl, ?_⟩
      simp only [List.forall_mem_cons]
      exact ⟨⟨_, first⟩, ⟨_, second⟩, ⟨_, third⟩, ⟨_, fourth⟩, by simp⟩

/-- A valid text is read to its end. -/
theorem exists_ofText_of_isValid {text : String} (valid : isValid text) :
    ∃ v, ofText text = .ok v := by
  obtain ⟨four, each⟩ := isValid_iff.1 valid
  match apart : fields '.' text.toList, four with
  | [storage, major, minor, patch], _ =>
      rw [apart] at each
      simp only [List.forall_mem_cons] at each
      obtain ⟨⟨_, first⟩, ⟨_, second⟩, ⟨_, third⟩, ⟨_, fourth⟩, -⟩ := each
      exact ⟨⟨_, _, _, _⟩, (ofText_eq_ok_iff apart).2 ⟨first, second, third, fourth⟩⟩

/-- **Only the first pass refuses a text.** -/
theorem eq_malformed_of_ofText {text : String} {fault : Fault}
    (refused : ofText text = .error fault) : fault = .malformed text := by
  by_cases valid : isValid text
  · obtain ⟨v, read⟩ := exists_ofText_of_isValid valid
    rw [read] at refused
    cases refused
  · rw [ofText, if_neg valid] at refused
    cases refused
    rfl

theorem toList_toText (v : Version) :
    v.toText.toList =
      (partText v.storage).toList ++ '.' :: ((partText v.major).toList ++
        '.' :: ((partText v.minor).toList ++ '.' :: (partText v.patch).toList)) := by
  have point : ".".toList = ['.'] := rfl
  simp only [toText, String.toList_append, point, List.append_assoc, List.cons_append,
    List.nil_append]

/-- **A version reads back from its text.** -/
theorem ofText_toText (v : Version) : ofText v.toText = .ok v := by
  have apart : fields '.' v.toText.toList =
      [(partText v.storage).toList, (partText v.major).toList, (partText v.minor).toList,
        (partText v.patch).toList] := by
    rw [toList_toText, fields_cons (point_notMem_partText _),
      fields_cons (point_notMem_partText _), fields_cons (point_notMem_partText _),
      fields_last (point_notMem_partText _)]
  rw [ofText_eq_ok_iff apart]
  exact ⟨readPart_partText _, readPart_partText _, readPart_partText _, readPart_partText _⟩

end ReleaseGate.Version
