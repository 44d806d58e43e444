/-
# Proofs.Text.Hex — which texts are bytes in hex

Bytes may be written with digits of either case, chosen digit by digit
(`WritesBytes`), and are read back from each of these texts (`readHex_of_writes`). A
text that is not of this form is refused: past a mark in front, it must be an even
number of digits (`readHex_eq_ok_iff`). The reader works on bytes and the statement
is about characters; a digit is a character of ASCII, and the bytes of any other
character are no digits.
-/
import ReleaseGate.Proofs.Text.Bytes

namespace ReleaseGate.Text

set_option autoImplicit false

/-! ## Digits -/

/-- The digits of numbers below sixteen. -/
def IsHexDigit (c : Char) : Prop :=
  ('0' ≤ c ∧ c ≤ '9') ∨ ('a' ≤ c ∧ c ≤ 'f') ∨ ('A' ≤ c ∧ c ≤ 'F')

instance (c : Char) : Decidable (IsHexDigit c) :=
  inferInstanceAs (Decidable (_ ∨ _ ∨ _))

/-- An even number of digits. -/
def IsHexText (text : List Char) : Prop := text.length % 2 = 0 ∧ ∀ c ∈ text, IsHexDigit c

/-- Whether `c` is the digit of `n`, in either case. -/
def WritesDigit (n : Nat) (c : Char) : Prop := c = hexDigit n ∨ c = (hexDigit n).toUpper

/-- Bytes written with two digits each, the more significant one first. -/
inductive WritesBytes : List UInt8 → List Char → Prop
  | nil : WritesBytes [] []
  | cons {byte : UInt8} {bytes : List UInt8} {high low : Char} {text : List Char} :
      WritesDigit (byte.toNat / 16) high → WritesDigit (byte.toNat % 16) low →
        WritesBytes bytes text → WritesBytes (byte :: bytes) (high :: low :: text)

theorem hexValue?_of_writes {n : Nat} {c : Char} (small : n < 16) (writes : WritesDigit n c) :
    hexValue? c = some n := by
  have both : ∀ n < 16, hexValue? (hexDigit n) = some n ∧ hexValue? (hexDigit n).toUpper = some n :=
    by decide
  rcases writes with rfl | rfl
  · exact (both n small).1
  · exact (both n small).2

theorem isSome_hexValue?_iff {c : Char} : (hexValue? c).isSome ↔ IsHexDigit c := by
  simp only [IsHexDigit, le_iff_toNat, Char.reduceToNat, hexValue?]
  repeat' split
  all_goals
    simp only [Option.isSome_some, Option.isSome_none, true_iff, Bool.false_eq_true, false_iff]
    omega

theorem WritesDigit.isHexDigit {n : Nat} {c : Char} (writes : WritesDigit n c) (small : n < 16) :
    IsHexDigit c := by
  rw [← isSome_hexValue?_iff, hexValue?_of_writes small writes]
  rfl

theorem IsHexDigit.ascii {c : Char} (digit : IsHexDigit c) : c.toNat < 128 := by
  rcases digit with ⟨-, least⟩ | ⟨-, least⟩ | ⟨-, least⟩ <;>
    exact Nat.lt_of_le_of_lt least (by decide)

theorem halves_lt (byte : UInt8) : byte.toNat / 16 < 16 ∧ byte.toNat % 16 < 16 := by
  have := byte.toNat_lt
  omega

namespace WritesBytes

variable {bytes more : List UInt8} {text rest : List Char}

theorem isHexDigit (writes : WritesBytes bytes text) : ∀ c ∈ text, IsHexDigit c := by
  induction writes with
  | nil => simp
  | cons high low _ ih =>
      rw [List.forall_mem_cons, List.forall_mem_cons]
      exact ⟨high.isHexDigit (halves_lt _).1, low.isHexDigit (halves_lt _).2, ih⟩

theorem length_eq (writes : WritesBytes bytes text) : text.length = 2 * bytes.length := by
  induction writes with
  | nil => rfl
  | cons _ _ _ ih =>
      simp only [List.length_cons, ih]
      omega

theorem append (front : WritesBytes bytes text) (back : WritesBytes more rest) :
    WritesBytes (bytes ++ more) (text ++ rest) := by
  induction front with
  | nil => exact back
  | cons high low _ ih => exact .cons high low ih

end WritesBytes

/-- Bytes are written in lower case. -/
theorem writesBytes_hexOfBytes (bytes : List UInt8) :
    WritesBytes bytes (hexOfBytes bytes).toList := by
  rw [hexOfBytes, String.toList_ofList]
  induction bytes with
  | nil => exact .nil
  | cons byte rest ih => exact .cons (.inl rfl) (.inl rfl) ih

/-! ## Bytes that are digits -/

theorem hexValueOfByte?_of_ascii {c : Char} (ascii : c.toNat < 128) :
    hexValueOfByte? (UInt8.ofNat c.toNat) = hexValue? c := by
  rw [hexValueOfByte?, UInt8.toNat_ofNat', Nat.mod_eq_of_lt (by omega), Char.ofNat_toNat]

theorem hexValueOfByte?_of_high {byte : UInt8} (high : 128 ≤ byte.toNat) :
    hexValueOfByte? byte = none := by
  have bound := byte.toNat_lt
  have same : (Char.ofNat byte.toNat).toNat = byte.toNat := by
    have valid : byte.toNat.isValidChar := .inl (by omega)
    rw [Char.ofNat, dif_pos valid]
    rfl
  simp only [hexValueOfByte?, hexValue?, same]
  rw [if_neg (by omega), if_neg (by omega), if_neg (by omega)]

/-- The bytes of a character are digits if the character is one. -/
theorem forall_encode_iff {c : Char} :
    (∀ byte ∈ String.utf8EncodeChar c, (hexValueOfByte? byte).isSome) ↔ IsHexDigit c := by
  by_cases ascii : c.toNat < 128
  · rw [encode_of_ascii ascii, List.forall_mem_singleton, hexValueOfByte?_of_ascii ascii,
      isSome_hexValue?_iff]
  · constructor
    · intro digits
      obtain ⟨byte, more, shape⟩ :=
        List.exists_cons_of_ne_nil (String.utf8EncodeChar_ne_nil (c := c))
      have member : byte ∈ String.utf8EncodeChar c := shape ▸ List.mem_cons_self
      have digit := digits byte member
      rw [hexValueOfByte?_of_high (high_of_mem_encode (Nat.not_lt.1 ascii) member)] at digit
      cases digit
    · intro digit
      exact absurd digit.ascii ascii

/-- The bytes of a text are digits if its characters are. -/
theorem forall_bytesOf_iff {text : List Char} :
    (∀ byte ∈ bytesOf text, (hexValueOfByte? byte).isSome) ↔ ∀ c ∈ text, IsHexDigit c := by
  simp only [← forall_encode_iff, bytesOf, List.mem_flatMap]
  constructor
  · intro digits c member byte inside
    exact digits byte ⟨c, member, inside⟩
  · rintro digits byte ⟨c, member, inside⟩
    exact digits c member byte inside

/-! ## Reading -/

/-- Pairs of bytes are read exactly if all of them are digits. -/
theorem readHexPairs_eq_ok_iff {position : Nat} {digits : List UInt8}
    (even : digits.length % 2 = 0) :
    (∃ bytes, readHexPairs position digits = .ok bytes) ↔
      ∀ byte ∈ digits, (hexValueOfByte? byte).isSome := by
  fun_induction readHexPairs position digits with
  | case1 position high low rest none => simp [none]
  | case2 position high low rest h some none => simp [none]
  | case3 position high low rest h someHigh l someLow ih =>
      have rest_iff := ih (by simp only [List.length_cons] at even; omega)
      simp only [List.forall_mem_cons, someHigh, someLow, Option.isSome_some, true_and, ← rest_iff]
      cases readHexPairs (position + 2) rest <;> simp [bind, Except.bind, pure, Except.pure]
  | case4 digits position short =>
      match digits, short, even with
      | [], _, _ => simp
      | [_], _, odd => simp at odd
      | high :: low :: rest, short, _ => exact absurd rfl (short high low rest)

/-- What is written in hex is read back. -/
theorem readHexPairs_of_writes {bytes : List UInt8} {text : List Char}
    (writes : WritesBytes bytes text) (position : Nat) :
    readHexPairs position (bytesOf text) = .ok bytes := by
  induction writes generalizing position with
  | nil => rfl
  | @cons byte bytes high low text writesHigh writesLow _ ih =>
      have bounds := halves_lt byte
      have highAscii := (writesHigh.isHexDigit bounds.1).ascii
      have lowAscii := (writesLow.isHexDigit bounds.2).ascii
      have value : 16 * (byte.toNat / 16) + byte.toNat % 16 = byte.toNat := Nat.div_add_mod _ _
      have apart : bytesOf (high :: low :: text) =
          UInt8.ofNat high.toNat :: UInt8.ofNat low.toNat :: bytesOf text := by
        simp [bytesOf, encode_of_ascii highAscii, encode_of_ascii lowAscii]
      rw [apart, readHexPairs, hexValueOfByte?_of_ascii highAscii,
        hexValueOfByte?_of_ascii lowAscii, hexValue?_of_writes bounds.1 writesHigh,
        hexValue?_of_writes bounds.2 writesLow]
      simp only [ih, value, UInt8.ofNat_toNat]
      rfl

/-- The text without one mark in front. -/
def dropMark : List Char → List Char
  | '0' :: 'x' :: rest => rest
  | '0' :: 'X' :: rest => rest
  | text => text

theorem dropHexMark_of_not {digits : List UInt8} (lower : ¬ [0x30, 0x78] <+: digits)
    (upper : ¬ [0x30, 0x58] <+: digits) : dropHexMark digits = digits := by
  unfold dropHexMark
  split
  · simp at lower
  · simp at upper
  · rfl

theorem dropMark_of_not {text : List Char} (lower : ¬ ['0', 'x'] <+: text)
    (upper : ¬ ['0', 'X'] <+: text) : dropMark text = text := by
  unfold dropMark
  split
  · simp at lower
  · simp at upper
  · rfl

/-- A mark of bytes is a mark of characters. -/
theorem dropHexMark_bytesOf (text : List Char) :
    dropHexMark (bytesOf text) = bytesOf (dropMark text) := by
  by_cases lower : ['0', 'x'] <+: text
  · obtain ⟨rest, rfl⟩ := lower
    rfl
  by_cases upper : ['0', 'X'] <+: text
  · obtain ⟨rest, rfl⟩ := upper
    rfl
  have noLower : ¬ bytesOf ['0', 'x'] <+: bytesOf text :=
    mt (bytesOf_prefix_iff (by simp)).1 lower
  have noUpper : ¬ bytesOf ['0', 'X'] <+: bytesOf text :=
    mt (bytesOf_prefix_iff (by simp)).1 upper
  rw [dropMark_of_not lower upper, dropHexMark_of_not noLower noUpper]

theorem readHex_ofList (text : List Char) :
    readHex (String.ofList text) =
      if (bytesOf (dropMark text)).length % 2 = 0 then readHexPairs 0 (bytesOf (dropMark text))
      else .error .oddLength := by
  rw [readHex, bytes_ofList, dropHexMark_bytesOf]

/-- **A text is read exactly if it is an even number of digits** after a mark. -/
theorem readHex_eq_ok_iff {text : List Char} :
    (∃ bytes, readHex (String.ofList text) = .ok bytes) ↔ IsHexText (dropMark text) := by
  rw [readHex_ofList, IsHexText, ← forall_bytesOf_iff]
  have even_iff (digits : ∀ c ∈ dropMark text, IsHexDigit c) :
      (bytesOf (dropMark text)).length = (dropMark text).length := by
    rw [bytesOf_of_ascii fun c member => (digits c member).ascii, List.length_map]
  split
  · next even =>
      rw [readHexPairs_eq_ok_iff even, forall_bytesOf_iff]
      exact ⟨fun digits => ⟨even_iff digits ▸ even, digits⟩, And.right⟩
  · next odd =>
      simp only [reduceCtorEq, exists_false, false_iff, forall_bytesOf_iff]
      rintro ⟨even, digits⟩
      exact odd (even_iff digits ▸ even)

theorem WritesBytes.dropMark_eq {bytes : List UInt8} {text : List Char}
    (writes : WritesBytes bytes text) : dropMark text = text := by
  have digits := writes.isHexDigit
  refine dropMark_of_not ?_ ?_
  · rintro ⟨rest, rfl⟩
    exact absurd (digits 'x' (by simp)) (by decide)
  · rintro ⟨rest, rfl⟩
    exact absurd (digits 'X' (by simp)) (by decide)

/-- What is written in hex is read back, with digits of either case. -/
theorem readHex_of_writes {bytes : List UInt8} {text : List Char}
    (writes : WritesBytes bytes text) : readHex (String.ofList text) = .ok bytes := by
  have even : (bytesOf text).length % 2 = 0 := by
    rw [bytesOf_of_ascii fun c member => (writes.isHexDigit c member).ascii, List.length_map,
      writes.length_eq]
    omega
  rw [readHex_ofList, writes.dropMark_eq, if_pos even, readHexPairs_of_writes writes]

end ReleaseGate.Text
