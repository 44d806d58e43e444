/-
# Proofs.Version.Buffer — which buffers hold decimal digits, and of which version

A buffer of four words falls apart into them and is put together from them
(`bufferWord_zero`, `bufferWord_succ`, `eq_of_words`). The hex text of a word is its
half bytes, written as digits. A word denotes a number if these are decimal digits
that spell it (`Spells`, `readPart_hexOfBytes`), one word at most
(`Spells.unique`), and each number of 64 bits has one (`spells_decimalWord`).

* `ofHexDigits_exact`: which buffers are read, and as what.
-/
import Mathlib.Data.Nat.Digits.Lemmas
import ReleaseGate.Proofs.Text.Hex
import ReleaseGate.Proofs.Version.Text
import ReleaseGate.Version.Buffer

namespace ReleaseGate.Version

set_option autoImplicit false

open Text (hexDigit hexOfBytes)

/-! ## Words -/

section Words

variable {buffer word rest : List UInt8}

theorem bufferWord_zero (size : word.length = wordSize) : bufferWord (word ++ rest) 0 = word := by
  rw [bufferWord, Nat.mul_zero, List.drop_zero, ← size, List.take_left]

theorem bufferWord_succ (size : word.length = wordSize) (index : Nat) :
    bufferWord (word ++ rest) (index + 1) = bufferWord rest index := by
  rw [bufferWord, bufferWord, Nat.mul_add, Nat.mul_one, Nat.add_comm, ← List.drop_drop, ← size,
    List.drop_left]

/-- Items of one word each stand in the buffer in their order. -/
theorem bufferWord_flatMap {α : Type} {word : α → List UInt8}
    (size : ∀ item, (word item).length = wordSize) {items : List α} {index : Nat}
    (inside : index < items.length) :
    bufferWord (items.flatMap word) index = word items[index] := by
  induction items generalizing index with
  | nil => cases inside
  | cons item rest ih =>
      rw [List.flatMap_cons]
      cases index with
      | zero => exact bufferWord_zero (size item)
      | succ index =>
          rw [bufferWord_succ (size item), ih (Nat.lt_of_succ_lt_succ inside)]
          rfl

theorem length_flatMap_words {α : Type} {word : α → List UInt8}
    (size : ∀ item, (word item).length = wordSize) (items : List α) :
    (items.flatMap word).length = wordSize * items.length := by
  induction items with
  | nil => rfl
  | cons item rest ih =>
      rw [List.flatMap_cons, List.length_append, size, ih, List.length_cons, Nat.mul_succ,
        Nat.add_comm]

theorem length_bufferWord (full : buffer.length = bufferSize) {index : Nat} (inside : index < 4) :
    (bufferWord buffer index).length = wordSize := by
  simp only [bufferWord, List.length_take, List.length_drop, full, wordSize, bufferSize]
  omega

/-- A buffer is its four words. -/
theorem eq_of_words (full : buffer.length = bufferSize) :
    bufferWord buffer 0 ++ (bufferWord buffer 1 ++ (bufferWord buffer 2 ++ bufferWord buffer 3)) =
      buffer := by
  have split (index : Nat) :
      bufferWord buffer index ++ buffer.drop (wordSize * (index + 1)) =
        buffer.drop (wordSize * index) := by
    rw [Nat.mul_add, Nat.mul_one, ← List.drop_drop]
    exact List.take_append_drop wordSize _
  have last : bufferWord buffer 3 = buffer.drop (wordSize * 3) := by
    refine List.take_of_length_le ?_
    simp [full, wordSize, bufferSize]
  rw [last, split 2, split 1, split 0]
  rfl

end Words

/-! ## Digits -/

/-- The halves of bytes, as digits of base sixteen. -/
def nibbles (bytes : List UInt8) : List Nat :=
  bytes.flatMap fun byte => [byte.toNat / 16, byte.toNat % 16]

/-- The number that decimal digits spell, the most significant one first. -/
def decimal (digits : List Nat) : Nat := Nat.ofDigits 10 digits.reverse

theorem decimal_concat (digits : List Nat) (last : Nat) :
    decimal (digits ++ [last]) = 10 * decimal digits + last := by
  rw [decimal, List.reverse_append, List.reverse_singleton, List.singleton_append,
    Nat.ofDigits_cons, Nat.add_comm]
  rfl

theorem nibbles_append (front back : List UInt8) :
    nibbles (front ++ back) = nibbles front ++ nibbles back := List.flatMap_append

theorem length_nibbles (bytes : List UInt8) : (nibbles bytes).length = 2 * bytes.length := by
  induction bytes with
  | nil => rfl
  | cons byte rest ih =>
      rw [nibbles, List.flatMap_cons, List.length_append, ← nibbles, ih, List.length_cons]
      simp only [List.length_cons, List.length_nil]
      omega

theorem lt_of_mem_nibbles {bytes : List UInt8} {digit : Nat} (member : digit ∈ nibbles bytes) :
    digit < 16 := by
  obtain ⟨byte, -, half⟩ := List.mem_flatMap.1 member
  have bounds := Text.halves_lt byte
  simp only [List.mem_cons, List.not_mem_nil, or_false] at half
  omega

theorem nibbles_inj {bytes bytes' : List UInt8} (same : nibbles bytes = nibbles bytes') :
    bytes = bytes' := by
  induction bytes generalizing bytes' with
  | nil =>
      cases bytes' with
      | nil => rfl
      | cons byte rest => cases same
  | cons byte rest ih =>
      cases bytes' with
      | nil => cases same
      | cons byte' rest' =>
          obtain ⟨high, more⟩ := List.cons.inj same
          obtain ⟨low, later⟩ := List.cons.inj more
          have first : byte = byte' := UInt8.toNat_inj.1 (by omega)
          rw [first, ih later]

theorem toList_hexOfBytes (bytes : List UInt8) :
    (hexOfBytes bytes).toList = (nibbles bytes).map hexDigit := by
  rw [hexOfBytes, String.toList_ofList, nibbles, List.map_flatMap]
  rfl

/-! ## Digits as characters -/

theorem isDigit_hexDigit_iff {digit : Nat} (small : digit < 16) :
    (hexDigit digit).isDigit ↔ digit ≤ 9 := by
  have all : ∀ digit < 16, (hexDigit digit).isDigit ↔ digit ≤ 9 := by decide
  exact all digit small

theorem hexDigit_not_mem {digit : Nat} (small : digit < 16) : hexDigit digit ∉ ['+', '.'] := by
  have all : ∀ digit < 16, hexDigit digit ∉ ['+', '.'] := by decide
  exact all digit small

theorem toNat_hexDigit {digit : Nat} (few : digit ≤ 9) :
    (hexDigit digit).toNat - '0'.toNat = digit := by
  have all : ∀ digit ≤ 9, (hexDigit digit).toNat - '0'.toNat = digit := by decide
  exact all digit few

theorem ofDigitChars_map_hexDigit {digits : List Nat} (few : ∀ digit ∈ digits, digit ≤ 9) :
    Nat.ofDigitChars 10 (digits.map hexDigit) 0 = decimal digits := by
  induction digits using List.reverseRecOn with
  | nil => rfl
  | append_singleton digits last ih =>
      rw [List.forall_mem_append, List.forall_mem_singleton] at few
      rw [decimal_concat, ← ih few.1, List.map_append, List.map_singleton, Nat.ofDigitChars,
        List.foldl_append, List.foldl_cons, List.foldl_nil, toNat_hexDigit few.2]
      rfl

theorem point_notMem_hexOfBytes (bytes : List UInt8) : '.' ∉ (hexOfBytes bytes).toList := by
  rw [toList_hexOfBytes, List.mem_map]
  rintro ⟨digit, member, same⟩
  exact hexDigit_not_mem (lt_of_mem_nibbles member) (by simp [same])

/-! ## Words that spell a number -/

/-- Whether the hex digits of a word are decimal digits that spell a number. -/
def Spells (word : List UInt8) (n : UInt64) : Prop :=
  (∀ digit ∈ nibbles word, digit ≤ 9) ∧ decimal (nibbles word) = n.toNat

instance (word : List UInt8) (n : UInt64) : Decidable (Spells word n) :=
  inferInstanceAs (Decidable (_ ∧ _))

/-- The hex text of a word is read as what its digits spell. -/
theorem readPart_hexOfBytes {word : List UInt8} (used : word ≠ []) {n : UInt64} :
    readPart (hexOfBytes word).toList = .ok n ↔ Spells word n := by
  obtain ⟨byte, rest, rfl⟩ := List.exists_cons_of_ne_nil used
  have text : (hexOfBytes (byte :: rest)).toList =
      hexDigit (byte.toNat / 16) :: (byte.toNat % 16 :: nibbles rest).map hexDigit :=
    toList_hexOfBytes _
  have digits : (∀ c ∈ (hexOfBytes (byte :: rest)).toList, c.isDigit) ↔
      ∀ digit ∈ nibbles (byte :: rest), digit ≤ 9 := by
    rw [toList_hexOfBytes, List.forall_mem_map]
    exact forall₂_congr fun digit member => isDigit_hexDigit_iff (lt_of_mem_nibbles member)
  rw [readPart_eq_ok_iff]
  constructor
  · intro numeral
    generalize shown : (hexOfBytes (byte :: rest)).toList = written at numeral
    cases numeral with
    | unsigned decimal =>
        subst shown
        have few := digits.1 decimal.all
        refine ⟨few, ?_⟩
        rw [← decimal.value, toList_hexOfBytes, ofDigitChars_map_hexDigit few]
    | signed _ =>
        -- No hex digit is a sign.
        rw [text] at shown
        have sign : hexDigit (byte.toNat / 16) = '+' := (List.cons.inj shown).1
        exact absurd (by simp [sign]) (hexDigit_not_mem (Text.halves_lt byte).1)
  · rintro ⟨few, value⟩
    refine .unsigned ⟨text ▸ List.cons_ne_nil _ _, digits.2 few, ?_⟩
    rw [toList_hexOfBytes, ofDigitChars_map_hexDigit few, value]

/-- What decimal digits spell is a number if 64 bits hold it. -/
theorem exists_spells_iff {word : List UInt8} :
    (∃ n, Spells word n) ↔
      (∀ digit ∈ nibbles word, digit ≤ 9) ∧ decimal (nibbles word) ≤ 2 ^ 64 - 1 := by
  constructor
  · rintro ⟨n, few, same⟩
    exact ⟨few, same ▸ Nat.le_of_lt_succ n.toNat_lt⟩
  · rintro ⟨few, fits⟩
    have small : decimal (nibbles word) < 2 ^ 64 := by omega
    refine ⟨UInt64.ofNat (decimal (nibbles word)), few, ?_⟩
    rw [UInt64.toNat_ofNat', Nat.mod_eq_of_lt small]

/-- No two words of one length spell the same number. -/
theorem Spells.unique {word word' : List UInt8} {n : UInt64} (size : word.length = word'.length)
    (spells : Spells word n) (spells' : Spells word' n) : word = word' := by
  have below {bytes : List UInt8} (few : ∀ digit ∈ nibbles bytes, digit ≤ 9) :
      ∀ digit ∈ (nibbles bytes).reverse, digit < 10 := fun digit member =>
    Nat.lt_succ_of_le (few digit (List.mem_reverse.1 member))
  have long : (nibbles word).reverse.length = (nibbles word').reverse.length := by
    rw [List.length_reverse, List.length_reverse, length_nibbles, length_nibbles, size]
  have digits := Nat.ofDigits_inj_of_len_eq (by decide) long (below spells.1) (below spells'.1)
    (spells.2.trans spells'.2.symm)
  exact nibbles_inj (List.reverse_inj.1 digits)

/-- The last `2 * size` decimal digits of a number, two to a byte. -/
def decimalWord : Nat → Nat → List UInt8
  | 0, _ => []
  | size + 1, n => decimalWord size (n / 100) ++ [UInt8.ofNat (n / 10 % 10 * 16 + n % 10)]

theorem length_decimalWord (size n : Nat) : (decimalWord size n).length = size := by
  induction size generalizing n with
  | zero => rfl
  | succ size ih => rw [decimalWord, List.length_append, ih, List.length_singleton]

theorem nibbles_decimalWord_succ (size n : Nat) :
    nibbles (decimalWord (size + 1) n) =
      nibbles (decimalWord size (n / 100)) ++ [n / 10 % 10] ++ [n % 10] := by
  have whole : (UInt8.ofNat (n / 10 % 10 * 16 + n % 10)).toNat = n / 10 % 10 * 16 + n % 10 := by
    rw [UInt8.toNat_ofNat']
    omega
  rw [decimalWord, nibbles_append, List.append_assoc, List.append_cancel_left_eq]
  have high : (n / 10 % 10 * 16 + n % 10) / 16 = n / 10 % 10 := by omega
  have low : (n / 10 % 10 * 16 + n % 10) % 16 = n % 10 := by omega
  simp only [nibbles, List.flatMap_cons, List.flatMap_nil, whole, high, low]
  rfl

theorem few_decimalWord (size n : Nat) : ∀ digit ∈ nibbles (decimalWord size n), digit ≤ 9 := by
  induction size generalizing n with
  | zero => simp [decimalWord, nibbles]
  | succ size ih =>
      rw [nibbles_decimalWord_succ, List.forall_mem_append, List.forall_mem_append,
        List.forall_mem_singleton, List.forall_mem_singleton]
      exact ⟨⟨ih (n / 100), by omega⟩, by omega⟩

theorem decimal_decimalWord {size n : Nat} (fits : n < 100 ^ size) :
    decimal (nibbles (decimalWord size n)) = n := by
  induction size generalizing n with
  | zero => exact (Nat.lt_one_iff.1 fits).symm
  | succ size ih =>
      have smaller : n / 100 < 100 ^ size := by
        rw [Nat.div_lt_iff_lt_mul (by decide), ← Nat.pow_succ]
        exact fits
      rw [nibbles_decimalWord_succ, decimal_concat, decimal_concat, ih smaller]
      omega

theorem spells_decimalWord (n : UInt64) : Spells (decimalWord wordSize n.toNat) n := by
  have fits : n.toNat < 100 ^ wordSize := n.toNat_lt.trans (by decide)
  exact ⟨few_decimalWord _ _, decimal_decimalWord fits⟩

/-! ## Buffers -/

/-- Whether the words of a buffer spell the parts of a version. -/
structure SpellsVersion (buffer : List UInt8) (v : Version) : Prop where
  full : buffer.length = bufferSize
  storage : Spells (bufferWord buffer 0) v.storage
  major : Spells (bufferWord buffer 1) v.major
  minor : Spells (bufferWord buffer 2) v.minor
  patch : Spells (bufferWord buffer 3) v.patch

/-- The text of four words falls apart into them. -/
theorem fields_hexOfBytes (first second third fourth : List UInt8) :
    fields '.' (String.intercalate "."
        [hexOfBytes first, hexOfBytes second, hexOfBytes third, hexOfBytes fourth]).toList =
      [(hexOfBytes first).toList, (hexOfBytes second).toList, (hexOfBytes third).toList,
        (hexOfBytes fourth).toList] := by
  have joined (a b c d : String) : (String.intercalate "." [a, b, c, d]).toList =
      a.toList ++ '.' :: (b.toList ++ '.' :: (c.toList ++ '.' :: d.toList)) := by simp
  rw [joined, fields_cons (point_notMem_hexOfBytes _), fields_cons (point_notMem_hexOfBytes _),
    fields_cons (point_notMem_hexOfBytes _), fields_last (point_notMem_hexOfBytes _)]

theorem ofHexDigits_eq_ok_iff {buffer : List UInt8} {v : Version} :
    ofHexDigits buffer = .ok v ↔ SpellsVersion buffer v := by
  rw [ofHexDigits]
  split
  · next full =>
      have used (index : Nat) (inside : index < 4) : bufferWord buffer index ≠ [] := by
        refine List.ne_nil_of_length_pos ?_
        rw [length_bufferWord full inside]
        decide
      have apart := fields_hexOfBytes (bufferWord buffer 0) (bufferWord buffer 1)
        (bufferWord buffer 2) (bufferWord buffer 3)
      rw [List.map_cons, List.map_cons, List.map_cons, List.map_cons, List.map_nil,
        ofText_eq_ok_iff apart, readPart_hexOfBytes (used 0 (by decide)),
        readPart_hexOfBytes (used 1 (by decide)), readPart_hexOfBytes (used 2 (by decide)),
        readPart_hexOfBytes (used 3 (by decide))]
      exact ⟨fun ⟨storage, major, minor, patch⟩ => ⟨full, storage, major, minor, patch⟩,
        fun spells => ⟨spells.storage, spells.major, spells.minor, spells.patch⟩⟩
  · next short => exact ⟨nofun, fun spells => absurd spells.full short⟩

theorem isFormat_of_ofHexDigits {buffer : List UInt8} {fault : Fault}
    (refused : ofHexDigits buffer = .error fault) : fault.isFormat := by
  rw [ofHexDigits] at refused
  split at refused
  · rw [eq_malformed_of_ofText refused]
    rfl
  · cases refused
    rfl

theorem SpellsVersion.unique {buffer buffer' : List UInt8} {v : Version}
    (spells : SpellsVersion buffer v) (spells' : SpellsVersion buffer' v) : buffer = buffer' := by
  have size {index : Nat} (inside : index < 4) :
      (bufferWord buffer index).length = (bufferWord buffer' index).length := by
    rw [length_bufferWord spells.full inside, length_bufferWord spells'.full inside]
  rw [← eq_of_words spells.full, ← eq_of_words spells'.full,
    spells.storage.unique (size (by decide)) spells'.storage,
    spells.major.unique (size (by decide)) spells'.major,
    spells.minor.unique (size (by decide)) spells'.minor,
    spells.patch.unique (size (by decide)) spells'.patch]

/-- The buffer whose words spell the parts of a version. -/
def decimalBuffer (v : Version) : List UInt8 :=
  v.parts.flatMap fun n => decimalWord wordSize n.toNat

theorem spells_decimalBuffer (v : Version) : SpellsVersion (decimalBuffer v) v := by
  have size (n : UInt64) : (decimalWord wordSize n.toNat).length = wordSize :=
    length_decimalWord _ _
  have words (index : Nat) (inside : index < v.parts.length) :
      Spells (bufferWord (decimalBuffer v) index) v.parts[index] := by
    rw [decimalBuffer, bufferWord_flatMap size inside]
    exact spells_decimalWord _
  exact ⟨length_flatMap_words size v.parts, words 0 (show 0 < 4 by decide),
    words 1 (show 1 < 4 by decide), words 2 (show 2 < 4 by decide), words 3 (show 3 < 4 by decide)⟩

/-- A buffer spells a version if each of its words spells a number. -/
theorem exists_spellsVersion_iff {buffer : List UInt8} :
    (∃ v, SpellsVersion buffer v) ↔
      buffer.length = bufferSize ∧ ∀ index < 4, ∃ n, Spells (bufferWord buffer index) n := by
  constructor
  · rintro ⟨v, spells⟩
    refine ⟨spells.full, fun index inside => ?_⟩
    match index, inside with
    | 0, _ => exact ⟨_, spells.storage⟩
    | 1, _ => exact ⟨_, spells.major⟩
    | 2, _ => exact ⟨_, spells.minor⟩
    | 3, _ => exact ⟨_, spells.patch⟩
  · rintro ⟨full, words⟩
    obtain ⟨storage, first⟩ := words 0 (by decide)
    obtain ⟨major, second⟩ := words 1 (by decide)
    obtain ⟨minor, third⟩ := words 2 (by decide)
    obtain ⟨patch, fourth⟩ := words 3 (by decide)
    exact ⟨⟨storage, major, minor, patch⟩, full, first, second, third, fourth⟩

/-- **A buffer is read exactly if its words are decimal digits of numbers of 64 bits**, and
then as these numbers, in the order of the words. Anything else is a fault in the
form. Each version is read from one buffer and no other. -/
theorem ofHexDigits_exact :
    (∀ buffer, (∃ v, ofHexDigits buffer = .ok v) ↔
      buffer.length = 128 ∧ ∀ index < 4,
        (∀ digit ∈ nibbles (bufferWord buffer index), digit ≤ 9) ∧
        decimal (nibbles (bufferWord buffer index)) ≤ 2 ^ 64 - 1) ∧
    (∀ buffer v, ofHexDigits buffer = .ok v →
      v.parts.map UInt64.toNat =
        [0, 1, 2, 3].map fun index => decimal (nibbles (bufferWord buffer index))) ∧
    (∀ buffer fault, ofHexDigits buffer = .error fault → fault.isFormat) ∧
    (∀ buffer buffer' v, ofHexDigits buffer = .ok v → ofHexDigits buffer' = .ok v →
      buffer = buffer') ∧
    ∀ v, ∃! buffer, ofHexDigits buffer = .ok v := by
  simp only [ofHexDigits_eq_ok_iff, exists_spellsVersion_iff, exists_spells_iff]
  refine ⟨fun buffer => Iff.rfl, ?parts, fun buffer fault => isFormat_of_ofHexDigits,
    fun buffer buffer' v spells spells' => spells.unique spells', ?one⟩
  case parts =>
    intro buffer v spells
    simp only [parts, List.map_cons, List.map_nil, spells.storage.2, spells.major.2,
      spells.minor.2, spells.patch.2]
  case one =>
    exact fun v => ⟨decimalBuffer v, spells_decimalBuffer v,
      fun buffer spells => spells.unique (spells_decimalBuffer v)⟩

/-- A buffer of words that differ from zero in their last byte. -/
def lastBytes (bytes : List UInt8) : List UInt8 :=
  bytes.flatMap fun byte => List.replicate 31 0 ++ [byte]

theorem ofHexDigits_lastBytes :
    ofHexDigits (lastBytes [0x01, 0x10, 0x00, 0x99]) = .ok ⟨1, 10, 0, 99⟩ := by
  rw [ofHexDigits_eq_ok_iff]
  exact ⟨rfl, by decide +kernel, by decide +kernel, by decide +kernel, by decide +kernel⟩

/-- A byte `0x10` is ten, and a byte `0x0a` is refused. -/
theorem ofHexDigits_exact_ten :
    ofHexDigits (lastBytes [0x01, 0x10, 0x00, 0x99]) = .ok ⟨1, 10, 0, 99⟩ ∧
    (∀ buffer, ofHexDigits buffer = .ok ⟨1, 10, 0, 99⟩ →
      buffer = lastBytes [0x01, 0x10, 0x00, 0x99]) ∧
    decimal (nibbles (bufferWord (lastBytes [0x01, 0x10, 0x00, 0x99]) 1)) = 10 ∧
    ¬ ∃ v, ofHexDigits (lastBytes [0x01, 0x0a, 0x00, 0x99]) = .ok v := by
  obtain ⟨reads, parts, -, unique, -⟩ := ofHexDigits_exact
  have numbers := parts _ _ ofHexDigits_lastBytes
  refine ⟨ofHexDigits_lastBytes, fun buffer read => unique _ _ _ read ofHexDigits_lastBytes, ?_, ?_⟩
  · exact (List.cons.inj (List.cons.inj numbers).2).1.symm
  · intro read
    have few := ((reads _).1 read).2 1 (by decide)
    exact absurd (few.1 10) (by decide +kernel)

/-! ## Versions of four digits -/

theorem spells_lastByte : ∀ digit : Fin 10,
    Spells (lastBytes [.ofNat digit]) (.ofNat digit) := by
  decide +kernel

/-- Bytes that are decimal digits spell themselves, each at the end of a word. -/
theorem ofHexDigits_digits (storage major minor patch : Fin 10) :
    ofHexDigits (lastBytes [.ofNat storage, .ofNat major, .ofNat minor, .ofNat patch]) =
      .ok ⟨.ofNat storage, .ofNat major, .ofNat minor, .ofNat patch⟩ :=
  ofHexDigits_eq_ok_iff.2 ⟨rfl, spells_lastByte storage, spells_lastByte major,
    spells_lastByte minor, spells_lastByte patch⟩

end ReleaseGate.Version
