/-
# Proofs.Version.Integers — the two readings of a buffer beside each other

A word is a number in base 256, so the half bytes of its hex text are the digits of
that number in base sixteen (`bigEndian_eq_ofDigits`). The other reading takes the same
digits in base ten. A smaller base gives a smaller number, the same one only where the
last digit stands alone (`ReadsAs.le`, `ReadsAs.eq_iff`), and digits that fit both bases
order words the same way in each (`compare_ofDigits`, `ReadsAs.compare_eq`).

* `ofIntegers_beside_ofHexDigits`: which buffers are read as integers, and how the two
  readings of a buffer compare.
-/
import Mathlib.Data.Nat.Digits.Lemmas
import ReleaseGate.Proofs.Version.Buffer

namespace ReleaseGate.Version

set_option autoImplicit false

/-! ## Big-endian numbers -/

theorem bigEndian_concat (front : List UInt8) (byte : UInt8) :
    bigEndian (front ++ [byte]) = bigEndian front * 256 + byte.toNat := by
  rw [bigEndian, List.foldl_append]
  rfl

theorem bigEndian_append (front back : List UInt8) :
    bigEndian (front ++ back) = bigEndian front * 256 ^ back.length + bigEndian back := by
  induction back using List.reverseRecOn with
  | nil => simp [bigEndian]
  | append_singleton back byte ih =>
      rw [← List.append_assoc, bigEndian_concat, ih, bigEndian_concat, List.length_append,
        List.length_singleton, Nat.pow_succ]
      ring

theorem bigEndian_lt (bytes : List UInt8) : bigEndian bytes < 256 ^ bytes.length := by
  induction bytes using List.reverseRecOn with
  | nil => decide
  | append_singleton bytes byte ih =>
      have small : byte.toNat < 256 := byte.toNat_lt
      rw [bigEndian_concat, List.length_append, List.length_singleton, Nat.pow_succ]
      omega

theorem bigEndian_eq_zero_iff {bytes : List UInt8} :
    bigEndian bytes = 0 ↔ bytes.all (· == 0) := by
  induction bytes using List.reverseRecOn with
  | nil => decide
  | append_singleton bytes byte ih =>
      have zero : byte.toNat = 0 ↔ byte = 0 := by rw [← UInt8.toNat_inj]; rfl
      rw [bigEndian_concat, List.all_append, Bool.and_eq_true, ← ih, List.all_cons, List.all_nil,
        Bool.and_true, beq_iff_eq, ← zero]
      omega

/-- The half bytes are the digits of the number in base sixteen. -/
theorem bigEndian_eq_ofDigits (bytes : List UInt8) :
    bigEndian bytes = Nat.ofDigits 16 (nibbles bytes).reverse := by
  induction bytes using List.reverseRecOn with
  | nil => rfl
  | append_singleton bytes byte ih =>
      have last : (nibbles (bytes ++ [byte])).reverse =
          byte.toNat % 16 :: byte.toNat / 16 :: (nibbles bytes).reverse := by
        rw [nibbles_append, List.reverse_append]
        rfl
      rw [bigEndian_concat, ih, last, Nat.ofDigits_cons, Nat.ofDigits_cons]
      omega

theorem bigEndian_inj {word word' : List UInt8} (size : word.length = word'.length)
    (same : bigEndian word = bigEndian word') : word = word' := by
  have below (bytes : List UInt8) : ∀ digit ∈ (nibbles bytes).reverse, digit < 16 :=
    fun digit member => lt_of_mem_nibbles (List.mem_reverse.1 member)
  have long : (nibbles word).reverse.length = (nibbles word').reverse.length := by
    rw [List.length_reverse, List.length_reverse, length_nibbles, length_nibbles, size]
  rw [bigEndian_eq_ofDigits, bigEndian_eq_ofDigits] at same
  have digits := Nat.ofDigits_inj_of_len_eq (by decide) long (below word) (below word') same
  exact nibbles_inj (List.reverse_inj.1 digits)

/-- The last `size` bytes of a number, the most significant one first. -/
def integerBytes : Nat → Nat → List UInt8
  | 0, _ => []
  | size + 1, n => integerBytes size (n / 256) ++ [UInt8.ofNat n]

theorem length_integerBytes (size n : Nat) : (integerBytes size n).length = size := by
  induction size generalizing n with
  | zero => rfl
  | succ size ih => rw [integerBytes, List.length_append, ih, List.length_singleton]

theorem bigEndian_integerBytes {size n : Nat} (fits : n < 256 ^ size) :
    bigEndian (integerBytes size n) = n := by
  induction size generalizing n with
  | zero => exact (Nat.lt_one_iff.1 fits).symm
  | succ size ih =>
      have smaller : n / 256 < 256 ^ size := by
        rw [Nat.div_lt_iff_lt_mul (by decide), ← Nat.pow_succ]
        exact fits
      rw [integerBytes, bigEndian_concat, ih smaller, UInt8.toNat_ofNat']
      omega

/-! ## Buffers of integers -/

/-- A word is read as the number that its bytes spell, if 64 bits hold it. -/
theorem integerWord_eq_ok_iff {buffer : List UInt8} (full : buffer.length = bufferSize)
    {index : Nat} (inside : index < 4) {n : UInt64} :
    integerWord buffer index = .ok n ↔ bigEndian (bufferWord buffer index) = n.toNat := by
  have size := length_bufferWord full inside
  rw [integerWord]
  generalize bufferWord buffer index = word at size
  have low : (word.drop 24).length = 8 := by rw [List.length_drop, size, wordSize]
  have small : bigEndian (word.drop 24) < 2 ^ 64 :=
    calc bigEndian (word.drop 24) < 256 ^ (word.drop 24).length := bigEndian_lt _
      _ = 2 ^ 64 := by rw [low]; rfl
  have whole : bigEndian word = bigEndian (word.take 24) * 2 ^ 64 + bigEndian (word.drop 24) :=
    calc bigEndian word = bigEndian (word.take 24 ++ word.drop 24) := by
          rw [List.take_append_drop]
      _ = bigEndian (word.take 24) * 2 ^ 64 + bigEndian (word.drop 24) := by
          rw [bigEndian_append, low]
          rfl
  split
  · next zeros =>
      have none := bigEndian_eq_zero_iff.2 zeros
      rw [whole, none, Nat.zero_mul, Nat.zero_add, Except.ok.injEq, ← UInt64.toNat_inj,
        UInt64.toNat_ofNat', Nat.mod_eq_of_lt small]
  · next some =>
      have positive : bigEndian (word.take 24) ≠ 0 := fun none =>
        some (bigEndian_eq_zero_iff.1 none)
      have wide := n.toNat_lt
      refine iff_of_false throw_ne_ok ?_
      omega

/-- Whether the words of a buffer are the parts of a version. -/
structure HoldsVersion (buffer : List UInt8) (v : Version) : Prop where
  full : buffer.length = bufferSize
  storage : bigEndian (bufferWord buffer 0) = v.storage.toNat
  major : bigEndian (bufferWord buffer 1) = v.major.toNat
  minor : bigEndian (bufferWord buffer 2) = v.minor.toNat
  patch : bigEndian (bufferWord buffer 3) = v.patch.toNat

theorem ofIntegers_eq_ok_iff {buffer : List UInt8} {v : Version} :
    ofIntegers buffer = .ok v ↔ HoldsVersion buffer v := by
  rw [ofIntegers]
  split
  · next full =>
      simp only [bind_eq_ok, pure_eq_ok, integerWord_eq_ok_iff full (show 0 < 4 by decide),
        integerWord_eq_ok_iff full (show 1 < 4 by decide),
        integerWord_eq_ok_iff full (show 2 < 4 by decide),
        integerWord_eq_ok_iff full (show 3 < 4 by decide)]
      constructor
      · rintro ⟨_, storage, _, major, _, minor, _, patch, rfl⟩
        exact ⟨full, storage, major, minor, patch⟩
      · rintro ⟨-, storage, major, minor, patch⟩
        exact ⟨_, storage, _, major, _, minor, _, patch, rfl⟩
  · next short => exact ⟨nofun, fun holds => absurd holds.full short⟩

theorem isFormat_of_integerWord {buffer : List UInt8} {index : Nat} {fault : Fault}
    (refused : integerWord buffer index = .error fault) : fault.isFormat := by
  rw [integerWord] at refused
  split at refused
  · cases refused
  · cases refused
    rfl

theorem isFormat_of_ofIntegers {buffer : List UInt8} {fault : Fault}
    (refused : ofIntegers buffer = .error fault) : fault.isFormat := by
  rw [ofIntegers] at refused
  split at refused
  · -- The first word that is too wide is the fault.
    simp only [bind_eq_error] at refused
    rcases refused with first | ⟨_, -, second | ⟨_, -, third | ⟨_, -, fourth | ⟨_, -, done⟩⟩⟩⟩
    · exact isFormat_of_integerWord first
    · exact isFormat_of_integerWord second
    · exact isFormat_of_integerWord third
    · exact isFormat_of_integerWord fourth
    · cases done
  · cases refused
    rfl

/-- The buffer whose words are the parts of a version. -/
def integerBuffer (v : Version) : List UInt8 :=
  v.parts.flatMap fun n => integerBytes wordSize n.toNat

theorem holds_integerBuffer (v : Version) : HoldsVersion (integerBuffer v) v := by
  have size (n : UInt64) : (integerBytes wordSize n.toNat).length = wordSize :=
    length_integerBytes _ _
  have value (n : UInt64) : bigEndian (integerBytes wordSize n.toNat) = n.toNat :=
    bigEndian_integerBytes (n.toNat_lt.trans (by decide))
  have words (index : Nat) (inside : index < v.parts.length) :
      bigEndian (bufferWord (integerBuffer v) index) = v.parts[index].toNat := by
    rw [integerBuffer, bufferWord_flatMap size inside, value]
  exact ⟨length_flatMap_words size v.parts, words 0 (show 0 < 4 by decide),
    words 1 (show 1 < 4 by decide), words 2 (show 2 < 4 by decide), words 3 (show 3 < 4 by decide)⟩

/-- No other buffer has these words. -/
theorem HoldsVersion.unique {buffer buffer' : List UInt8} {v : Version}
    (holds : HoldsVersion buffer v) (holds' : HoldsVersion buffer' v) : buffer = buffer' := by
  have size {index : Nat} (inside : index < 4) :
      (bufferWord buffer index).length = (bufferWord buffer' index).length := by
    rw [length_bufferWord holds.full inside, length_bufferWord holds'.full inside]
  rw [← eq_of_words holds.full, ← eq_of_words holds'.full,
    bigEndian_inj (size (by decide)) (holds.storage.trans holds'.storage.symm),
    bigEndian_inj (size (by decide)) (holds.major.trans holds'.major.symm),
    bigEndian_inj (size (by decide)) (holds.minor.trans holds'.minor.symm),
    bigEndian_inj (size (by decide)) (holds.patch.trans holds'.patch.symm)]

theorem holdsVersion_iff {buffer : List UInt8} {v : Version} :
    HoldsVersion buffer v ↔ buffer = integerBuffer v := by
  constructor
  · exact fun holds => holds.unique (holds_integerBuffer v)
  · intro same
    rw [same]
    exact holds_integerBuffer v

/-! ## The same digits in two bases -/

section Bases

variable {b c : Nat}

/-- Numbers are ordered by what stands before their last digits, and then by these. -/
theorem compare_digit {last last' : Nat} (below : last < b) (below' : last' < b)
    (front front' : Nat) :
    Ord.compare (last + b * front) (last' + b * front') =
      (Ord.compare front front').then (Ord.compare last last') := by
  rcases Nat.lt_trichotomy front front' with less | rfl | greater
  · have step : b * front + b ≤ b * front' := Nat.mul_le_mul_left b less
    rw [Nat.compare_eq_lt.2 less, Nat.compare_eq_lt.2 (by omega)]
    rfl
  · rw [Nat.compare_eq_eq.2 rfl, Ordering.eq_then, Nat.compare_eq_ite_lt, Nat.compare_eq_ite_lt]
    simp only [Nat.add_lt_add_iff_right]
  · have step : b * front' + b ≤ b * front := Nat.mul_le_mul_left b greater
    rw [Nat.compare_eq_gt.2 greater, Nat.compare_eq_gt.2 (by omega)]
    rfl

/-- Digits that fit two bases order numbers the same way in each. -/
theorem compare_ofDigits {digits digits' : List Nat} (long : digits.length = digits'.length)
    (below : ∀ digit ∈ digits, digit < b ∧ digit < c)
    (below' : ∀ digit ∈ digits', digit < b ∧ digit < c) :
    Ord.compare (Nat.ofDigits b digits) (Nat.ofDigits b digits') =
      Ord.compare (Nat.ofDigits c digits) (Nat.ofDigits c digits') := by
  induction digits generalizing digits' with
  | nil =>
      obtain rfl := List.length_eq_zero_iff.1 long.symm
      rfl
  | cons last front ih =>
      cases digits' with
      | nil => cases long
      | cons last' front' =>
          rw [List.forall_mem_cons] at below below'
          simp only [Nat.ofDigits_cons]
          rw [compare_digit below.1.1 below'.1.1, compare_digit below.1.2 below'.1.2,
            ih (Nat.succ.inj long) below.2 below'.2]

/-- In a smaller base, digits are the same number only if the last one stands alone. -/
theorem ofDigits_eq_ofDigits_iff (less : b < c) {last : Nat} (front : List Nat) (few : last < b) :
    Nat.ofDigits b (last :: front) = Nat.ofDigits c (last :: front) ↔
      Nat.ofDigits c (last :: front) < b := by
  have smaller : Nat.ofDigits b front ≤ Nat.ofDigits c front := Nat.ofDigits_monotone _ less.le
  rw [Nat.ofDigits_cons, Nat.ofDigits_cons]
  generalize Nat.ofDigits b front = x at smaller
  generalize Nat.ofDigits c front = y at smaller
  rcases Nat.eq_zero_or_pos y with rfl | positive
  · obtain rfl : x = 0 := Nat.le_zero.1 smaller
    simpa using few
  · have bound : b * x ≤ b * y := Nat.mul_le_mul_left b smaller
    have gap : b * y < c * y := Nat.mul_lt_mul_of_pos_right less positive
    have one : b ≤ b * y := Nat.le_mul_of_pos_right b positive
    omega

end Bases

/-- Whether a word spells `n` in decimal digits and is the integer `m`. -/
structure ReadsAs (word : List UInt8) (n m : UInt64) : Prop where
  size : word.length = wordSize
  digits : Spells word n
  value : bigEndian word = m.toNat

namespace ReadsAs

variable {word word' : List UInt8} {n n' m m' : UInt64}

theorem toNat_digits (reads : ReadsAs word n m) :
    n.toNat = Nat.ofDigits 10 (nibbles word).reverse := reads.digits.2.symm

theorem toNat_value (reads : ReadsAs word n m) :
    m.toNat = Nat.ofDigits 16 (nibbles word).reverse := by
  rw [← reads.value, bigEndian_eq_ofDigits]

theorem few (reads : ReadsAs word n m) :
    ∀ digit ∈ (nibbles word).reverse, digit < 10 ∧ digit < 16 := by
  intro digit member
  have few := reads.digits.1 digit (List.mem_reverse.1 member)
  omega

theorem le (reads : ReadsAs word n m) : n ≤ m := by
  rw [UInt64.le_iff_toNat_le, reads.toNat_digits, reads.toNat_value]
  exact Nat.ofDigits_monotone _ (by decide)

theorem eq_iff (reads : ReadsAs word n m) : n = m ↔ m ≤ 9 := by
  have long : (nibbles word).reverse.length = 2 * wordSize := by
    rw [List.length_reverse, length_nibbles, reads.size]
  have few := reads.few
  have nine : (9 : UInt64).toNat = 9 := rfl
  rw [← UInt64.toNat_inj, UInt64.le_iff_toNat_le, reads.toNat_digits, reads.toNat_value, nine]
  generalize (nibbles word).reverse = digits at long few
  cases digits with
  | nil => cases long
  | cons last front =>
      rw [ofDigits_eq_ofDigits_iff (by decide) front (few last List.mem_cons_self).1,
        Nat.lt_succ_iff]

theorem compare_eq (reads : ReadsAs word n m) (reads' : ReadsAs word' n' m') :
    Ord.compare n n' = Ord.compare m m' := by
  have long : (nibbles word).reverse.length = (nibbles word').reverse.length := by
    rw [List.length_reverse, List.length_reverse, length_nibbles, length_nibbles, reads.size,
      reads'.size]
  rw [UInt64.compare_eq_toNat_compare_toNat, UInt64.compare_eq_toNat_compare_toNat,
    reads.toNat_digits, reads.toNat_value, reads'.toNat_digits, reads'.toNat_value]
  exact compare_ofDigits long reads.few reads'.few

end ReadsAs

/-- Each part comes from one word, in either reading. -/
theorem exists_readsAs {buffer : List UInt8} {v w : Version} (spells : SpellsVersion buffer v)
    (holds : HoldsVersion buffer w) (part : Part) :
    ∃ word, ReadsAs word (v.part part) (w.part part) := by
  have size {index : Nat} (inside : index < 4) := length_bufferWord holds.full inside
  cases part with
  | storage => exact ⟨_, size (show 0 < 4 by decide), spells.storage, holds.storage⟩
  | major => exact ⟨_, size (show 1 < 4 by decide), spells.major, holds.major⟩
  | minor => exact ⟨_, size (show 2 < 4 by decide), spells.minor, holds.minor⟩
  | patch => exact ⟨_, size (show 3 < 4 by decide), spells.patch, holds.patch⟩

theorem compare_congr {v v' w w' : Version}
    (same : ∀ part, Ord.compare (v.part part) (v'.part part) =
      Ord.compare (w.part part) (w'.part part)) : v.compare v' = w.compare w' := by
  have storage := same .storage
  have major := same .major
  have minor := same .minor
  have patch := same .patch
  simp only [part] at storage major minor patch
  rw [compare, compare, storage, major, minor, patch]

/-- **A buffer is read as integers exactly if its words are the parts of a version, written
as integers of 32 bytes**, and anything else is a fault in the form. Where decimal digits
are read as well, they give no larger part, and the same one exactly if it is nine
at most; the two readings put buffers in the same order. -/
theorem ofIntegers_beside_ofHexDigits :
    (∀ buffer v, ofIntegers buffer = .ok v ↔ buffer = integerBuffer v) ∧
    (∀ buffer, (¬ ∃ v, buffer = integerBuffer v) →
      ∃ fault, ofIntegers buffer = .error fault ∧ fault.isFormat) ∧
    (∀ buffer v w, ofHexDigits buffer = .ok v → ofIntegers buffer = .ok w →
      ∀ part, v.part part ≤ w.part part ∧ (v.part part = w.part part ↔ w.part part ≤ 9)) ∧
    ∀ buffer buffer' v v' w w',
      ofHexDigits buffer = .ok v → ofHexDigits buffer' = .ok v' →
      ofIntegers buffer = .ok w → ofIntegers buffer' = .ok w' →
      v.compare v' = w.compare w' := by
  simp only [ofHexDigits_eq_ok_iff]
  refine ⟨fun buffer v => ofIntegers_eq_ok_iff.trans holdsVersion_iff, ?other, ?parts, ?order⟩
  case other =>
    intro buffer none
    cases outcome : ofIntegers buffer with
    | ok v => exact absurd ⟨v, holdsVersion_iff.1 (ofIntegers_eq_ok_iff.1 outcome)⟩ none
    | error fault => exact ⟨fault, rfl, isFormat_of_ofIntegers outcome⟩
  case parts =>
    intro buffer v w spells read part
    obtain ⟨word, reads⟩ := exists_readsAs spells (ofIntegers_eq_ok_iff.1 read) part
    exact ⟨reads.le, reads.eq_iff⟩
  case order =>
    intro buffer buffer' v v' w w' spells spells' read read'
    refine compare_congr fun part => ?_
    obtain ⟨word, reads⟩ := exists_readsAs spells (ofIntegers_eq_ok_iff.1 read) part
    obtain ⟨word', reads'⟩ := exists_readsAs spells' (ofIntegers_eq_ok_iff.1 read') part
    exact reads.compare_eq reads'

theorem ofIntegers_lastBytes :
    ofIntegers (lastBytes [0x01, 0x10, 0x00, 0x99]) = .ok ⟨1, 16, 0, 153⟩ := by
  decide +kernel

/-- A byte `0x10` is ten or sixteen; either way it comes before a byte `0x11`. -/
theorem ofIntegers_beside_ofHexDigits_sixteen :
    ofIntegers (lastBytes [0x01, 0x10, 0x00, 0x99]) = .ok ⟨1, 16, 0, 153⟩ ∧
    lastBytes [0x01, 0x10, 0x00, 0x99] = integerBuffer ⟨1, 16, 0, 153⟩ ∧
    (∃ fault, ofIntegers [0x01] = .error fault ∧ fault.isFormat) ∧
    ((10 : UInt64) ≤ 16 ∧ ((10 : UInt64) = 16 ↔ (16 : UInt64) ≤ 9)) ∧
    compare ⟨1, 10, 0, 99⟩ ⟨1, 11, 0, 0⟩ = compare ⟨1, 16, 0, 153⟩ ⟨1, 17, 0, 0⟩ := by
  obtain ⟨reads, other, parts, order⟩ := ofIntegers_beside_ofHexDigits
  have short (v : Version) : [0x01] ≠ integerBuffer v := by
    intro same
    have length := congrArg List.length same
    rw [(holds_integerBuffer v).full] at length
    cases length
  have hexNext : ofHexDigits (lastBytes [0x01, 0x11, 0x00, 0x00]) = .ok ⟨1, 11, 0, 0⟩ := by
    rw [ofHexDigits_eq_ok_iff]
    exact ⟨rfl, by decide +kernel, by decide +kernel, by decide +kernel, by decide +kernel⟩
  have next : ofIntegers (lastBytes [0x01, 0x11, 0x00, 0x00]) = .ok ⟨1, 17, 0, 0⟩ := by
    decide +kernel
  exact ⟨ofIntegers_lastBytes, (reads _ _).1 ofIntegers_lastBytes,
    other _ fun ⟨v, same⟩ => short v same,
    parts _ _ _ ofHexDigits_lastBytes ofIntegers_lastBytes .major,
    order _ _ _ _ _ _ ofHexDigits_lastBytes hexNext ofIntegers_lastBytes next⟩

end ReleaseGate.Version
