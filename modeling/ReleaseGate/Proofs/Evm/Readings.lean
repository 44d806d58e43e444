/-
# Proofs.Evm.Readings — code, input and memory as lists of bytes

What a machine reads off a byte string is told by the list of its bytes: the
instruction and the operand at a place of code (`Code.Has.instructionAt`,
`Code.Has.operand`), the input that is loaded as a word and shifted to its end
(`shiftRight_wordAt`), and a memory that grows by one word after another
(`store_ofList`).
-/
import ReleaseGate.Evm.Step
import ReleaseGate.Proofs.Evm.Bytes
import ReleaseGate.Proofs.Version.Integers

namespace ReleaseGate.Evm

set_option autoImplicit false

open Version (bigEndian bigEndian_append bigEndian_lt bigEndian_inj)

/-! ## Windows -/

/-- A window that ends inside. -/
theorem toList_window {bytes : ByteArray} {offset length : Nat}
    (inside : offset + length ≤ bytes.size) :
    (window bytes offset length).data.toList = (bytes.data.toList.drop offset).take length := by
  have part : (bytes.extract offset (offset + length)).data.toList =
      (bytes.data.toList.drop offset).take length := by
    simp [List.extract_eq_take_drop]
  have full : (bytes.extract offset (offset + length)).size = length := by
    rw [ByteArray.size_extract]
    omega
  rw [window_eq, full, Nat.sub_self, zeroBytes, ← part]
  exact congrArg (·.data.toList) ByteArray.append_empty

/-- A window from the start, beyond the end. -/
theorem toList_window_zero {bytes : ByteArray} {length : Nat} (beyond : bytes.size ≤ length) :
    (window bytes 0 length).data.toList =
      bytes.data.toList ++ List.replicate (length - bytes.size) 0 := by
  have whole : bytes.extract 0 (0 + length) = bytes := by
    refine ByteArray.ext ?_
    rw [ByteArray.data_extract, Nat.zero_add]
    exact Array.extract_eq_self_of_le beyond
  rw [window_eq, whole]
  simp [zeroBytes]

/-! ## Code -/

/-- Whether code has some bytes at a place. -/
def Code.Has (code : Code) (place : Nat) (bytes : List UInt8) : Prop :=
  bytes <+: code.bytes.data.toList.drop place

section Code

variable {code : Code} {place : Nat} {byte : UInt8} {front rest : List UInt8}

theorem has_ofBytes (bytes : List UInt8) : (Code.ofBytes bytes.toByteArray).Has 0 bytes := by
  rw [Code.Has, Code.ofBytes, List.toList_data_toByteArray]
  exact List.prefix_rfl

theorem Code.Has.right (has : code.Has place (front ++ rest)) :
    code.Has (place + front.length) rest := by
  obtain ⟨behind, whole⟩ := has
  rw [Code.Has, ← List.drop_drop, ← whole, List.append_assoc, List.drop_left]
  exact List.prefix_append rest behind

theorem Code.Has.tail (has : code.Has place (byte :: rest)) : code.Has (place + 1) rest := by
  have split : code.Has place ([byte] ++ rest) := has
  exact split.right

theorem Code.Has.left (has : code.Has place (front ++ rest)) : code.Has place front :=
  (List.prefix_append front rest).trans has

theorem Code.Has.instructionAt (has : code.Has place (byte :: rest)) :
    code.instructionAt place = Instruction.ofByte byte := by
  obtain ⟨behind, whole⟩ := has
  have there : code.bytes.data.toList[place]? = some byte := by
    rw [← List.head?_drop, ← whole]
    rfl
  obtain ⟨inside, same⟩ := List.getElem?_eq_some_iff.1 there
  have within : place < code.bytes.size := inside
  rw [Code.instructionAt, dif_pos within, ← same]
  rfl

theorem Code.Has.operand (has : code.Has place (byte :: (front ++ rest))) :
    code.operand place front.length = Word.ofBytes front := by
  obtain ⟨behind, whole⟩ := has.tail.left
  have inside : place + 1 + front.length ≤ code.bytes.size := by
    obtain ⟨more, all⟩ := has
    have lengths := congrArg List.length all
    simp only [List.length_append, List.length_cons, List.length_drop] at lengths
    show place + 1 + front.length ≤ code.bytes.data.toList.length
    omega
  rw [Code.operand, toList_window inside, ← whole, List.take_left]

theorem isTarget_ofBytes {bytes : List UInt8} (there : (scanTargets 0 bytes)[place]? = some 1) :
    (Code.ofBytes bytes.toByteArray).isTarget place = true := by
  obtain ⟨inside, same⟩ := List.getElem?_eq_some_iff.1 there
  have targets : (Code.ofBytes bytes.toByteArray).targets = (scanTargets 0 bytes).toByteArray := by
    rw [Code.ofBytes, List.toList_data_toByteArray]
  have within : place < (Code.ofBytes bytes.toByteArray).targets.size := by
    rw [targets, List.size_toByteArray]
    exact inside
  rw [Code.isTarget, dif_pos within, decide_eq_true_eq, ← same]
  simp only [targets]
  exact List.getElem_toByteArray

end Code

/-! ## Words -/

theorem toNat_ofBytes {bytes : List UInt8} (few : bytes.length ≤ 32) :
    (Word.ofBytes bytes).toNat = bigEndian bytes := by
  have small : bigEndian bytes < 2 ^ 256 :=
    calc bigEndian bytes < 256 ^ bytes.length := bigEndian_lt bytes
      _ ≤ 256 ^ 32 := Nat.pow_le_pow_right (by decide) few
      _ = 2 ^ 256 := by decide
  exact Nat.mod_eq_of_lt small

theorem ofBytes_inj {bytes bytes' : List UInt8} (few : bytes.length ≤ 32)
    (size : bytes.length = bytes'.length) :
    Word.ofBytes bytes = Word.ofBytes bytes' ↔ bytes = bytes' := by
  refine ⟨fun same => bigEndian_inj size ?_, fun same => same ▸ rfl⟩
  rw [← toNat_ofBytes few, ← toNat_ofBytes (size ▸ few), same]

/-- Four bytes, loaded as the start of a word and shifted to its end. -/
theorem shiftRight_wordAt {input : ByteArray} (size : input.size = 4) :
    Word.shiftRight 0xe0 (wordAt input 0) = Word.ofBytes input.data.toList := by
  have few : input.data.toList.length = 4 := size
  have padded : (window input 0 32).data.toList = input.data.toList ++ List.replicate 28 0 := by
    rw [toList_window_zero (by omega), size]
  have zeros : bigEndian (List.replicate 28 0) = 0 := rfl
  have loaded : (wordAt input 0).toNat = bigEndian input.data.toList * 2 ^ 224 := by
    rw [wordAt, padded, toNat_ofBytes (by simp [few]), bigEndian_append, zeros, Nat.add_zero,
      List.length_replicate]
    rfl
  have amount : (0xe0 : Word).toNat = 224 := rfl
  apply BitVec.eq_of_toNat_eq
  rw [Word.shiftRight, amount, if_pos (by decide), BitVec.toNat_ushiftRight, loaded,
    toNat_ofBytes (by omega), Nat.shiftRight_eq_div_pow, Nat.mul_div_cancel _ (by decide)]

theorem toNat_ofBytes_singleton (byte : UInt8) : (Word.ofBytes [byte]).toNat = byte.toNat := by
  have single : [byte].length ≤ 32 := show 1 ≤ 32 by decide
  rw [toNat_ofBytes single, bigEndian, List.foldl_cons, List.foldl_nil, Nat.zero_mul, Nat.zero_add]

/-- A byte, as the last one of a word. -/
theorem toBytes_ofBytes_singleton (byte : UInt8) :
    (Word.ofBytes [byte]).toBytes = List.replicate 31 0 ++ [byte] := by
  have small : byte.toNat < 2 ^ 8 := byte.toNat_lt
  rw [Word.toBytes, toNat_ofBytes_singleton, List.range_succ, List.map_append, List.map_singleton]
  congr 1
  · refine List.eq_replicate_iff.2 ⟨by simp, fun other member => ?_⟩
    obtain ⟨place, before, rfl⟩ := List.mem_map.1 member
    have before : place < 31 := List.mem_range.1 before
    -- Any other byte of the word lies above the eight bits that it has.
    have wide : 2 ^ 8 ≤ 2 ^ (8 * (31 - place)) := Nat.pow_le_pow_right (by decide) (by omega)
    rw [Nat.shiftRight_eq_div_pow, Nat.div_eq_of_lt (Nat.lt_of_lt_of_le small wide)]
    rfl
  · simp

/-! ## Memory -/

/-- The memory that holds some bytes. -/
def Memory.ofList (bytes : List UInt8) : Memory := ⟨bytes.toByteArray⟩

theorem Memory.eq_of_bytes {m m' : Memory} (same : m.bytes = m'.bytes) : m = m' := by
  cases m
  cases m'
  exact congrArg Memory.mk same

theorem size_ofList (bytes : List UInt8) : (Memory.ofList bytes).size = bytes.length :=
  List.size_toByteArray

section Growth

variable {bytes : List UInt8}

theorem sizeFor_ofList (aligned : 32 ∣ bytes.length) :
    (Memory.ofList bytes).sizeFor bytes.length 32 = bytes.length + 32 := by
  obtain ⟨words, whole⟩ := aligned
  rw [Memory.sizeFor, if_neg (by decide), size_ofList, wordCount]
  omega

/-- A further word costs three, as long as memory is small. -/
theorem expansionCost_ofList (aligned : 32 ∣ bytes.length) (few : bytes.length < 256) :
    (Memory.ofList bytes).expansionCost bytes.length 32 = 3 := by
  rw [Memory.expansionCost, sizeFor_ofList aligned, size_ofList]
  obtain ⟨words, whole⟩ := aligned
  rw [whole] at few ⊢
  have small : words < 8 := by omega
  interval_cases words <;> rfl

theorem expand_ofList (aligned : 32 ∣ bytes.length) :
    (Memory.ofList bytes).expand bytes.length 32 = .ofList (bytes ++ List.replicate 32 0) := by
  rw [Memory.expand, sizeFor_ofList aligned, size_ofList, if_neg (by omega),
    Nat.add_sub_cancel_left, Memory.ofList, Memory.ofList, List.toByteArray_append]
  rfl

/-- A word that is stored at the end of a memory stands behind what was there. -/
theorem store_ofList (aligned : 32 ∣ bytes.length) (x : Word) :
    ((Memory.ofList bytes).expand bytes.length 32).store bytes.length x =
      .ofList (bytes ++ x.toBytes) := by
  have word : x.toBytes.toByteArray.size = 32 := by simp [Word.toBytes]
  have full : (Memory.ofList (bytes ++ List.replicate 32 0)).size = bytes.length + 32 := by
    rw [size_ofList, List.length_append, List.length_replicate]
  have before : (Memory.ofList (bytes ++ List.replicate 32 0)).bytes.extract 0 bytes.length =
      bytes.toByteArray := by
    rw [Memory.ofList, List.toByteArray_append]
    exact ByteArray.extract_append_eq_left List.size_toByteArray.symm
  have written : ((Memory.ofList (bytes ++ List.replicate 32 0)).write bytes.length
      x.toBytes.toByteArray).bytes = _ := Memory.bytes_write (by rw [word, full])
  rw [word, full, before, ByteArray.extract_same, ByteArray.append_empty,
    ← List.toByteArray_append] at written
  rw [expand_ofList aligned, Memory.store]
  exact Memory.eq_of_bytes written

end Growth

end ReleaseGate.Evm
