/-
# Proofs.Evm.Bytes — what memory keeps

A byte string is read the same with any number of zeros behind it, so growing a
memory changes no reading (`read_expand`). A part of memory that is written and
then read is what was written (`read_write`).
-/
import ReleaseGate.Evm.Memory

namespace ReleaseGate.Evm

set_option autoImplicit false

@[simp] theorem size_zeroBytes (n : Nat) : (zeroBytes n).size = n := by
  simp [zeroBytes, ByteArray.size]

theorem getElem_zeroBytes (n i : Nat) (lt : i < (zeroBytes n).size) : (zeroBytes n)[i] = 0 := by
  simp [zeroBytes, ByteArray.getElem_eq_getElem_data]

theorem window_eq (bytes : ByteArray) (offset length : Nat) :
    window bytes offset length =
      bytes.extract offset (offset + length) ++
        zeroBytes (length - (bytes.extract offset (offset + length)).size) := by
  simp only [window]
  split
  · split
    · next whole => rw [whole, Nat.sub_self]; exact ByteArray.append_empty.symm
    · rfl
  · next beyond =>
      have none : bytes.extract offset (offset + length) = ByteArray.empty :=
        ByteArray.extract_eq_empty_iff.mpr (by omega)
      rw [none, ByteArray.empty_append, ByteArray.size_empty, Nat.sub_zero]

@[simp] theorem size_window (bytes : ByteArray) (offset length : Nat) :
    (window bytes offset length).size = length := by
  rw [window_eq, ByteArray.size_append, size_zeroBytes, ByteArray.size_extract]
  omega

theorem getElem_window (bytes : ByteArray) (offset length i : Nat)
    (lt : i < (window bytes offset length).size) :
    (window bytes offset length)[i] =
      if inside : offset + i < bytes.size then bytes[offset + i] else 0 := by
  have size := size_window bytes offset length
  simp only [window_eq]
  split
  · next inside =>
      rw [ByteArray.getElem_append_left (by rw [ByteArray.size_extract]; omega),
        ByteArray.getElem_extract]
  · next beyond =>
      rw [ByteArray.getElem_append_right (by rw [ByteArray.size_extract]; omega),
        getElem_zeroBytes]

/-- The whole of a byte string. -/
theorem window_size (bytes : ByteArray) : window bytes 0 bytes.size = bytes := by
  rw [window_eq, Nat.zero_add, ByteArray.extract_zero_size, Nat.sub_self]
  exact ByteArray.append_empty

theorem window_append_zeroBytes (bytes : ByteArray) (n offset length : Nat) :
    window (bytes ++ zeroBytes n) offset length = window bytes offset length := by
  apply ByteArray.ext_getElem
  · rw [size_window, size_window]
  · intro i _ _
    rw [getElem_window, getElem_window]
    by_cases inside : offset + i < bytes.size
    · rw [dif_pos inside, dif_pos (by rw [ByteArray.size_append]; omega),
        ByteArray.getElem_append_left inside]
    · rw [dif_neg inside]
      split
      · rw [ByteArray.getElem_append_right (by omega), getElem_zeroBytes]
      · rfl

namespace Memory

theorem size_read (m : Memory) (offset length : Nat) : (m.read offset length).size = length :=
  size_window m.bytes offset length

theorem read_expand (m : Memory) (offset length start count : Nat) :
    (m.expand offset length).read start count = m.read start count := by
  simp only [expand]
  split
  · rfl
  · exact window_append_zeroBytes m.bytes _ start count

theorem le_sizeFor (m : Memory) (offset length : Nat) : m.size ≤ m.sizeFor offset length := by
  unfold sizeFor
  split <;> omega

theorem size_expand (m : Memory) (offset length : Nat) :
    (m.expand offset length).size = m.sizeFor offset length := by
  have le := le_sizeFor m offset length
  simp only [expand]
  split
  · next same => exact same.symm
  · unfold size at le ⊢
    rw [ByteArray.size_append, size_zeroBytes]
    omega

/-- A memory after a write: what stands before, what is written, what stands behind. -/
theorem bytes_write {m : Memory} {offset : Nat} {bytes : ByteArray}
    (room : offset + bytes.size ≤ m.size) :
    (m.write offset bytes).bytes =
      m.bytes.extract 0 offset ++ bytes ++ m.bytes.extract (offset + bytes.size) m.size := by
  unfold write size at *
  split
  · next none =>
      rw [ByteArray.size_eq_zero_iff.mp none, ByteArray.append_empty, ByteArray.size_empty,
        Nat.add_zero, ByteArray.extract_append_extract, Nat.min_eq_left (Nat.zero_le _),
        Nat.max_eq_right (by omega), ByteArray.extract_zero_size]
  · simp only [ByteArray.copySlice_eq_append, ByteArray.size_data, Nat.zero_add, Nat.sub_zero,
      Nat.min_self, ByteArray.extract_zero_size]

theorem size_write {m : Memory} {offset : Nat} {bytes : ByteArray}
    (room : offset + bytes.size ≤ m.size) : (m.write offset bytes).size = m.size := by
  rw [size, bytes_write room, ByteArray.size_append, ByteArray.size_append,
    ByteArray.size_extract, ByteArray.size_extract]
  unfold size at *
  omega

/-- What is written is read again. -/
theorem read_write {m : Memory} {offset : Nat} {bytes : ByteArray}
    (room : offset + bytes.size ≤ m.size) :
    (m.write offset bytes).read offset bytes.size = bytes := by
  have before : (m.bytes.extract 0 offset).size = offset := by
    rw [ByteArray.size_extract]
    unfold size at room
    omega
  apply ByteArray.ext_getElem
  · exact size_read _ _ _
  · intro i _ inside
    simp only [read, bytes_write room, getElem_window]
    rw [dif_pos (by simp only [ByteArray.size_append, before]; omega),
      ByteArray.getElem_append_left (by rw [ByteArray.size_append, before]; omega),
      ByteArray.getElem_append_right (by omega)]
    simp only [before, Nat.add_sub_cancel_left]

/-! ## Room that is there -/

/-- Whether a part of memory is there already. -/
def Holds (m : Memory) (offset length : Nat) : Prop := m.sizeFor offset length = m.size

theorem holds_none (m : Memory) (offset : Nat) : m.Holds offset 0 := by simp [Holds, sizeFor]

variable {m : Memory} {offset length : Nat}

theorem expansionCost_of_holds (holds : m.Holds offset length) :
    m.expansionCost offset length = 0 := by
  rw [expansionCost, holds, Nat.sub_self]

theorem expand_of_holds (holds : m.Holds offset length) : m.expand offset length = m := by
  exact if_pos holds

theorem holds_expand (m : Memory) (offset length : Nat) :
    (m.expand offset length).Holds offset length := by
  unfold Holds
  rw [size_expand]
  simp only [sizeFor, size_expand]
  split <;> omega

/-- A memory after a copy of `length` bytes to `target`. -/
def copied (m : Memory) (target length : Nat) (data : ByteArray) : Memory :=
  (m.expand target length).write target data

/-- There is room for what is copied to the start of a memory. -/
theorem room_expand (m : Memory) (length : Nat) : length ≤ (m.expand 0 length).size := by
  rw [size_expand]
  simp only [sizeFor, wordCount]
  split <;> omega

theorem holds_copied (m : Memory) (data : ByteArray) :
    (m.copied 0 data.size data).Holds 0 data.size := by
  have room := room_expand m data.size
  have holds := holds_expand m 0 data.size
  have same := size_write (m := m.expand 0 data.size) (by omega : 0 + data.size ≤ _)
  unfold Holds sizeFor copied at *
  rw [same]
  exact holds

theorem read_copied (m : Memory) (data : ByteArray) :
    (m.copied 0 data.size data).read 0 data.size = data := by
  have room := room_expand m data.size
  exact read_write (by omega)

end Memory

end ReleaseGate.Evm
