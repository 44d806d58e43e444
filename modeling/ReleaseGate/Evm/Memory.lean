/-
# Evm.Memory — byte strings and a frame's memory

A byte string is read with zeros beyond its end (`window`). A memory is a byte
string whose length is a multiple of 32; it grows before it is read or written
beyond its end, and what it grows by holds zeros. What it costs is a natural number,
also where 64 bits do not hold it, from 2^32 words on.
-/
import ReleaseGate.Evm.Word

namespace ReleaseGate.Evm

set_option autoImplicit false

/-- `n` zero bytes. -/
def zeroBytes (n : Nat) : ByteArray := ⟨Array.replicate n 0⟩

/-- `length` bytes from `offset` on; zeros stand beyond the end. -/
def window (bytes : ByteArray) (offset length : Nat) : ByteArray :=
  if offset < bytes.size then
    let part := bytes.extract offset (offset + length)
    if part.size = length then part else part ++ zeroBytes (length - part.size)
  else zeroBytes length

/-- The word at `offset`. -/
def wordAt (bytes : ByteArray) (offset : Nat) : Word :=
  Word.ofBytes (window bytes offset 32).data.toList

/-- Words that `n` bytes fill or begin. -/
def wordCount (n : Nat) : Nat := (n + 31) / 32

/-- A frame's memory. -/
structure Memory where
  bytes : ByteArray

namespace Memory

def empty : Memory := ⟨ByteArray.empty⟩

def size (m : Memory) : Nat := m.bytes.size

/-- The size after `length` bytes from `offset` on are used. -/
def sizeFor (m : Memory) (offset length : Nat) : Nat :=
  if length = 0 then m.size else max m.size (32 * wordCount (offset + length))

/-- What a memory of `size` bytes has cost. -/
def costOf (size : Nat) : Nat :=
  let words := size / 32
  3 * words + words * words / 512

/-- The cost of using `length` bytes from `offset` on. -/
def expansionCost (m : Memory) (offset length : Nat) : Nat :=
  costOf (m.sizeFor offset length) - costOf m.size

/-- Make room for `length` bytes from `offset` on. -/
def expand (m : Memory) (offset length : Nat) : Memory :=
  let size := m.sizeFor offset length
  if size = m.size then m else ⟨m.bytes ++ zeroBytes (size - m.size)⟩

/-- `length` bytes from `offset` on. -/
def read (m : Memory) (offset length : Nat) : ByteArray := window m.bytes offset length

/-- Write a byte string at `offset`; the room is there. -/
def write (m : Memory) (offset : Nat) (bytes : ByteArray) : Memory :=
  if bytes.size = 0 then m else ⟨bytes.copySlice 0 m.bytes offset bytes.size⟩

/-- The word at `offset`. -/
def load (m : Memory) (offset : Nat) : Word := wordAt m.bytes offset

/-- Write a word at `offset`. -/
def store (m : Memory) (offset : Nat) (w : Word) : Memory :=
  m.write offset w.toBytes.toByteArray

end Memory

end ReleaseGate.Evm
