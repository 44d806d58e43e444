/-
# Version.Buffer — versions in a 128-byte buffer

A contract answers with four words of 32 bytes. There are two ways to read
them: the hex text of a word taken as a decimal number (a word `0x…10` is ten,
a word `0x…0a` is refused), or the word taken as a big-endian integer of at
most 64 bits.
-/
import ReleaseGate.Version
import ReleaseGate.Text.Hex

namespace ReleaseGate.Version

set_option autoImplicit false

/-- Bytes of one word. -/
def wordSize : Nat := 32

/-- Bytes of a version buffer: four words. -/
def bufferSize : Nat := 128

/-- The `index`-th word of a buffer. -/
def bufferWord (buffer : List UInt8) (index : Nat) : List UInt8 :=
  (buffer.drop (wordSize * index)).take wordSize

/-- Read the hex text of each word as a decimal number. -/
def ofHexDigits (buffer : List UInt8) : Except Fault Version :=
  if buffer.length = bufferSize then
    ofText (String.intercalate "."
      ([0, 1, 2, 3].map fun index => Text.hexOfBytes (bufferWord buffer index)))
  else .error (.bufferLength buffer.length)

/-- The big-endian number that some bytes spell. -/
def bigEndian (bytes : List UInt8) : Nat := bytes.foldl (fun n byte => n * 256 + byte.toNat) 0

/-- The number in the word at `index`, if 64 bits hold it. -/
def integerWord (buffer : List UInt8) (index : Nat) : Except Fault UInt64 :=
  let word := bufferWord buffer index
  if (word.take 24).all (· == 0) then .ok (UInt64.ofNat (bigEndian (word.drop 24)))
  else .error (.wideWord index)

/-- Read each word as a big-endian integer. -/
def ofIntegers (buffer : List UInt8) : Except Fault Version :=
  if buffer.length = bufferSize then do
    return ⟨← integerWord buffer 0, ← integerWord buffer 1, ← integerWord buffer 2,
      ← integerWord buffer 3⟩
  else .error (.bufferLength buffer.length)

/-- The two ways to read a version buffer. -/
inductive Decoding where
  | hexDigits
  | integer
  deriving DecidableEq, Repr

/-- Read a buffer in the given way. -/
def Decoding.read : Decoding → List UInt8 → Except Fault Version
  | .hexDigits => ofHexDigits
  | .integer => ofIntegers

end ReleaseGate.Version
