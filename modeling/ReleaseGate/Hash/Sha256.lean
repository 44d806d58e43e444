/-
# Hash.Sha256 — the SHA-256 digest

Input is taken in blocks of 64 bytes, the last one completed with a one bit,
zeros, and the input's length in bits. Words are big-endian.
-/
namespace ReleaseGate.Sha256

set_option autoImplicit false

/-- The eight working words. -/
structure State where
  a : UInt32
  b : UInt32
  c : UInt32
  d : UInt32
  e : UInt32
  f : UInt32
  g : UInt32
  h : UInt32

/-- The words to start with. -/
def start : State :=
  ⟨0x6a09e667, 0xbb67ae85, 0x3c6ef372, 0xa54ff53a, 0x510e527f, 0x9b05688c, 0x1f83d9ab, 0x5be0cd19⟩

/-- The constants of the 64 rounds. -/
def constants : List UInt32 :=
  [0x428a2f98, 0x71374491, 0xb5c0fbcf, 0xe9b5dba5, 0x3956c25b, 0x59f111f1, 0x923f82a4, 0xab1c5ed5,
    0xd807aa98, 0x12835b01, 0x243185be, 0x550c7dc3, 0x72be5d74, 0x80deb1fe, 0x9bdc06a7, 0xc19bf174,
    0xe49b69c1, 0xefbe4786, 0x0fc19dc6, 0x240ca1cc, 0x2de92c6f, 0x4a7484aa, 0x5cb0a9dc, 0x76f988da,
    0x983e5152, 0xa831c66d, 0xb00327c8, 0xbf597fc7, 0xc6e00bf3, 0xd5a79147, 0x06ca6351, 0x14292967,
    0x27b70a85, 0x2e1b2138, 0x4d2c6dfc, 0x53380d13, 0x650a7354, 0x766a0abb, 0x81c2c92e, 0x92722c85,
    0xa2bfe8a1, 0xa81a664b, 0xc24b8b70, 0xc76c51a3, 0xd192e819, 0xd6990624, 0xf40e3585, 0x106aa070,
    0x19a4c116, 0x1e376c08, 0x2748774c, 0x34b0bcb5, 0x391c0cb3, 0x4ed8aa4a, 0x5b9cca4f, 0x682e6ff3,
    0x748f82ee, 0x78a5636f, 0x84c87814, 0x8cc70208, 0x90befffa, 0xa4506ceb, 0xbef9a3f7, 0xc67178f2]

/-- Turn the bits of a word to the right. -/
def rotate (x : UInt32) (n : UInt32) : UInt32 := (x >>> n) ||| (x <<< (32 - n))

/-- One round with its constant and its word of the schedule. -/
def round (s : State) (constant word : UInt32) : State :=
  let mixed := rotate s.e 6 ^^^ rotate s.e 11 ^^^ rotate s.e 25
  let choice := (s.e &&& s.f) ^^^ (~~~s.e &&& s.g)
  let first := s.h + mixed + choice + constant + word
  let spread := rotate s.a 2 ^^^ rotate s.a 13 ^^^ rotate s.a 22
  let majority := (s.a &&& s.b) ^^^ (s.a &&& s.c) ^^^ (s.b &&& s.c)
  { a := first + spread + majority
    b := s.a
    c := s.b
    d := s.c
    e := s.d + first
    f := s.e
    g := s.f
    h := s.g }

/-- The word of four bytes, most significant first. -/
def wordAt (data : ByteArray) (start : Nat) : UInt32 :=
  let byte (i : Nat) : UInt32 := (data.get! (start + i)).toUInt32
  (byte 0 <<< 24) ||| (byte 1 <<< 16) ||| (byte 2 <<< 8) ||| byte 3

/-- The next word of the schedule. -/
def nextWord (w : Array UInt32) : UInt32 :=
  let back (n : Nat) : UInt32 := w[w.size - n]?.getD 0
  let x := back 15
  let y := back 2
  back 16 + (rotate x 7 ^^^ rotate x 18 ^^^ (x >>> 3)) + back 7 +
    (rotate y 17 ^^^ rotate y 19 ^^^ (y >>> 10))

/-- The schedule of a block: its sixteen words and 48 more. -/
def schedule (data : ByteArray) (start : Nat) : Array UInt32 :=
  let words := (Array.range 16).map fun i => wordAt data (start + 4 * i)
  (List.range 48).foldl (fun w _ => w.push (nextWord w)) words

/-- Take the block that starts at a byte. -/
def compress (data : ByteArray) (start : Nat) (s : State) : State :=
  let t := (constants.zip (schedule data start).toList).foldl (fun t p => round t p.1 p.2) s
  ⟨s.a + t.a, s.b + t.b, s.c + t.c, s.d + t.d, s.e + t.e, s.f + t.f, s.g + t.g, s.h + t.h⟩

/-- Take `count` blocks. -/
def absorb (data : ByteArray) (start : Nat) : Nat → State → State
  | 0, s => s
  | count + 1, s => absorb data (start + 64) count (compress data start s)

/-- The bytes of a number of 64 bits, most significant first. -/
def lengthBytes (n : Nat) : List UInt8 :=
  [56, 48, 40, 32, 24, 16, 8, 0].map fun shift : Nat => UInt8.ofNat (n >>> shift)

/-- Input completed to whole blocks. -/
def pad (data : ByteArray) : ByteArray :=
  let missing := (119 - data.size % 64) % 64
  data.push 0x80 ++ ⟨Array.replicate missing 0⟩ ++ (lengthBytes (8 * data.size)).toByteArray

/-- The bytes of a word, most significant first. -/
def wordBytes (x : UInt32) : List UInt8 := [24, 16, 8, 0].map fun n : UInt32 => (x >>> n).toUInt8

/-- The digest: 32 bytes. -/
def digest (data : ByteArray) : ByteArray :=
  let padded := pad data
  let s := absorb padded 0 (padded.size / 64) start
  ([s.a, s.b, s.c, s.d, s.e, s.f, s.g, s.h].flatMap wordBytes).toByteArray

end ReleaseGate.Sha256
