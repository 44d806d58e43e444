/-
# Hash.Keccak — the 256-bit Keccak digest

The state is five by five lanes of 64 bits; `a` with two digits is the lane in
that column and row. Input is taken in blocks of 136 bytes, the last one
completed with a one bit, zeros, and a one bit.
-/
namespace ReleaseGate.Keccak

set_option autoImplicit false

/-- The lanes of the state. -/
structure State where
  a00 : UInt64 := 0
  a01 : UInt64 := 0
  a02 : UInt64 := 0
  a03 : UInt64 := 0
  a04 : UInt64 := 0
  a10 : UInt64 := 0
  a11 : UInt64 := 0
  a12 : UInt64 := 0
  a13 : UInt64 := 0
  a14 : UInt64 := 0
  a20 : UInt64 := 0
  a21 : UInt64 := 0
  a22 : UInt64 := 0
  a23 : UInt64 := 0
  a24 : UInt64 := 0
  a30 : UInt64 := 0
  a31 : UInt64 := 0
  a32 : UInt64 := 0
  a33 : UInt64 := 0
  a34 : UInt64 := 0
  a40 : UInt64 := 0
  a41 : UInt64 := 0
  a42 : UInt64 := 0
  a43 : UInt64 := 0
  a44 : UInt64 := 0

/-- Turn the bits of a lane to the left. -/
def rotate (x : UInt64) (n : UInt64) : UInt64 := (x <<< n) ||| (x >>> (64 - n))

/-- One round with its constant. -/
def round (s : State) (constant : UInt64) : State :=
  let c0 := s.a00 ^^^ s.a01 ^^^ s.a02 ^^^ s.a03 ^^^ s.a04
  let c1 := s.a10 ^^^ s.a11 ^^^ s.a12 ^^^ s.a13 ^^^ s.a14
  let c2 := s.a20 ^^^ s.a21 ^^^ s.a22 ^^^ s.a23 ^^^ s.a24
  let c3 := s.a30 ^^^ s.a31 ^^^ s.a32 ^^^ s.a33 ^^^ s.a34
  let c4 := s.a40 ^^^ s.a41 ^^^ s.a42 ^^^ s.a43 ^^^ s.a44
  let d0 := c4 ^^^ rotate c1 1
  let d1 := c0 ^^^ rotate c2 1
  let d2 := c1 ^^^ rotate c3 1
  let d3 := c2 ^^^ rotate c4 1
  let d4 := c3 ^^^ rotate c0 1
  let b00 := s.a00 ^^^ d0
  let b13 := rotate (s.a01 ^^^ d0) 36
  let b21 := rotate (s.a02 ^^^ d0) 3
  let b34 := rotate (s.a03 ^^^ d0) 41
  let b42 := rotate (s.a04 ^^^ d0) 18
  let b02 := rotate (s.a10 ^^^ d1) 1
  let b10 := rotate (s.a11 ^^^ d1) 44
  let b23 := rotate (s.a12 ^^^ d1) 10
  let b31 := rotate (s.a13 ^^^ d1) 45
  let b44 := rotate (s.a14 ^^^ d1) 2
  let b04 := rotate (s.a20 ^^^ d2) 62
  let b12 := rotate (s.a21 ^^^ d2) 6
  let b20 := rotate (s.a22 ^^^ d2) 43
  let b33 := rotate (s.a23 ^^^ d2) 15
  let b41 := rotate (s.a24 ^^^ d2) 61
  let b01 := rotate (s.a30 ^^^ d3) 28
  let b14 := rotate (s.a31 ^^^ d3) 55
  let b22 := rotate (s.a32 ^^^ d3) 25
  let b30 := rotate (s.a33 ^^^ d3) 21
  let b43 := rotate (s.a34 ^^^ d3) 56
  let b03 := rotate (s.a40 ^^^ d4) 27
  let b11 := rotate (s.a41 ^^^ d4) 20
  let b24 := rotate (s.a42 ^^^ d4) 39
  let b32 := rotate (s.a43 ^^^ d4) 8
  let b40 := rotate (s.a44 ^^^ d4) 14
  { a00 := b00 ^^^ (~~~b10 &&& b20) ^^^ constant
    a01 := b01 ^^^ (~~~b11 &&& b21)
    a02 := b02 ^^^ (~~~b12 &&& b22)
    a03 := b03 ^^^ (~~~b13 &&& b23)
    a04 := b04 ^^^ (~~~b14 &&& b24)
    a10 := b10 ^^^ (~~~b20 &&& b30)
    a11 := b11 ^^^ (~~~b21 &&& b31)
    a12 := b12 ^^^ (~~~b22 &&& b32)
    a13 := b13 ^^^ (~~~b23 &&& b33)
    a14 := b14 ^^^ (~~~b24 &&& b34)
    a20 := b20 ^^^ (~~~b30 &&& b40)
    a21 := b21 ^^^ (~~~b31 &&& b41)
    a22 := b22 ^^^ (~~~b32 &&& b42)
    a23 := b23 ^^^ (~~~b33 &&& b43)
    a24 := b24 ^^^ (~~~b34 &&& b44)
    a30 := b30 ^^^ (~~~b40 &&& b00)
    a31 := b31 ^^^ (~~~b41 &&& b01)
    a32 := b32 ^^^ (~~~b42 &&& b02)
    a33 := b33 ^^^ (~~~b43 &&& b03)
    a34 := b34 ^^^ (~~~b44 &&& b04)
    a40 := b40 ^^^ (~~~b00 &&& b10)
    a41 := b41 ^^^ (~~~b01 &&& b11)
    a42 := b42 ^^^ (~~~b02 &&& b12)
    a43 := b43 ^^^ (~~~b03 &&& b13)
    a44 := b44 ^^^ (~~~b04 &&& b14) }

/-- The constants of the 24 rounds. -/
def constants : List UInt64 :=
  [0x0000000000000001, 0x0000000000008082, 0x800000000000808a, 0x8000000080008000,
    0x000000000000808b, 0x0000000080000001, 0x8000000080008081, 0x8000000000008009,
    0x000000000000008a, 0x0000000000000088, 0x0000000080008009, 0x000000008000000a,
    0x000000008000808b, 0x800000000000008b, 0x8000000000008089, 0x8000000000008003,
    0x8000000000008002, 0x8000000000000080, 0x000000000000800a, 0x800000008000000a,
    0x8000000080008081, 0x8000000000008080, 0x0000000080000001, 0x8000000080008008]

/-- All rounds. -/
def permute (s : State) : State := constants.foldl round s

/-- Bytes of input per block. -/
def rate : Nat := 136

/-- The lane that starts at a byte, least byte first. -/
def lane (data : ByteArray) (start : Nat) : UInt64 :=
  let byte (i : Nat) : UInt64 := (data.get! (start + i)).toUInt64
  byte 0 ||| (byte 1 <<< 8) ||| (byte 2 <<< 16) ||| (byte 3 <<< 24) |||
    (byte 4 <<< 32) ||| (byte 5 <<< 40) ||| (byte 6 <<< 48) ||| (byte 7 <<< 56)

/-- Mix the block that starts at a byte into the state. -/
def mix (s : State) (data : ByteArray) (start : Nat) : State :=
  { s with
    a00 := s.a00 ^^^ lane data (start + 0)
    a10 := s.a10 ^^^ lane data (start + 8)
    a20 := s.a20 ^^^ lane data (start + 16)
    a30 := s.a30 ^^^ lane data (start + 24)
    a40 := s.a40 ^^^ lane data (start + 32)
    a01 := s.a01 ^^^ lane data (start + 40)
    a11 := s.a11 ^^^ lane data (start + 48)
    a21 := s.a21 ^^^ lane data (start + 56)
    a31 := s.a31 ^^^ lane data (start + 64)
    a41 := s.a41 ^^^ lane data (start + 72)
    a02 := s.a02 ^^^ lane data (start + 80)
    a12 := s.a12 ^^^ lane data (start + 88)
    a22 := s.a22 ^^^ lane data (start + 96)
    a32 := s.a32 ^^^ lane data (start + 104)
    a42 := s.a42 ^^^ lane data (start + 112)
    a03 := s.a03 ^^^ lane data (start + 120)
    a13 := s.a13 ^^^ lane data (start + 128) }

/-- Take `count` blocks. -/
def absorb (data : ByteArray) (start : Nat) : Nat → State → State
  | 0, s => s
  | count + 1, s => absorb data (start + rate) count (permute (mix s data start))

/-- Input completed to whole blocks. -/
def pad (data : ByteArray) : ByteArray :=
  let missing := rate - data.size % rate
  if missing = 1 then data.push 0x81
  else (data.push 0x01 ++ ⟨Array.replicate (missing - 2) 0⟩).push 0x80

/-- The bytes of a lane, least byte first. -/
def laneBytes (x : UInt64) : List UInt8 :=
  [0, 8, 16, 24, 32, 40, 48, 56].map fun n : UInt64 => (x >>> n).toUInt8

/-- The digest: 32 bytes. -/
def digest (data : ByteArray) : ByteArray :=
  let padded := pad data
  let s := absorb padded 0 (padded.size / rate) {}
  (laneBytes s.a00 ++ laneBytes s.a10 ++ laneBytes s.a20 ++ laneBytes s.a30).toByteArray

end ReleaseGate.Keccak
