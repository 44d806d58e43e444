/-
# Evm.Word — 256-bit words and their arithmetic

Words wrap around. Division and remainder by zero give zero. The signed
operations read a word in two's complement; signed division goes toward zero
and the signed remainder has the sign of the dividend.
-/
namespace ReleaseGate.Evm

set_option autoImplicit false

abbrev Word := BitVec 256

/-- The place of an account. -/
abbrev Address := BitVec 160

/-- The low 160 bits of a word. -/
def Word.toAddress (w : Word) : Address := w.setWidth 160

/-- An address as a word. -/
def Address.toWord (a : Address) : Word := a.setWidth 256

namespace Word

/-- One for true, zero for false. -/
def ofBool (b : Bool) : Word := if b then 1 else 0

def div (x y : Word) : Word := if y = 0 then 0 else x / y

def mod (x y : Word) : Word := if y = 0 then 0 else x % y

def signedDiv (x y : Word) : Word := if y = 0 then 0 else x.sdiv y

def signedMod (x y : Word) : Word := if y = 0 then 0 else x.srem y

/-- The remainder of the unwrapped sum. -/
def addMod (x y m : Word) : Word :=
  if m = 0 then 0 else BitVec.ofNat 256 ((x.toNat + y.toNat) % m.toNat)

/-- The remainder of the unwrapped product. -/
def mulMod (x y m : Word) : Word :=
  if m = 0 then 0 else BitVec.ofNat 256 (x.toNat * y.toNat % m.toNat)

/-- `acc · base ^ n` by repeated squaring; `fuel` bounds the bits of `n`. -/
def powBits (fuel : Nat) (base acc : Word) (n : Nat) : Word :=
  match fuel with
  | 0 => acc
  | fuel + 1 =>
      if n = 0 then acc
      else powBits fuel (base * base) (if n % 2 = 1 then acc * base else acc) (n / 2)

def pow (x y : Word) : Word := powBits 256 x 1 y.toNat

/-- Bytes needed to write a word, none for zero. -/
def byteLength (w : Word) : Nat := if w = 0 then 0 else w.toNat.log2 / 8 + 1

/-- Repeat the sign bit of the low `n + 1` bytes of `x` in all bits above. -/
def signExtend (n x : Word) : Word :=
  if n.toNat < 31 then
    let width := 8 * (n.toNat + 1)
    (x.setWidth width).signExtend 256
  else x

/-- Byte `n` of `x`, counted from the most significant. -/
def byte (n x : Word) : Word :=
  if n.toNat < 32 then (x >>> (8 * (31 - n.toNat))) &&& 0xff else 0

def shiftLeft (n x : Word) : Word := if n.toNat < 256 then x <<< n.toNat else 0

def shiftRight (n x : Word) : Word := if n.toNat < 256 then x >>> n.toNat else 0

/-- Shift right, filling with the sign bit. -/
def signedShiftRight (n x : Word) : Word :=
  if n.toNat < 256 then x.sshiftRight n.toNat else if x.msb then BitVec.allOnes 256 else 0

/-- The word of a big-endian byte string of at most 32 bytes. -/
def ofBytes (bytes : List UInt8) : Word :=
  BitVec.ofNat 256 (bytes.foldl (fun n byte => n * 256 + byte.toNat) 0)

/-- The 32 bytes of a word, most significant first. -/
def toBytes (w : Word) : List UInt8 :=
  (List.range 32).map fun i => UInt8.ofNat (w.toNat >>> (8 * (31 - i)))

end Word

end ReleaseGate.Evm
