/-
# Text.Hex — bytes written as hexadecimal digits

Writing uses lower-case digits, two per byte. Reading takes either case, and
says what is wrong with a text it refuses: an odd number of digits first, then
the first byte that is no digit. A text may carry one `0x` or `0X` in front.
-/
namespace ReleaseGate.Text

set_option autoImplicit false

/-- The lower-case digit of a number below sixteen. -/
def hexDigit (n : Nat) : Char := Nat.digitChar n

/-- The two digits of a byte. -/
def hexOfByte (byte : UInt8) : List Char := [hexDigit (byte.toNat / 16), hexDigit (byte.toNat % 16)]

/-- Two lower-case digits per byte. -/
def hexOfBytes (bytes : List UInt8) : String := String.ofList (bytes.flatMap hexOfByte)

/-- The number a digit stands for, in either case. -/
def hexValue? (c : Char) : Option Nat :=
  let n := c.toNat
  if 48 ≤ n ∧ n ≤ 57 then some (n - 48)
  else if 97 ≤ n ∧ n ≤ 102 then some (n - 87)
  else if 65 ≤ n ∧ n ≤ 70 then some (n - 55)
  else none

/-- Why a text is not bytes in hex. -/
inductive HexFault where
  | oddLength
  /-- The byte `byte` at `position` is no digit. -/
  | badDigit (byte : UInt8) (position : Nat)
  deriving DecidableEq, Repr

/-- The number a byte stands for as a digit. -/
def hexValueOfByte? (byte : UInt8) : Option Nat := hexValue? (Char.ofNat byte.toNat)

/-- Read pairs of digits; `position` counts the bytes before them. -/
def readHexPairs (position : Nat) : List UInt8 → Except HexFault (List UInt8)
  | high :: low :: rest =>
      match hexValueOfByte? high with
      | none => .error (.badDigit high position)
      | some h =>
          match hexValueOfByte? low with
          | none => .error (.badDigit low (position + 1))
          | some l => do
              let bytes ← readHexPairs (position + 2) rest
              return UInt8.ofNat (16 * h + l) :: bytes
  | _ => .ok []

/-- One `0x` or `0X` in front is not part of the digits. -/
def dropHexMark : List UInt8 → List UInt8
  | 0x30 :: 0x78 :: rest => rest
  | 0x30 :: 0x58 :: rest => rest
  | digits => digits

/-- The bytes that a text in hex denotes. -/
def readHex (text : String) : Except HexFault (List UInt8) :=
  let digits := dropHexMark text.toUTF8.data.toList
  if digits.length % 2 = 0 then readHexPairs 0 digits else .error .oddLength

end ReleaseGate.Text
