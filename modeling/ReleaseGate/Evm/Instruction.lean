/-
# Evm.Instruction — the instruction set, and what code is made of

Every byte is an instruction; a byte without a meaning is `invalid`. A push is
followed by its operand, so a byte inside an operand is no instruction: a jump
may only go to a `jumpdest` that the scan from the start of the code meets
(`Code.isTarget`).
-/
import ReleaseGate.Evm.Memory

namespace ReleaseGate.Evm

set_option autoImplicit false

/-- Operations on one word. -/
inductive Unary where
  | isZero
  | not
  deriving DecidableEq, Repr

/-- Operations on two words, the topmost first. -/
inductive Binary where
  | add
  | mul
  | sub
  | div
  | signedDiv
  | mod
  | signedMod
  | signExtend
  | less
  | greater
  | signedLess
  | signedGreater
  | equal
  | and
  | or
  | xor
  | byte
  | shiftLeft
  | shiftRight
  | signedShiftRight
  deriving DecidableEq, Repr

/-- Operations on three words. -/
inductive Ternary where
  | addMod
  | mulMod
  deriving DecidableEq, Repr

/-- Words that a frame can look up without an operand. -/
inductive Reading where
  | address
  | origin
  | caller
  | callValue
  | callDataSize
  | codeSize
  | gasPrice
  | returnDataSize
  | coinbase
  | timestamp
  | number
  | prevRandao
  | gasLimit
  | chainId
  | selfBalance
  | baseFee
  | blobBaseFee
  | programCounter
  | memorySize
  | gas
  deriving DecidableEq, Repr

/-- The four ways to call an account. -/
inductive CallKind where
  | call
  | callCode
  | delegateCall
  | staticCall
  deriving DecidableEq, Repr

/-- The instructions of the Prague rules. -/
inductive Instruction where
  | stop
  | unary (op : Unary)
  | binary (op : Binary)
  | ternary (op : Ternary)
  | exp
  | keccak256
  | read (what : Reading)
  | balance
  | callDataLoad
  | callDataCopy
  | codeCopy
  | extCodeSize
  | extCodeCopy
  | returnDataCopy
  | extCodeHash
  | blockHash
  | blobHash
  | pop
  | mload
  | mstore
  | mstore8
  | sload
  | sstore
  | jump
  | jumpIf
  | jumpdest
  | tload
  | tstore
  | mcopy
  | push (width : Nat)
  | dup (depth : Nat)
  | swap (depth : Nat)
  | log (topics : Nat)
  | create
  | create2
  | call (kind : CallKind)
  | return
  | revert
  | selfDestruct
  | invalid
  deriving DecidableEq, Repr

namespace Instruction

/-- Arithmetic: bytes `0x00` to `0x0b`. -/
def ofArithmetic : Nat → Instruction
  | 0x0 => .stop
  | 0x1 => .binary .add
  | 0x2 => .binary .mul
  | 0x3 => .binary .sub
  | 0x4 => .binary .div
  | 0x5 => .binary .signedDiv
  | 0x6 => .binary .mod
  | 0x7 => .binary .signedMod
  | 0x8 => .ternary .addMod
  | 0x9 => .ternary .mulMod
  | 0xa => .exp
  | 0xb => .binary .signExtend
  | _ => .invalid

/-- Comparison and bits: bytes `0x10` to `0x1d`. -/
def ofBits : Nat → Instruction
  | 0x0 => .binary .less
  | 0x1 => .binary .greater
  | 0x2 => .binary .signedLess
  | 0x3 => .binary .signedGreater
  | 0x4 => .binary .equal
  | 0x5 => .unary .isZero
  | 0x6 => .binary .and
  | 0x7 => .binary .or
  | 0x8 => .binary .xor
  | 0x9 => .unary .not
  | 0xa => .binary .byte
  | 0xb => .binary .shiftLeft
  | 0xc => .binary .shiftRight
  | 0xd => .binary .signedShiftRight
  | _ => .invalid

/-- The call and its accounts: bytes `0x30` to `0x3f`. -/
def ofEnvironment : Nat → Instruction
  | 0x0 => .read .address
  | 0x1 => .balance
  | 0x2 => .read .origin
  | 0x3 => .read .caller
  | 0x4 => .read .callValue
  | 0x5 => .callDataLoad
  | 0x6 => .read .callDataSize
  | 0x7 => .callDataCopy
  | 0x8 => .read .codeSize
  | 0x9 => .codeCopy
  | 0xa => .read .gasPrice
  | 0xb => .extCodeSize
  | 0xc => .extCodeCopy
  | 0xd => .read .returnDataSize
  | 0xe => .returnDataCopy
  | 0xf => .extCodeHash
  | _ => .invalid

/-- The block: bytes `0x40` to `0x4a`. -/
def ofBlock : Nat → Instruction
  | 0x0 => .blockHash
  | 0x1 => .read .coinbase
  | 0x2 => .read .timestamp
  | 0x3 => .read .number
  | 0x4 => .read .prevRandao
  | 0x5 => .read .gasLimit
  | 0x6 => .read .chainId
  | 0x7 => .read .selfBalance
  | 0x8 => .read .baseFee
  | 0x9 => .blobHash
  | 0xa => .read .blobBaseFee
  | _ => .invalid

/-- Memory, storage and control: bytes `0x50` to `0x5f`. -/
def ofControl : Nat → Instruction
  | 0x0 => .pop
  | 0x1 => .mload
  | 0x2 => .mstore
  | 0x3 => .mstore8
  | 0x4 => .sload
  | 0x5 => .sstore
  | 0x6 => .jump
  | 0x7 => .jumpIf
  | 0x8 => .read .programCounter
  | 0x9 => .read .memorySize
  | 0xa => .read .gas
  | 0xb => .jumpdest
  | 0xc => .tload
  | 0xd => .tstore
  | 0xe => .mcopy
  | 0xf => .push 0
  | _ => .invalid

/-- Calls and ends: bytes `0xf0` to `0xff`. -/
def ofSystem : Nat → Instruction
  | 0x0 => .create
  | 0x1 => .call .call
  | 0x2 => .call .callCode
  | 0x3 => .return
  | 0x4 => .call .delegateCall
  | 0x5 => .create2
  | 0xa => .call .staticCall
  | 0xd => .revert
  | 0xf => .selfDestruct
  | _ => .invalid

/-- The instruction a byte stands for. -/
def ofByte (byte : UInt8) : Instruction :=
  let n := byte.toNat
  let low := n % 16
  match n / 16 with
  | 0x0 => ofArithmetic low
  | 0x1 => ofBits low
  | 0x2 => if low = 0 then .keccak256 else .invalid
  | 0x3 => ofEnvironment low
  | 0x4 => ofBlock low
  | 0x5 => ofControl low
  | 0x6 => .push (low + 1)
  | 0x7 => .push (low + 17)
  | 0x8 => .dup low
  | 0x9 => .swap (low + 1)
  | 0xa => if low ≤ 4 then .log low else .invalid
  | 0xf => ofSystem low
  | _ => .invalid

end Instruction

/-! ## Code -/

/-- Operand bytes behind a byte of code. -/
def operandWidth (byte : UInt8) : Nat := if 0x60 ≤ byte ∧ byte ≤ 0x7f then byte.toNat - 0x5f else 0

/-- For each byte, one if it is a place to jump to; `skip` bytes are operands. -/
def scanTargets (skip : Nat) : List UInt8 → List UInt8
  | [] => []
  | byte :: rest =>
      match skip with
      | skip + 1 => 0 :: scanTargets skip rest
      | 0 => (if byte = 0x5b then 1 else 0) :: scanTargets (operandWidth byte) rest

/-- Code with the scan of its jump targets. -/
structure Code where
  bytes : ByteArray
  targets : ByteArray

namespace Code

/-- Scan some bytes. -/
def ofBytes (bytes : ByteArray) : Code := ⟨bytes, (scanTargets 0 bytes.data.toList).toByteArray⟩

def empty : Code := ofBytes ByteArray.empty

def size (code : Code) : Nat := code.bytes.size

/-- The instruction at a place; code is followed by stops without end. -/
def instructionAt (code : Code) (place : Nat) : Instruction :=
  if h : place < code.bytes.size then Instruction.ofByte code.bytes[place] else .stop

/-- The operand of a push at a place, zeros standing beyond the end of the code. -/
def operand (code : Code) (place width : Nat) : Word :=
  Word.ofBytes (window code.bytes (place + 1) width).data.toList

/-- Whether a jump may go to a place. -/
def isTarget (code : Code) (place : Nat) : Bool :=
  if h : place < code.targets.size then code.targets[place] = 1 else false

/-- Code that names another account whose code runs in its place: the marker
`ef0100` and the address. -/
def delegate? (code : Code) : Option Address :=
  if code.size = 23 then
    match code.bytes.data.toList with
    | 0xef :: 0x01 :: 0x00 :: rest => some (Word.ofBytes rest).toAddress
    | _ => none
  else none

end Code

end ReleaseGate.Evm
