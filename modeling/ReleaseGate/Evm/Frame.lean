/-
# Evm.Frame — one running call

A frame runs one piece of code for one message. Its gas is a plain number from
which every instruction takes its price; a frame that cannot pay, or that does
something code may not do, halts and loses all its gas.
-/
import ReleaseGate.Evm.Stack
import ReleaseGate.Evm.World

namespace ReleaseGate.Evm

set_option autoImplicit false

/-- Why a frame halted. -/
inductive Halt where
  | outOfGas
  /-- The gas did not last for more memory. -/
  | memoryOutOfGas
  | stackUnderflow
  | stackOverflow
  | badJump
  | badInstruction
  /-- More was read than the last call returned. -/
  | beyondReturnData
  /-- A change of the ledger in a read-only call. -/
  | readOnly
  /-- Creation of a contract, which these rules leave out. -/
  | creation
  deriving DecidableEq, Repr

/-- What a frame was called with. -/
structure Message where
  self : Address
  caller : Address
  value : Word
  input : ByteArray
  /-- Whether the ledger must stay as it is. -/
  readOnly : Bool
  /-- How many frames wait for this one. -/
  depth : Nat

structure Frame where
  code : Code
  message : Message
  place : Nat
  gas : Nat
  stack : Stack
  memory : Memory
  /-- What the last call of this frame returned. -/
  returned : ByteArray

/-- What built-in contracts answer: the output of the one at an address on an
input, and its price; none if it fails. A run takes them as they are given to it. -/
abbrev BuiltIns := Address → ByteArray → Option (ByteArray × Nat)

/-- What is the same for all frames of a run. -/
structure Block where
  origin : Address
  gasLimit : Nat
  builtIns : BuiltIns

/-- How a frame ended: what it hands back, and the gas it has left. -/
inductive Ending where
  | success (data : ByteArray) (gas : Nat)
  | revert (data : ByteArray) (gas : Nat)
  | halt (why : Halt)

namespace Frame

/-- A frame at the start of its code. -/
def start (code : Code) (message : Message) (gas : Nat) : Frame :=
  { code := code
    message := message
    place := 0
    gas := gas
    stack := .empty
    memory := .empty
    returned := ByteArray.empty }

/-- Pay a price. -/
def pay (f : Frame) (price : Nat) : Except Halt Frame :=
  if price ≤ f.gas then .ok { f with gas := f.gas - price } else .error .outOfGas

/-- Pay for the use of some memory, and make room for it. -/
def reach (f : Frame) (offset length : Nat) : Except Halt Frame :=
  let price := f.memory.expansionCost offset length
  if price ≤ f.gas then
    .ok { f with gas := f.gas - price, memory := f.memory.expand offset length }
  else .error .memoryOutOfGas

/-- Put a word on the stack and go to the next instruction. -/
def answer (f : Frame) (w : Word) : Except Halt Frame :=
  match f.stack.push? w with
  | some stack => .ok { f with stack := stack, place := f.place + 1 }
  | none => .error .stackOverflow

/-- Go to the next instruction. -/
def next (f : Frame) : Frame := { f with place := f.place + 1 }

def pop (f : Frame) : Except Halt (Word × Frame) :=
  match f.stack.pop? with
  | some (a, stack) => .ok (a, { f with stack := stack })
  | none => .error .stackUnderflow

def pop2 (f : Frame) : Except Halt (Word × Word × Frame) :=
  match f.stack.pop2? with
  | some (a, b, stack) => .ok (a, b, { f with stack := stack })
  | none => .error .stackUnderflow

def pop3 (f : Frame) : Except Halt (Word × Word × Word × Frame) :=
  match f.stack.pop3? with
  | some (a, b, c, stack) => .ok (a, b, c, { f with stack := stack })
  | none => .error .stackUnderflow

def pop4 (f : Frame) : Except Halt (Word × Word × Word × Word × Frame) :=
  match f.stack.pop4? with
  | some (a, b, c, d, stack) => .ok (a, b, c, d, { f with stack := stack })
  | none => .error .stackUnderflow

/-- Refuse to change the ledger in a read-only call. -/
def mayWrite (f : Frame) : Except Halt Unit :=
  if f.message.readOnly then .error .readOnly else .ok ()

/-- Take up the run after a call that handed back `data` and `gas`. The result
goes on the stack, where the operands of the call have made room. -/
def resume (f : Frame) (success : Bool) (data : ByteArray) (gas outOffset outLength : Nat) :
    Frame :=
  { f with
    gas := f.gas + gas
    returned := data
    memory := f.memory.write outOffset (data.extract 0 (min outLength data.size))
    stack := (f.stack.push? (Word.ofBool success)).getD f.stack }

end Frame

end ReleaseGate.Evm
