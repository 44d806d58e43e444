/-
# Evm.Step — what each instruction does

`Frame.execute` runs the instruction at a frame's place. It answers with the
frame and the world after it, with a new frame to enter, or with how the frame
ended. Prices are those of the Prague rules.

Two parts of these rules are left out. What the built-in contracts answer is not
said here: a `Block` holds them, and `BuiltIns.basic` has two of them. Code that
creates a contract is ended by it, once it is seen that the frame may write at all.
-/
import ReleaseGate.Evm.Frame
import ReleaseGate.Hash.Keccak
import ReleaseGate.Hash.Sha256

namespace ReleaseGate.Evm

set_option autoImplicit false

/-- What comes of one instruction. -/
inductive Turn where
  | go (frame : Frame) (world : World)
  /-- Enter `child`; what it returns goes to the given part of `frame`'s memory. -/
  | enter (frame child : Frame) (outOffset outLength : Nat) (saved world : World)
  | finish (ending : Ending) (world : World)

/-! ## Words -/

def Unary.apply : Unary → Word → Word
  | .isZero, x => Word.ofBool (x == 0)
  | .not, x => ~~~x

def Binary.apply : Binary → Word → Word → Word
  | .add, x, y => x + y
  | .mul, x, y => x * y
  | .sub, x, y => x - y
  | .div, x, y => x.div y
  | .signedDiv, x, y => x.signedDiv y
  | .mod, x, y => x.mod y
  | .signedMod, x, y => x.signedMod y
  | .signExtend, x, y => x.signExtend y
  | .less, x, y => Word.ofBool (x.ult y)
  | .greater, x, y => Word.ofBool (y.ult x)
  | .signedLess, x, y => Word.ofBool (x.slt y)
  | .signedGreater, x, y => Word.ofBool (y.slt x)
  | .equal, x, y => Word.ofBool (x == y)
  | .and, x, y => x &&& y
  | .or, x, y => x ||| y
  | .xor, x, y => x ^^^ y
  | .byte, x, y => x.byte y
  | .shiftLeft, x, y => x.shiftLeft y
  | .shiftRight, x, y => x.shiftRight y
  | .signedShiftRight, x, y => x.signedShiftRight y

def Binary.price : Binary → Nat
  | .mul | .div | .signedDiv | .mod | .signedMod | .signExtend => 5
  | _ => 3

def Ternary.apply : Ternary → Word → Word → Word → Word
  | .addMod, x, y, m => x.addMod y m
  | .mulMod, x, y, m => x.mulMod y m

/-- The price of copying or hashing by the word. -/
def perWord (price length : Nat) : Nat := price * wordCount length

/-- A word that a frame can look up. The block is the first one, made at time
one by the zero address, on chain one, with free gas. -/
def Reading.value (block : Block) (f : Frame) (w : World) : Reading → Word
  | .address => f.message.self.toWord
  | .origin => block.origin.toWord
  | .caller => f.message.caller.toWord
  | .callValue => f.message.value
  | .callDataSize => BitVec.ofNat 256 f.message.input.size
  | .codeSize => BitVec.ofNat 256 f.code.size
  | .gasPrice => 0
  | .returnDataSize => BitVec.ofNat 256 f.returned.size
  | .coinbase => 0
  | .timestamp => 1
  | .number => 0
  | .prevRandao => 0
  | .gasLimit => BitVec.ofNat 256 block.gasLimit
  | .chainId => 1
  | .selfBalance => BitVec.ofNat 256 (w.ledger.balance f.message.self)
  | .baseFee => 0
  | .blobBaseFee => 1
  | .programCounter => BitVec.ofNat 256 f.place
  | .memorySize => BitVec.ofNat 256 f.memory.size
  | .gas => BitVec.ofNat 256 f.gas

def Reading.price : Reading → Nat
  | .selfBalance => 5
  | _ => 2

/-- A partial table for runs: the second of the built-in contracts (SHA-256) and the
fourth (identity). The others have an answer under the rules and fail here; what is
proved of a run is proved for every table. -/
def BuiltIns.basic : BuiltIns := fun a input =>
  match a.toNat with
  | 2 => some (Sha256.digest input, 60 + perWord 12 input.size)
  | 4 => some (input, 15 + perWord 3 input.size)
  | _ => none

namespace Frame

/-! ## Memory and data -/

/-- Pay for a copy of `length` bytes to `target`, beside `price`, and write it. -/
def copyIn (f : Frame) (price target length : Nat) (bytes : Frame → ByteArray) :
    Except Halt Frame := do
  let f ← f.pay (price + perWord 3 length)
  let f ← f.reach target length
  return { f with memory := f.memory.write target (bytes f), place := f.place + 1 }

def keccak256 (f : Frame) : Except Halt Frame := do
  let (offset, length, f) ← f.pop2
  let f ← f.pay (30 + perWord 6 length.toNat)
  let f ← f.reach offset.toNat length.toNat
  f.answer (Word.ofBytes
    (Keccak.digest (f.memory.read offset.toNat length.toNat)).data.toList)

def callDataLoad (f : Frame) : Except Halt Frame := do
  let (offset, f) ← f.pop
  let f ← f.pay 3
  f.answer (wordAt f.message.input offset.toNat)

def callDataCopy (f : Frame) : Except Halt Frame := do
  let (target, offset, length, f) ← f.pop3
  f.copyIn 3 target.toNat length.toNat fun f =>
    window f.message.input offset.toNat length.toNat

def codeCopy (f : Frame) : Except Halt Frame := do
  let (target, offset, length, f) ← f.pop3
  f.copyIn 3 target.toNat length.toNat fun f => window f.code.bytes offset.toNat length.toNat

def returnDataCopy (f : Frame) : Except Halt Frame := do
  let (target, offset, length, f) ← f.pop3
  if f.returned.size < offset.toNat + length.toNat then throw .beyondReturnData
  f.copyIn 3 target.toNat length.toNat fun f => window f.returned offset.toNat length.toNat

def mload (f : Frame) : Except Halt Frame := do
  let (offset, f) ← f.pop
  let f ← f.pay 3
  let f ← f.reach offset.toNat 32
  f.answer (f.memory.load offset.toNat)

def mstore (f : Frame) : Except Halt Frame := do
  let (offset, w, f) ← f.pop2
  let f ← f.pay 3
  let f ← f.reach offset.toNat 32
  return { f with memory := f.memory.store offset.toNat w, place := f.place + 1 }

def mstore8 (f : Frame) : Except Halt Frame := do
  let (offset, w, f) ← f.pop2
  let f ← f.pay 3
  let f ← f.reach offset.toNat 1
  let byte := (w.setWidth 8).toNat.toUInt8
  return { f with memory := f.memory.write offset.toNat [byte].toByteArray, place := f.place + 1 }

def mcopy (f : Frame) : Except Halt Frame := do
  let (target, source, length, f) ← f.pop3
  let f ← f.pay (3 + perWord 3 length.toNat)
  let f ← f.reach (max target.toNat source.toNat) length.toNat
  let bytes := f.memory.read source.toNat length.toNat
  return { f with memory := f.memory.write target.toNat bytes, place := f.place + 1 }

/-! ## Control -/

def jump (f : Frame) : Except Halt Frame := do
  let (target, f) ← f.pop
  let f ← f.pay 8
  if f.code.isTarget target.toNat then return { f with place := target.toNat }
  else throw .badJump

def jumpIf (f : Frame) : Except Halt Frame := do
  let (target, condition, f) ← f.pop2
  let f ← f.pay 10
  if condition = 0 then return f.next
  else if f.code.isTarget target.toNat then return { f with place := target.toNat }
  else throw .badJump

def pushOperand (f : Frame) (width : Nat) : Except Halt Frame := do
  let f ← f.pay (if width = 0 then 2 else 3)
  let f ← f.answer (f.code.operand f.place width)
  return { f with place := f.place + width }

def dup (f : Frame) (depth : Nat) : Except Halt Frame := do
  let f ← f.pay 3
  match f.stack.peek? depth with
  | some w => f.answer w
  | none => throw .stackUnderflow

def swap (f : Frame) (depth : Nat) : Except Halt Frame := do
  let f ← f.pay 3
  match f.stack.swap? depth with
  | some stack => return { f with stack := stack, place := f.place + 1 }
  | none => throw .stackUnderflow

/-- End the frame with the part of its memory that it names. -/
def handBack (f : Frame) : Except Halt (ByteArray × Nat) := do
  let (offset, length, f) ← f.pop2
  let f ← f.reach offset.toNat length.toNat
  return (f.memory.read offset.toNat length.toNat, f.gas)

/-! ## Accounts and storage -/

/-- Look at an account: its price depends on whether it is warm, and it is warm
from then on. -/
def visit (f : Frame) (w : World) (a : Address) (price : Nat) : Except Halt (Frame × World) := do
  let f ← f.pay (w.accountCost a + price)
  return (f, w.touchAccount a)

/-- The digest of an account's code; zero for a vacant account. -/
def codeHash (account : Account) : Word :=
  if account.isVacant then 0
  else Word.ofBytes (Keccak.digest account.code.bytes).data.toList

/-- Answer with something about the account on the stack. -/
def askAccount (f : Frame) (w : World) (about : Account → Word) : Except Halt Turn := do
  let (a, f) ← f.pop
  let (f, w) ← f.visit w a.toAddress 0
  let f ← f.answer (about (w.ledger.account a.toAddress))
  return .go f w

def extCodeCopy (f : Frame) (w : World) : Except Halt Turn := do
  let (a, f) ← f.pop
  let (target, offset, length, f) ← f.pop3
  let (f, w) ← f.visit w a.toAddress 0
  let f ← f.copyIn 0 target.toNat length.toNat fun _ =>
    window (w.ledger.code a.toAddress).bytes offset.toNat length.toNat
  return .go f w

def sload (f : Frame) (w : World) : Except Halt Turn := do
  let (key, f) ← f.pop
  let slot := (f.message.self, key)
  let f ← f.pay (w.slotCost slot)
  let f ← f.answer (w.ledger.stored slot)
  return .go f (w.touchSlot slot)

/-- The price of a change of a slot that was zero when the run began. -/
def sstorePrice (present new : Word) : Nat :=
  if new = present then 100 else if present = 0 then 20000 else 100

def sstore (f : Frame) (w : World) : Except Halt Turn := do
  f.mayWrite
  let (key, new, f) ← f.pop2
  if f.gas ≤ 2300 then throw .outOfGas
  let slot := (f.message.self, key)
  let cold := if w.isWarmSlot slot then 0 else 2100
  let f ← f.pay (sstorePrice (w.ledger.stored slot) new + cold)
  let w := w.touchSlot slot
  return .go f.next { w with ledger := w.ledger.store slot new }

def tload (f : Frame) (w : World) : Except Halt Frame := do
  let (key, f) ← f.pop
  let f ← f.pay 100
  f.answer (w.ledger.storedTransient (f.message.self, key))

def tstore (f : Frame) (w : World) : Except Halt Turn := do
  f.mayWrite
  let (key, new, f) ← f.pop2
  let f ← f.pay 100
  return .go f.next { w with ledger := w.ledger.storeTransient (f.message.self, key) new }

def log (f : Frame) (w : World) (topics : Nat) : Except Halt Turn := do
  f.mayWrite
  let (offset, length, f) ← f.pop2
  let f ← f.pay (375 + 375 * topics + 8 * length.toNat)
  let f ← f.reach offset.toNat length.toNat
  match f.stack.popMany? topics with
  | none => throw .stackUnderflow
  | some (named, stack) =>
      let entry := ⟨f.message.self, named, f.memory.read offset.toNat length.toNat⟩
      return .go { f with stack := stack, place := f.place + 1 }
        { w with ledger := w.ledger.log entry }

/-- Leave everything to another account and end. -/
def selfDestruct (f : Frame) (w : World) : Except Halt Turn := do
  f.mayWrite
  let (heir, f) ← f.pop
  let heir := heir.toAddress
  let amount := w.ledger.balance f.message.self
  let cold := if w.isWarmAccount heir then 0 else 2600
  let fresh := if amount ≠ 0 ∧ (w.ledger.account heir).isVacant then 25000 else 0
  let f ← f.pay (5000 + cold + fresh)
  let w := w.touchAccount heir
  return .finish (.success ByteArray.empty f.gas)
    { w with ledger := w.ledger.transfer f.message.self heir amount }

/-! ## Calls -/

def isBuiltIn (a : Address) : Bool := 1 ≤ a.toNat && a.toNat ≤ World.lastBuiltIn

/-- Frames that may wait for one another. -/
def depthLimit : Nat := 1024

/-- Whether a call hands on a value of its own. -/
def takesValue : CallKind → Bool
  | .call | .callCode => true
  | .delegateCall | .staticCall => false

/-- The message of a call to `target`. -/
def messageTo (f : Frame) (kind : CallKind) (target : Address) (value : Word) (input : ByteArray) :
    Message :=
  let here := f.message
  let depth := here.depth + 1
  match kind with
  | .call => ⟨target, here.self, value, input, here.readOnly, depth⟩
  | .callCode => ⟨here.self, here.self, value, input, here.readOnly, depth⟩
  | .delegateCall => ⟨here.self, here.caller, here.value, input, here.readOnly, depth⟩
  | .staticCall => ⟨target, here.self, 0, input, true, depth⟩

/-- The price of a call before any gas is handed on: the account and the one it
delegates to are looked at, and a value costs extra. -/
def callPrice (w : World) (kind : CallKind) (target : Address) (value : Word) : Nat :=
  let looked := w.accountCost target
  let delegated := match (w.ledger.code target).delegate? with
    | some other => (w.touchAccount target).accountCost other
    | none => 0
  let paying := if value = 0 then 0 else 9000
  let fresh :=
    if kind = .call ∧ value ≠ 0 ∧ (w.ledger.account target).isVacant then 25000 else 0
  looked + delegated + paying + fresh

/-- The world after the accounts of a call are looked at. -/
def callWorld (w : World) (target : Address) : World :=
  let seen := w.touchAccount target
  match (w.ledger.code target).delegate? with
  | some other => seen.touchAccount other
  | none => seen

/-- Run a call that has been paid for with `allowance` gas to spend. -/
def runCall (builtIns : BuiltIns) (f : Frame) (w : World) (kind : CallKind) (target : Address)
    (value : Word) (input : ByteArray) (allowance outOffset outLength : Nat) : Turn :=
  let refuse := .go (f.resume false ByteArray.empty allowance outOffset outLength) w
  let message := f.messageTo kind target value input
  if depthLimit < message.depth then refuse
  else if takesValue kind ∧ w.ledger.balance f.message.self < value.toNat then refuse
  else
    let paid :=
      if kind = .call then
        { w with ledger := w.ledger.transfer f.message.self target value.toNat }
      else w
    if isBuiltIn target then
      match builtIns target input with
      | some (data, price) =>
          if price ≤ allowance then
            .go (f.resume true data (allowance - price) outOffset outLength) paid
          else .go (f.resume false ByteArray.empty 0 outOffset outLength) w
      | none => .go (f.resume false ByteArray.empty 0 outOffset outLength) w
    else
      let code := w.callee target
      if code.size = 0 then .go (f.resume true ByteArray.empty allowance outOffset outLength) paid
      else .enter f (Frame.start code message allowance) outOffset outLength w paid

/-- What a call asks for: at most `gas` to spend, and the parts of memory that
hold its input and take what it returns. -/
structure Asked where
  gas : Word
  target : Address
  value : Word
  inOffset : Nat
  inLength : Nat
  outOffset : Nat
  outLength : Nat

/-- Take the value that a call hands on. -/
def popValue (f : Frame) (kind : CallKind) : Except Halt (Word × Frame) :=
  if takesValue kind then f.pop else .ok (0, f)

/-- Refuse to pay another account in a read-only call. -/
def mayPay (f : Frame) (kind : CallKind) (value : Word) : Except Halt Unit :=
  if kind = .call ∧ value ≠ 0 then f.mayWrite else .ok ()

/-- Take the operands of a call. -/
def callOperands (f : Frame) (kind : CallKind) : Except Halt (Asked × Frame) := do
  let (gas, target, f) ← f.pop2
  let (value, f) ← f.popValue kind
  f.mayPay kind value
  let (inOffset, inLength, outOffset, outLength, f) ← f.pop4
  return (⟨gas, target.toAddress, value, inOffset.toNat, inLength.toNat, outOffset.toNat,
    outLength.toNat⟩, f)

/-- Call an account. All but a 64th of the gas may be handed on. -/
def call (builtIns : BuiltIns) (f : Frame) (w : World) (kind : CallKind) : Except Halt Turn := do
  let (asked, f) ← f.callOperands kind
  let f ← f.reach asked.inOffset asked.inLength
  let f ← f.reach asked.outOffset asked.outLength
  let f ← f.pay (callPrice w kind asked.target asked.value)
  let allowance := min asked.gas.toNat (f.gas - f.gas / 64)
  let f ← f.pay allowance
  let stipend := if asked.value = 0 then 0 else 2300
  let input := f.memory.read asked.inOffset asked.inLength
  return f.next.runCall builtIns (callWorld w asked.target) kind asked.target asked.value input
    (allowance + stipend) asked.outOffset asked.outLength

/-! ## One instruction -/

/-- Run the instruction at the frame's place. -/
def execute (block : Block) (f : Frame) (w : World) : Except Halt Turn :=
  match f.code.instructionAt f.place with
  | .push width => do return .go (← f.pushOperand width) w
  | .binary op => do
      let (x, y, f) ← f.pop2
      let f ← f.pay op.price
      return .go (← f.answer (op.apply x y)) w
  | .unary op => do
      let (x, f) ← f.pop
      let f ← f.pay 3
      return .go (← f.answer (op.apply x)) w
  | .dup depth => do return .go (← f.dup depth) w
  | .swap depth => do return .go (← f.swap depth) w
  | .pop => do
      let (_, f) ← f.pop
      let f ← f.pay 2
      return .go f.next w
  | .jumpdest => do
      let f ← f.pay 1
      return .go f.next w
  | .jump => do return .go (← f.jump) w
  | .jumpIf => do return .go (← f.jumpIf) w
  | .read what => do
      let f ← f.pay what.price
      return .go (← f.answer (what.value block f w)) w
  | .ternary op => do
      let (x, y, m, f) ← f.pop3
      let f ← f.pay 8
      return .go (← f.answer (op.apply x y m)) w
  | .exp => do
      let (x, y, f) ← f.pop2
      let f ← f.pay (10 + 50 * y.byteLength)
      return .go (← f.answer (x.pow y)) w
  | .keccak256 => do return .go (← f.keccak256) w
  | .callDataLoad => do return .go (← f.callDataLoad) w
  | .callDataCopy => do return .go (← f.callDataCopy) w
  | .codeCopy => do return .go (← f.codeCopy) w
  | .returnDataCopy => do return .go (← f.returnDataCopy) w
  | .mload => do return .go (← f.mload) w
  | .mstore => do return .go (← f.mstore) w
  | .mstore8 => do return .go (← f.mstore8) w
  | .mcopy => do return .go (← f.mcopy) w
  | .balance => f.askAccount w fun account => BitVec.ofNat 256 account.balance
  | .extCodeSize => f.askAccount w fun account => BitVec.ofNat 256 account.code.size
  | .extCodeHash => f.askAccount w codeHash
  | .extCodeCopy => f.extCodeCopy w
  | .blockHash => do
      let (_, f) ← f.pop
      let f ← f.pay 20
      return .go (← f.answer 0) w
  | .blobHash => do
      let (_, f) ← f.pop
      let f ← f.pay 3
      return .go (← f.answer 0) w
  | .sload => f.sload w
  | .sstore => f.sstore w
  | .tload => do return .go (← f.tload w) w
  | .tstore => f.tstore w
  | .log topics => f.log w topics
  | .create | .create2 => do
      f.mayWrite
      throw .creation
  | .call kind => f.call block.builtIns w kind
  | .selfDestruct => f.selfDestruct w
  | .stop => .ok (.finish (.success ByteArray.empty f.gas) w)
  | .return => do
      let (data, gas) ← f.handBack
      return .finish (.success data gas) w
  | .revert => do
      let (data, gas) ← f.handBack
      return .finish (.revert data gas) w
  | .invalid => .error .badInstruction

end Frame

end ReleaseGate.Evm
