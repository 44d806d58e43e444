/-
# Probe — a read-only call of some code

The code is installed at a fixed address beside a small forwarder. A message
to the forwarder makes it pass its input on to the code in a read-only call
and hand back, or revert with, whatever the code returns. So no change that the
code attempts can succeed, and gas bounds the number of instructions.

* `forwarderCode`: 54 bytes of code for a given target;
* `Probe.callWith`: the whole probe, from the checks made in advance to the
  answer, whatever the built-in contracts do; `Probe.call` has the partial table.
-/
import ReleaseGate.Evm.Machine
import ReleaseGate.Journal

namespace ReleaseGate.Probe

set_option autoImplicit false

open Evm

/-- The account that sends the message. -/
def callerAddress : Address := 0x1c1c1c1c1c1c1c1c1c1c1c1c1c1c1c1c1c1c1c1c

/-- The forwarder's address. -/
def forwarderAddress : Address := 0x9e9e9e9e9e9e9e9e9e9e9e9e9e9e9e9e9e9e9e9e

/-- The address of the code under probe. -/
def targetAddress : Address := 0x7a7a7a7a7a7a7a7a7a7a7a7a7a7a7a7a7a7a7a7a

/-- The 20 bytes of an address, most significant first. -/
def addressBytes (a : Address) : List UInt8 :=
  (List.range 20).map fun i => UInt8.ofNat (a.toNat >>> (8 * (19 - i)))

/-- The forwarder's code for a target given by its bytes: copy the input to
memory, call the target with it, copy back what it returned, then return or
revert as the call went. -/
def forwarderCode (target : List UInt8) : List UInt8 :=
  [0x36, 0x60, 0x00, 0x60, 0x00, 0x37] ++
    [0x60, 0x00, 0x60, 0x00, 0x36, 0x60, 0x00, 0x73] ++ target ++ [0x5a, 0xfa] ++
    [0x3d, 0x60, 0x00, 0x60, 0x00, 0x3e] ++
    [0x60, 0x31, 0x57, 0x3d, 0x60, 0x00, 0xfd] ++
    [0x5b, 0x3d, 0x60, 0x00, 0xf3]

/-! ## What is checked in advance -/

/-- Why code cannot be installed. -/
inductive CodeFault where
  /-- A delegation marker must be followed by a version and an address. -/
  | delegationLength
  | delegationVersion
  deriving DecidableEq, Repr

/-- Code that begins with `ef01` is a delegation and must have its exact form. -/
def checkCode (code : List UInt8) : Except CodeFault Unit :=
  match code with
  | 0xef :: 0x01 :: rest =>
      if code.length ≠ 23 then .error .delegationLength
      else if rest.head? ≠ some 0 then .error .delegationVersion
      else .ok ()
  | _ => .ok ()

/-- The weight of the input: one per zero byte, four per other byte. -/
def inputWeight : List UInt8 → Nat
  | [] => 0
  | byte :: rest => (if byte = 0 then 1 else 4) + inputWeight rest

/-- What a message costs before any instruction runs. -/
def intrinsicGas (input : List UInt8) : Nat := 21000 + 4 * inputWeight input

/-- What a message costs at least. -/
def floorGas (input : List UInt8) : Nat := 21000 + 10 * inputWeight input

/-! ## The call -/

/-- Why a probe has no answer. -/
inductive Fault where
  | code (fault : CodeFault)
  | belowIntrinsic (intrinsic limit : Nat)
  | belowFloor (floor limit : Nat)
  /-- The code reverted, with so many bytes. -/
  | reverted (length : Nat)
  /-- The forwarder halted. -/
  | halted (why : Halt)
  deriving DecidableEq, Repr

/-- The world a probe starts in: the sender, the forwarder and the code. -/
def startWorld (code : List UInt8) : World where
  ledger :=
    { accounts :=
        [(targetAddress, ⟨1, 0, Code.ofBytes code.toByteArray⟩),
          (forwarderAddress,
            ⟨1, 0, Code.ofBytes (forwarderCode (addressBytes targetAddress)).toByteArray⟩),
          (callerAddress, ⟨1, 0, Code.empty⟩)]
      storage := []
      transient := []
      logs := [] }
  warmAccounts := [forwarderAddress, callerAddress]
  warmSlots := []

/-- The machine a probe starts with: the forwarder, about to run. -/
def startMachine (builtIns : BuiltIns) (code input : List UInt8) (gasLimit : Nat) : Machine :=
  let world := startWorld code
  { block := ⟨callerAddress, gasLimit, builtIns⟩
    frame := Frame.start (world.ledger.code forwarderAddress)
      { self := forwarderAddress
        caller := callerAddress
        value := 0
        input := input.toByteArray
        readOnly := false
        depth := 0 }
      (gasLimit - intrinsicGas input)
    world := world
    pending := [] }

/-- The run of a probe. The gas limit bounds the number of instructions. -/
def run (builtIns : BuiltIns) (code input : List UInt8) (gasLimit : Nat) : Option Result :=
  (startMachine builtIns code input gasLimit).run gasLimit

/-- Call `code` with `input`, and hand back its answer. -/
def callWith (builtIns : BuiltIns) (code input : List UInt8) (gasLimit : Nat) :
    Logged (Except Fault (List UInt8)) := do
  match checkCode code with
  | .error fault => return .error (.code fault)
  | .ok () =>
      if gasLimit < intrinsicGas input then
        return .error (.belowIntrinsic (intrinsicGas input) gasLimit)
      else if gasLimit < floorGas input then
        return .error (.belowFloor (floorGas input) gasLimit)
      else
        match run builtIns code input gasLimit with
        | some ⟨.success data gas, _⟩ =>
            let used := max (gasLimit - gas) (floorGas input)
            Logged.debug s!"Static call succeeded using {used} gas"
            return .ok data.data.toList
        | some ⟨.revert data _, _⟩ => return .error (.reverted data.size)
        | some ⟨.halt why, _⟩ => return .error (.halted why)
        | none => return .error (.halted .outOfGas)

/-- The probe with the partial table of built-in contracts. -/
def call (code input : List UInt8) (gasLimit : Nat) : Logged (Except Fault (List UInt8)) :=
  callWith .basic code input gasLimit

/-! ## Texts -/

def CodeFault.message : CodeFault → String
  | .delegationLength => "unsupported bytecode: Eip7702(InvalidLength)"
  | .delegationVersion => "unsupported bytecode: Eip7702(UnsupportedVersion)"

/-- Two numbers in the form of a refused transaction. -/
def refusedTransaction (name first : String) (n limit : Nat) : String :=
  "Transaction(" ++ name ++ " \x7b " ++ first ++ ": " ++ Nat.repr n ++ ", gas_limit: " ++
    Nat.repr limit ++ " \x7d)"

/-- The name of a reason to halt. -/
def haltName : Halt → String
  | .outOfGas => "OutOfGas(Basic)"
  | .memoryOutOfGas => "OutOfGas(Memory)"
  | .stackUnderflow => "StackUnderflow"
  | .stackOverflow => "StackOverflow"
  | .badJump => "InvalidJump"
  | .badInstruction => "OpcodeNotFound"
  | .beyondReturnData => "OutOfOffset"
  | .readOnly => "StateChangeDuringStaticCall"
  | .creation => "NotActivated"

def Fault.message : Fault → String
  | .code fault => "EVM execution failed: " ++ fault.message
  | .belowIntrinsic intrinsic limit =>
      "EVM execution failed: " ++
        refusedTransaction "CallGasCostMoreThanGasLimit" "initial_gas" intrinsic limit
  | .belowFloor floor limit =>
      "EVM execution failed: " ++
        refusedTransaction "GasFloorMoreThanGasLimit" "gas_floor" floor limit
  | .reverted length => s!"Version call reverted with {length} bytes of data"
  | .halted why => "Version call halted: " ++ haltName why

end ReleaseGate.Probe
