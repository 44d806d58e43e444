/-
# Proofs.Probe.Forwarder — what the forwarder does, instruction by instruction

The forwarder has two stretches of straight code, and a call between them. The
first copies the input to memory and sets out the operands (`toll_prepare`); the
second copies what was returned, jumps as the call went, and sets out the end
(`toll_reply`). Each stretch is a toll with an explicit price, so all that can go
wrong is that the gas does not last. The call comes to what the code under probe
comes to on its own (`reaches_reply`), and the forwarder ends with just that
(`reaches_end`).
-/
import ReleaseGate.Proofs.Evm.Calls
import ReleaseGate.Proofs.Probe.Answer

namespace ReleaseGate.Probe

set_option autoImplicit false

open Evm

/-! ## The forwarder's frames -/

/-- The forwarder's code for the address of the code under probe. -/
def forwarder : Code := Code.ofBytes (forwarderCode (addressBytes targetAddress)).toByteArray

/-- A frame of the forwarder, but for its gas. -/
def forwarderFrame (input : ByteArray) (place : Nat) (items : List Word) (memory : Memory)
    (returned : ByteArray) : Frame where
  code := forwarder
  message := ⟨forwarderAddress, callerAddress, 0, input, false, 0⟩
  place := place
  gas := 0
  stack := .ofList items
  memory := memory
  returned := returned

/-- A length as a word. -/
def lengthWord (bytes : ByteArray) : Word := BitVec.ofNat 256 bytes.size

theorem toNat_lengthWord {bytes : ByteArray} (fits : FitsWord bytes.size) :
    (lengthWord bytes).toNat = bytes.size := fits

/-- The forwarder's memory with the input at its start. -/
def inputMemory (input : ByteArray) : Memory := Memory.empty.copied 0 input.size input

/-! ## Its instructions -/

section Instructions

variable {block : Block} {w : World} {input returned : ByteArray} {place : Nat}
  {items rest : List Word} {memory : Memory} {x : Word}

theorem toll_read (what : Reading) (here : forwarder.instructionAt place = .read what)
    (value : ∀ gas, what.value block
      ((forwarderFrame input place items memory returned).withGas gas) w = x)
    (room : (Stack.ofList items).push? x = some (.ofList (x :: items))) :
    Toll block w what.price (forwarderFrame input place items memory returned)
      (forwarderFrame input (place + 1) (x :: items) memory returned) :=
  .read here value room

theorem toll_push {width next : Nat} (here : forwarder.instructionAt place = .push width)
    (operand : forwarder.operand place width = x) (onward : place + 1 + width = next)
    (wide : width ≠ 0) (room : (Stack.ofList items).push? x = some (.ofList (x :: items))) :
    Toll block w 3 (forwarderFrame input place items memory returned)
      (forwarderFrame input next (x :: items) memory returned) := by
  subst onward operand
  exact .push here wide room

/-- The copy of the whole input to the start of memory. -/
theorem toll_callDataCopy (here : forwarder.instructionAt place = .callDataCopy)
    (fits : FitsWord input.size)
    (top : (Stack.ofList items).pop3? = some (0, 0, lengthWord input, .ofList rest)) :
    Toll block w (copyPrice memory 0 input.size)
      (forwarderFrame input place items memory returned)
      (forwarderFrame input (place + 1) rest (memory.copied 0 input.size input) returned) := by
  have copied : Toll block w _ (forwarderFrame input place items memory returned) _ :=
    .callDataCopy here top
  rw [toNat_lengthWord fits] at copied
  have whole : window input (0 : Word).toNat input.size = input := window_size input
  rwa [show (forwarderFrame input place items memory returned).message.input = input from rfl,
    whole] at copied

/-- The copy of all that was returned to the start of memory. -/
theorem toll_returnDataCopy (here : forwarder.instructionAt place = .returnDataCopy)
    (fits : FitsWord returned.size)
    (top : (Stack.ofList items).pop3? = some (0, 0, lengthWord returned, .ofList rest)) :
    Toll block w (copyPrice memory 0 returned.size)
      (forwarderFrame input place items memory returned)
      (forwarderFrame input (place + 1) rest (memory.copied 0 returned.size returned)
        returned) := by
  have length := toNat_lengthWord fits
  have copied : Toll block w _ (forwarderFrame input place items memory returned) _ :=
    .returnDataCopy here top (by rw [length]; exact Nat.le_of_eq (Nat.zero_add _))
  rw [length] at copied
  have whole : window returned (0 : Word).toNat returned.size = returned := window_size returned
  rwa [show (forwarderFrame input place items memory returned).returned = returned from rfl,
    whole] at copied

theorem toll_jumpIf {target flag : Word} {next : Nat}
    (here : forwarder.instructionAt place = .jumpIf)
    (top : (Stack.ofList items).pop2? = some (target, flag, .ofList rest))
    (lands : forwarder.isTarget target.toNat = true)
    (onward : (if flag = 0 then place + 1 else target.toNat) = next) :
    Toll block w 10 (forwarderFrame input place items memory returned)
      (forwarderFrame input next rest memory returned) := by
  subst onward
  exact .jumpIf here top fun _ => lands

theorem toll_jumpdest (here : forwarder.instructionAt place = .jumpdest) :
    Toll block w 1 (forwarderFrame input place items memory returned)
      (forwarderFrame input (place + 1) items memory returned) :=
  .jumpdest here

end Instructions

/-! ## From the start to the call -/

section Stretches

variable {block : Block} {w : World} {input : ByteArray}

/-- What the forwarder pays until it asks for its gas. -/
def preparePrice (input : ByteArray) : Nat := 22 + copyPrice .empty 0 input.size

/-- **The input is copied to memory**, and the operands of the call are set out. -/
theorem toll_prepare (fits : FitsWord input.size) :
    Toll block w (preparePrice input) (forwarderFrame input 0 [] .empty ByteArray.empty)
      (forwarderFrame input 34 [targetAddress.toWord, 0, lengthWord input, 0, 0]
        (inputMemory input) ByteArray.empty) := by
  let stage (place : Nat) (items : List Word) (memory : Memory) : Frame :=
    forwarderFrame input place items memory ByteArray.empty
  -- The input, from its start, to the start of memory.
  have length : Toll block w 2 (stage 0 [] .empty) (stage 1 [lengthWord input] .empty) :=
    toll_read .callDataSize rfl (fun _ => rfl) rfl
  have source : Toll block w 3 (stage 1 [lengthWord input] .empty)
      (stage 3 [0, lengthWord input] .empty) := toll_push rfl rfl rfl (by decide) rfl
  have target : Toll block w 3 (stage 3 [0, lengthWord input] .empty)
      (stage 5 [0, 0, lengthWord input] .empty) := toll_push rfl rfl rfl (by decide) rfl
  have copy : Toll block w (copyPrice .empty 0 input.size)
      (stage 5 [0, 0, lengthWord input] .empty) (stage 6 [] (inputMemory input)) :=
    toll_callDataCopy rfl fits rfl
  -- The operands of the call, the last one first; it takes nothing back.
  have outLength : Toll block w 3 (stage 6 [] (inputMemory input))
      (stage 8 [0] (inputMemory input)) := toll_push rfl rfl rfl (by decide) rfl
  have outOffset : Toll block w 3 (stage 8 [0] (inputMemory input))
      (stage 10 [0, 0] (inputMemory input)) := toll_push rfl rfl rfl (by decide) rfl
  have inLength : Toll block w 2 (stage 10 [0, 0] (inputMemory input))
      (stage 11 [lengthWord input, 0, 0] (inputMemory input)) :=
    toll_read .callDataSize rfl (fun _ => rfl) rfl
  have inOffset : Toll block w 3 (stage 11 [lengthWord input, 0, 0] (inputMemory input))
      (stage 13 [0, lengthWord input, 0, 0] (inputMemory input)) :=
    toll_push rfl rfl rfl (by decide) rfl
  have address : Toll block w 3 (stage 13 [0, lengthWord input, 0, 0] (inputMemory input))
      (stage 34 [targetAddress.toWord, 0, lengthWord input, 0, 0] (inputMemory input)) :=
    toll_push rfl (by decide +kernel) rfl (by decide) rfl
  have whole := length.trans (source.trans (target.trans (copy.trans (outLength.trans
    (outOffset.trans (inLength.trans (inOffset.trans address)))))))
  exact whole.at_price (by unfold preparePrice; omega)

/-! ## From the end of the call -/

variable {memory : Memory} {returned : ByteArray}

/-- **What was returned is copied to memory**, and the forwarder goes where the flag
of the call sends it. -/
theorem toll_collect (fits : FitsWord returned.size) (succeeds : Bool) :
    Toll block w (21 + copyPrice memory 0 returned.size)
      (forwarderFrame input 36 [Word.ofBool succeeds] memory returned)
      (forwarderFrame input (if succeeds then 49 else 45) []
        (memory.copied 0 returned.size returned) returned) := by
  let flag := Word.ofBool succeeds
  let stage (place : Nat) (items : List Word) (memory : Memory) : Frame :=
    forwarderFrame input place items memory returned
  let filled := memory.copied 0 returned.size returned
  -- The flag stays at the bottom of the stack until the jump asks for it.
  have length : Toll block w 2 (stage 36 [flag] memory)
      (stage 37 [lengthWord returned, flag] memory) :=
    toll_read .returnDataSize rfl (fun _ => rfl) rfl
  have source : Toll block w 3 (stage 37 [lengthWord returned, flag] memory)
      (stage 39 [0, lengthWord returned, flag] memory) := toll_push rfl rfl rfl (by decide) rfl
  have target : Toll block w 3 (stage 39 [0, lengthWord returned, flag] memory)
      (stage 41 [0, 0, lengthWord returned, flag] memory) :=
    toll_push rfl rfl rfl (by decide) rfl
  have copy : Toll block w (copyPrice memory 0 returned.size)
      (stage 41 [0, 0, lengthWord returned, flag] memory) (stage 42 [flag] filled) :=
    toll_returnDataCopy rfl fits rfl
  have place : Toll block w 3 (stage 42 [flag] filled) (stage 44 [0x31, flag] filled) :=
    toll_push rfl (by decide +kernel) rfl (by decide) rfl
  have jump : Toll block w 10 (stage 44 [0x31, flag] filled)
      (stage (if succeeds then 49 else 45) [] filled) :=
    toll_jumpIf rfl rfl (by decide +kernel) (by cases succeeds <;> rfl)
  have whole := length.trans (source.trans (target.trans (copy.trans (place.trans jump))))
  exact whole.at_price (by omega)

/-- The price of the way from the flag of the call to the end. -/
def handBackPrice (succeeds : Bool) : Nat := if succeeds then 6 else 5

/-- The operands of the last instruction are set out. -/
theorem toll_handBack (succeeds : Bool) :
    Toll block w (handBackPrice succeeds)
      (forwarderFrame input (if succeeds then 49 else 45) [] memory returned)
      (forwarderFrame input (if succeeds then 53 else 48) [0, lengthWord returned] memory
        returned) := by
  let stage (place : Nat) (items : List Word) : Frame :=
    forwarderFrame input place items memory returned
  cases succeeds with
  | true =>
      have lands : Toll block w 1 (stage 49 []) (stage 50 []) := toll_jumpdest rfl
      have length : Toll block w 2 (stage 50 []) (stage 51 [lengthWord returned]) :=
        toll_read .returnDataSize rfl (fun _ => rfl) rfl
      have offset : Toll block w 3 (stage 51 [lengthWord returned])
          (stage 53 [0, lengthWord returned]) := toll_push rfl rfl rfl (by decide) rfl
      exact (lands.trans (length.trans offset)).at_price rfl
  | false =>
      have length : Toll block w 2 (stage 45 []) (stage 46 [lengthWord returned]) :=
        toll_read .returnDataSize rfl (fun _ => rfl) rfl
      have offset : Toll block w 3 (stage 46 [lengthWord returned])
          (stage 48 [0, lengthWord returned]) := toll_push rfl rfl rfl (by decide) rfl
      exact (length.trans offset).at_price rfl

end Stretches

/-! ## The call in the middle -/

/-- The message of the one call that the forwarder makes. -/
def targetMessage (input : ByteArray) : Message :=
  ⟨targetAddress, forwarderAddress, 0, input, true, 1⟩

/-- What the forwarder pays until it makes its call. -/
def askPrice (input : ByteArray) : Nat := preparePrice input + 2

/-- The price of the call, beside the gas it hands on. -/
def targetPrice (code : List UInt8) : Nat :=
  Frame.callPrice (startWorld code) .staticCall targetAddress 0

/-- The code under probe on its own, called with some input and gas. -/
def targetMachine (block : Block) (code : List UInt8) (input : ByteArray) (allowance : Nat) :
    Machine :=
  let world := Frame.callWorld (startWorld code) targetAddress
  (Frame.start (world.callee targetAddress) (targetMessage input) allowance).alone block world

section Middle

variable {block : Block} {w : World} {code : List UInt8} {input : ByteArray} {gas : Nat}

theorem instructionAt_gas : forwarder.instructionAt 34 = .read .gas := rfl

theorem instructionAt_call : forwarder.instructionAt 35 = .call .staticCall := rfl

theorem starves_early (fits : FitsWord input.size) (less : gas < askPrice input) :
    (((forwarderFrame input 0 [] .empty ByteArray.empty).withGas gas).alone block w).Starves
      [] := by
  have prepared : Toll block w _ _ _ := toll_prepare fits
  by_cases enough : preparePrice input ≤ gas
  · refine (starves_gas instructionAt_gas ?_).before (prepared.passes gas enough)
    unfold askPrice at less
    exact Nat.sub_lt_left_of_lt_add enough less
  · exact prepared.starves gas (Nat.lt_of_not_le enough)

/-- The forwarder about to make its call. -/
def askingFrame (input : ByteArray) (gas : Nat) : Frame :=
  (forwarderFrame input 35 [BitVec.ofNat 256 gas, targetAddress.toWord, 0, lengthWord input, 0, 0]
    (inputMemory input) ByteArray.empty).withGas gas

theorem reaches_asking (fits : FitsWord input.size) (enough : askPrice input ≤ gas) :
    (((forwarderFrame input 0 [] .empty ByteArray.empty).withGas gas).alone block w).Reaches []
      (.inl ((askingFrame input (gas - askPrice input)).alone block w)) := by
  have prepared : Toll block w _ _ _ := toll_prepare fits
  unfold askPrice at *
  have first := prepared.passes gas (by omega)
  rw [← Nat.sub_sub]
  exact first.trans (reaches_gas instructionAt_gas rfl (Nat.le_sub_of_add_le (by omega)))

theorem asking_call (fits : FitsWord input.size) :
    (askingFrame input gas).readOnlyMessage targetAddress.toWord.toAddress
      ((askingFrame input gas).memory.read 0 (lengthWord input).toNat) = targetMessage input := by
  rw [toNat_lengthWord fits]
  have read : (askingFrame input gas).memory.read 0 input.size = input :=
    Memory.read_copied .empty input
  rw [read]
  rfl

theorem asking_holds (fits : FitsWord input.size) :
    (askingFrame input gas).memory.Holds 0 (lengthWord input).toNat := by
  rw [toNat_lengthWord fits]
  exact Memory.holds_copied .empty input

theorem starves_asking (fits : FitsWord input.size) (less : gas < targetPrice code) :
    ((askingFrame input gas).alone block (startWorld code)).Starves
      [(.staticCall, targetMessage input)] := by
  have starves : ((askingFrame input gas).alone block (startWorld code)).Starves _ :=
    starves_staticCall instructionAt_call rfl (asking_holds fits) less
  rwa [asking_call fits] at starves

/-- The forwarder with an answer, about to hand it on. -/
def repliedFrame (input : ByteArray) (ending : Ending) : Frame :=
  forwarderFrame input 36 [Word.ofBool ending.succeeds] (inputMemory input) ending.data

theorem resume_asking (ending : Ending) (kept : Nat) :
    (({ askingFrame input gas with stack := .ofList [] }.withGas kept).next).resume
      ending.succeeds ending.data ending.gas 0 0 =
        (repliedFrame input ending).withGas (kept + ending.gas) := by
  have nothing : ending.data.extract 0 (min 0 ending.data.size) = ByteArray.empty := by
    rw [Nat.zero_min, ByteArray.extract_same]
  unfold Frame.resume
  rw [nothing]
  rfl

/-- **The forwarder takes up what the code under probe comes to on its own.** -/
theorem reaches_reply {fuel : Nat} {result : Result} (fits : FitsWord input.size)
    (small : FitsWord gas) (enough : targetPrice code ≤ gas)
    (ran : (targetMachine block code input
      (gas - targetPrice code - (gas - targetPrice code) / 64)).run fuel = some result) :
    ∃ after, ((askingFrame input gas).alone block (startWorld code)).Reaches
      [(.staticCall, targetMessage input)]
      (.inl (((repliedFrame input result.ending).withGas
        ((gas - targetPrice code) / 64 + result.ending.gas)).alone block after)) := by
  have plenty : gas ≤ (BitVec.ofNat 256 gas).toNat := Nat.le_of_eq small.symm
  have shallow : (askingFrame input gas).message.depth < Frame.depthLimit := Nat.zero_lt_succ _
  rw [targetMachine, ← asking_call fits] at ran
  have reached : ((askingFrame input gas).alone block (startWorld code)).Reaches _ _ :=
    reaches_staticCall instructionAt_call rfl (asking_holds fits) plenty shallow (by decide)
      enough ran
  rw [asking_call fits, Machine.conclude_cons, resume_asking] at reached
  exact ⟨_, reached⟩

/-! ## The answer handed on -/

/-- What the forwarder pays to hand on the end of its call. -/
def replyPrice (input : ByteArray) (ending : Ending) : Nat :=
  21 + copyPrice (inputMemory input) 0 ending.data.size + handBackPrice ending.succeeds

/-- How the forwarder itself ends. -/
def handedOn (ending : Ending) (gas : Nat) : Ending :=
  if ending.succeeds then .success ending.data gas else .revert ending.data gas

/-- The forwarder about to end. -/
def lastFrame (input : ByteArray) (ending : Ending) : Frame :=
  forwarderFrame input (if ending.succeeds then 53 else 48) [0, lengthWord ending.data]
    ((inputMemory input).copied 0 ending.data.size ending.data) ending.data

theorem toll_reply {ending : Ending} (fits : FitsWord ending.data.size) :
    Toll block w (replyPrice input ending) (repliedFrame input ending) (lastFrame input ending) :=
  (toll_collect fits ending.succeeds).trans (toll_handBack ending.succeeds)

theorem instructionAt_return : forwarder.instructionAt 53 = .return := rfl

theorem instructionAt_revert : forwarder.instructionAt 48 = .revert := rfl

theorem reaches_end {ending : Ending} (fits : FitsWord ending.data.size) :
    (((lastFrame input ending).withGas gas).alone block w).Reaches []
      (.inr ⟨handedOn ending gas, w⟩) := by
  have length := toNat_lengthWord fits
  have read : ((lastFrame input ending).withGas gas).memory.read (0 : Word).toNat
      (lengthWord ending.data).toNat = ending.data := by
    rw [length]
    exact Memory.read_copied _ _
  have holds : ((lastFrame input ending).withGas gas).memory.Holds (0 : Word).toNat
      (lengthWord ending.data).toNat := by
    rw [length]
    exact Memory.holds_copied _ _
  unfold handedOn
  cases succeeds : ending.succeeds with
  | true =>
      have here : ((lastFrame input ending).withGas gas).code.instructionAt
          ((lastFrame input ending).withGas gas).place = .return := by
        simp [lastFrame, forwarderFrame, Frame.withGas, succeeds, instructionAt_return]
      have ended : (((lastFrame input ending).withGas gas).alone block w).Reaches [] _ :=
        reaches_return here rfl holds
      rw [read] at ended
      exact ended
  | false =>
      have here : ((lastFrame input ending).withGas gas).code.instructionAt
          ((lastFrame input ending).withGas gas).place = .revert := by
        simp [lastFrame, forwarderFrame, Frame.withGas, succeeds, instructionAt_revert]
      have ended : (((lastFrame input ending).withGas gas).alone block w).Reaches [] _ :=
        reaches_revert here rfl holds
      rw [read] at ended
      exact ended

/-- The answer of a probe of code that comes to the given end. -/
def relay : Ending → Except Fault (List UInt8)
  | .success data _ => .ok data.data.toList
  | .revert data _ => .error (.reverted data.size)
  | .halt _ => .error (.reverted 0)

theorem relay_eq (ending : Ending) :
    relay ending =
      if ending.succeeds then .ok ending.data.data.toList
      else .error (.reverted ending.data.size) := by
  cases ending <;> rfl

theorem answerOf_handedOn (ending : Ending) (gas : Nat) (world : World) :
    answerOf (some ⟨handedOn ending gas, world⟩) = relay ending := by
  cases ending <;> rfl

end Middle

end ReleaseGate.Probe
