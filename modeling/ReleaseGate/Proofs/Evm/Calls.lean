/-
# Proofs.Evm.Calls — a read-only call, and the end of a frame

A frame that hands all the gas it may to a read-only call comes to what the code
it calls comes to on its own (`reaches_staticCall`). Code that is empty is no
exception: on its own it ends at once with all its gas. A frame that hands back a
part of memory it has already paid for ends with just that part.
-/
import ReleaseGate.Proofs.Evm.Tolls

namespace ReleaseGate.Evm

set_option autoImplicit false

namespace Frame

variable {builtIns : BuiltIns} {block : Block} {w : World} {f : Frame}

theorem reach_of_holds {offset length : Nat} (holds : f.memory.Holds offset length) :
    f.reach offset length = .ok f := by
  simp only [reach, Memory.expansionCost_of_holds holds, Memory.expand_of_holds holds,
    Nat.zero_le, if_true, Nat.sub_zero]

/-! ## A call -/

/-- The message of a read-only call of `target`. -/
def readOnlyMessage (f : Frame) (target : Address) (input : ByteArray) : Message :=
  ⟨target, f.message.self, 0, input, true, f.message.depth + 1⟩

theorem callOperands_staticCall {gas target length : Word}
    (stack : f.stack = .ofList [gas, target, 0, length, 0, 0]) :
    f.callOperands .staticCall =
      .ok (⟨gas, target.toAddress, 0, 0, length.toNat, 0, 0⟩,
        { f with stack := .ofList [] }) := by
  obtain ⟨code, message, place, gas, stack, memory, returned⟩ := f
  cases stack
  rfl

theorem request?_staticCall {gas target length : Word}
    (here : f.code.instructionAt f.place = .call .staticCall)
    (stack : f.stack = .ofList [gas, target, 0, length, 0, 0]) :
    f.request? =
      some (.staticCall, f.readOnlyMessage target.toAddress (f.memory.read 0 length.toNat)) := by
  simp only [request?, here, callOperands_staticCall stack]
  rfl

/-- The operands are taken, and the memory is there: what is left is to pay. -/
theorem call_prepared {gas target length : Word}
    (stack : f.stack = .ofList [gas, target, 0, length, 0, 0])
    (holds : f.memory.Holds 0 length.toNat) :
    f.call builtIns w .staticCall = do
      let g ← { f with stack := .ofList [] }.pay (callPrice w .staticCall target.toAddress 0)
      let allowance := min gas.toNat (g.gas - g.gas / 64)
      let g ← g.pay allowance
      return g.next.runCall builtIns (callWorld w target.toAddress) .staticCall target.toAddress 0
        (g.memory.read 0 length.toNat) allowance 0 0 := by
  have first : { f with stack := .ofList [] }.reach 0 length.toNat =
      .ok { f with stack := .ofList [] } := reach_of_holds holds
  have second : { f with stack := .ofList [] }.reach 0 0 =
      .ok { f with stack := .ofList [] } := reach_of_holds (Memory.holds_none _ 0)
  simp only [call, callOperands_staticCall stack, bind_ok, first, second]
  rfl

/-- All but a 64th of the gas is handed on. -/
theorem call_staticCall {gas target length : Word}
    (stack : f.stack = .ofList [gas, target, 0, length, 0, 0])
    (holds : f.memory.Holds 0 length.toNat) (plenty : f.gas ≤ gas.toNat)
    (enough : callPrice w .staticCall target.toAddress 0 ≤ f.gas) :
    let rest := f.gas - callPrice w .staticCall target.toAddress 0
    f.call builtIns w .staticCall =
      .ok ((({ f with stack := .ofList [] }.withGas (rest / 64)).next).runCall builtIns
        (callWorld w target.toAddress) .staticCall target.toAddress 0
        (f.memory.read 0 length.toNat) (rest - rest / 64) 0 0) := by
  intro rest
  have handed : min gas.toNat (rest - rest / 64) = rest - rest / 64 := by
    apply Nat.min_eq_right
    have : rest ≤ f.gas := Nat.sub_le _ _
    omega
  have left : rest - (rest - rest / 64) = rest / 64 := by omega
  have paid : { f with stack := .ofList [] }.pay (callPrice w .staticCall target.toAddress 0) =
      .ok ({ f with stack := .ofList [] }.withGas rest) := if_pos enough
  have gas : ({ f with stack := .ofList [] }.withGas rest).gas = rest := rfl
  rw [call_prepared stack holds, paid, bind_ok]
  simp only [gas, handed, pay_withGas (Nat.sub_le _ _), bind_ok, left]
  rfl

theorem call_staticCall_of_lt {gas target length : Word}
    (stack : f.stack = .ofList [gas, target, 0, length, 0, 0])
    (holds : f.memory.Holds 0 length.toNat)
    (less : f.gas < callPrice w .staticCall target.toAddress 0) :
    f.call builtIns w .staticCall = .error .outOfGas := by
  have unpaid : { f with stack := .ofList [] }.pay (callPrice w .staticCall target.toAddress 0) =
      .error .outOfGas := if_neg (Nat.not_le.mpr less)
  rw [call_prepared stack holds, unpaid, bind_error]

theorem runCall_staticCall {target : Address} {input : ByteArray} {allowance : Nat}
    (shallow : f.message.depth < depthLimit) (ordinary : isBuiltIn target = false) :
    f.runCall builtIns w .staticCall target 0 input allowance 0 0 =
      if (w.callee target).size = 0 then
        .go (f.resume true ByteArray.empty allowance 0 0) w
      else
        .enter f (.start (w.callee target) (f.readOnlyMessage target input) allowance) 0 0 w w := by
  have depth : ¬ depthLimit < (f.messageTo .staticCall target 0 input).depth :=
    Nat.not_lt.mpr shallow
  simp only [runCall, if_neg depth, takesValue, ordinary]
  rfl

end Frame

/-! ## From the call to its end -/

section Runs

open ReleaseGate.Evm.Machine ReleaseGate.Evm.Frame

variable {block : Block} {w : World} {f : Frame} {gas target length : Word}

/-- The call is asked for in any case. -/
theorem asked_staticCall (block : Block) (w : World)
    (here : f.code.instructionAt f.place = .call .staticCall)
    (stack : f.stack = .ofList [gas, target, 0, length, 0, 0]) :
    (f.alone block w).asked =
      [(.staticCall, f.readOnlyMessage target.toAddress (f.memory.read 0 length.toNat))] := by
  simp [asked, alone, request?_staticCall here stack]

theorem execute_call {kind : CallKind} (here : f.code.instructionAt f.place = .call kind) :
    f.execute block w = f.call block.builtIns w kind := by
  simp only [execute, here]

/-- Without the gas for the call itself the frame ends. -/
theorem starves_staticCall (here : f.code.instructionAt f.place = .call .staticCall)
    (stack : f.stack = .ofList [gas, target, 0, length, 0, 0])
    (holds : f.memory.Holds 0 length.toNat)
    (less : f.gas < callPrice w .staticCall target.toAddress 0) :
    (f.alone block w).Starves
      [(.staticCall, f.readOnlyMessage target.toAddress (f.memory.read 0 length.toNat))] := by
  refine ⟨.outOfGas, w, .inl rfl, ?_⟩
  rw [← asked_staticCall block w here stack]
  apply Reaches.of_step
  simp only [alone, Machine.step, execute_call here, call_staticCall_of_lt stack holds less]
  rfl

/-- Code that is empty ends at once, with all its gas. -/
theorem step_empty {code : Code} (empty : code.size = 0) (message : Message) (allowance : Nat) :
    ((Frame.start code message allowance).alone block w).step =
      .inr ⟨.success ByteArray.empty allowance, w⟩ := by
  have stops : code.instructionAt 0 = .stop := by
    unfold Code.instructionAt
    rw [dif_neg]
    unfold Code.size at empty
    omega
  simp only [alone, Machine.step, execute, Frame.start, stops]
  rfl

/-- **A read-only call comes to what its callee comes to on its own.** -/
theorem reaches_staticCall {fuel : Nat} {result : Result}
    (here : f.code.instructionAt f.place = .call .staticCall)
    (stack : f.stack = .ofList [gas, target, 0, length, 0, 0])
    (holds : f.memory.Holds 0 length.toNat) (plenty : f.gas ≤ gas.toNat)
    (shallow : f.message.depth < depthLimit) (ordinary : isBuiltIn target.toAddress = false)
    (enough : callPrice w .staticCall target.toAddress 0 ≤ f.gas) :
    let rest := f.gas - callPrice w .staticCall target.toAddress 0
    let message := f.readOnlyMessage target.toAddress (f.memory.read 0 length.toNat)
    let after := callWorld w target.toAddress
    let waiting := ({ f with stack := .ofList [] }.withGas (rest / 64)).next
    ((Frame.start (after.callee target.toAddress) message (rest - rest / 64)).alone block
      after).run fuel = some result →
    (f.alone block w).Reaches [(.staticCall, message)]
      (conclude block result.ending result.world [⟨waiting, 0, 0, after⟩]) := by
  intro rest message after waiting ran
  have asked := asked_staticCall block w here stack
  have called : f.execute block w = _ :=
    (execute_call here).trans (call_staticCall stack holds plenty enough)
  have runs : waiting.runCall block.builtIns after .staticCall target.toAddress 0
      (f.memory.read 0 length.toNat) (rest - rest / 64) 0 0 = _ :=
    runCall_staticCall shallow ordinary
  by_cases empty : (after.callee target.toAddress).size = 0
  · -- Nothing is entered, but the callee on its own comes to the same.
    obtain ⟨rfl, _⟩ := (Reaches.stop (step_empty empty message (rest - rest / 64))).run_eq ran
    rw [if_pos empty] at runs
    rw [← asked]
    apply Reaches.of_step
    simp only [alone, Machine.step, called]
    rw [runs]
    rfl
  · rw [if_neg empty] at runs
    have entered : (f.alone block w).step =
        .inl (((Frame.start (after.callee target.toAddress) message (rest - rest / 64)).alone block
          after).under [⟨waiting, 0, 0, after⟩]) := by
      simp only [alone, Machine.step, called]
      rw [runs]
      rfl
    have first := Reaches.of_step entered
    rw [asked] at first
    have whole := first.trans ((reaches_run ran).under _ _)
    rwa [List.append_nil] at whole

/-! ## The end of a frame -/

theorem handBack_of_holds {offset : Word} {stack : Stack}
    (top : f.stack.pop2? = some (offset, length, stack))
    (holds : f.memory.Holds offset.toNat length.toNat) :
    f.handBack = .ok (f.memory.read offset.toNat length.toNat, f.gas) := by
  have popped : f.pop2 = .ok (offset, length, { f with stack := stack }) := by
    simp only [Frame.pop2, top]
  have reached : { f with stack := stack }.reach offset.toNat length.toNat =
      .ok { f with stack := stack } := reach_of_holds holds
  simp only [handBack, popped, bind_ok, reached]
  rfl

theorem reaches_return {offset : Word} {stack : Stack}
    (here : f.code.instructionAt f.place = .return)
    (top : f.stack.pop2? = some (offset, length, stack))
    (holds : f.memory.Holds offset.toNat length.toNat) :
    (f.alone block w).Reaches []
      (.inr ⟨.success (f.memory.read offset.toNat length.toNat) f.gas, w⟩) := by
  refine reaches_finish (by simp [here]) ?_
  simp only [execute, here, handBack_of_holds top holds, bind_ok]
  rfl

theorem reaches_revert {offset : Word} {stack : Stack}
    (here : f.code.instructionAt f.place = .revert)
    (top : f.stack.pop2? = some (offset, length, stack))
    (holds : f.memory.Holds offset.toNat length.toNat) :
    (f.alone block w).Reaches []
      (.inr ⟨.revert (f.memory.read offset.toNat length.toNat) f.gas, w⟩) := by
  refine reaches_finish (by simp [here]) ?_
  simp only [execute, here, handBack_of_holds top holds, bind_ok]
  rfl

end Runs

end ReleaseGate.Evm
