/-
# Proofs.Evm.Tolls — straight code and what it costs

A toll is a stretch of code without a call, from one frame to another, for a
price: whatever gas a machine has, it comes to the other frame with the price
taken off, or has less and ends for want of gas. Tolls join, and their prices add
up (`Toll.trans`). There is one for each instruction of straight code; the price
of a copy is the one that depends on its length (`copyPrice`).
-/
import ReleaseGate.Proofs.Evm.Runs

namespace ReleaseGate.Evm

set_option autoImplicit false

/-- The halts of a frame whose gas did not last. -/
def Halt.IsOutOfGas (why : Halt) : Prop := why = .outOfGas ∨ why = .memoryOutOfGas

/-- The machine ends for want of gas, having asked for the given calls. -/
def Machine.Starves (m : Machine) (calls : List (CallKind × Message)) : Prop :=
  ∃ why world, why.IsOutOfGas ∧ m.Reaches calls (.inr ⟨.halt why, world⟩)

/-- A frame with other gas. -/
def Frame.withGas (f : Frame) (gas : Nat) : Frame := { f with gas := gas }

/-- The stack of some words; those beyond its limit are left out. -/
def Stack.ofList (items : List Word) : Stack :=
  ⟨items.take stackLimit, stackLimit - items.length, by
    rw [List.length_take]
    omega⟩

/-- A machine of one frame. -/
def Frame.alone (f : Frame) (block : Block) (w : World) : Machine := ⟨block, f, w, []⟩

/-- Code that leads from `f` to `g` for a price. -/
structure Toll (block : Block) (w : World) (price : Nat) (f g : Frame) : Prop where
  passes (gas : Nat) (enough : price ≤ gas) :
    ((f.withGas gas).alone block w).Reaches [] (.inl ((g.withGas (gas - price)).alone block w))
  starves (gas : Nat) (less : gas < price) : ((f.withGas gas).alone block w).Starves []

section Tolls

variable {block : Block} {w : World} {price more : Nat} {f g h : Frame}

theorem Machine.Starves.before {m next : Machine} {calls later : List (CallKind × Message)}
    (first : m.Reaches calls (.inl next)) (starves : next.Starves later) :
    m.Starves (calls ++ later) := by
  obtain ⟨why, world, wants, reached⟩ := starves
  exact ⟨why, world, wants, first.trans reached⟩

theorem Machine.Starves.requests_isPrefix {m : Machine} {calls : List (CallKind × Message)}
    (starves : m.Starves calls) (fuel : Nat) : m.requests fuel <+: calls := by
  obtain ⟨_, _, _, reached⟩ := starves
  exact reached.requests_isPrefix

theorem Toll.trans (first : Toll block w price f g) (then_ : Toll block w more g h) :
    Toll block w (price + more) f h where
  passes gas enough := by
    have whole := (first.passes gas (by omega)).trans (then_.passes (gas - price) (by omega))
    rwa [List.append_nil, Nat.sub_sub] at whole
  starves gas less := by
    by_cases enough : price ≤ gas
    · exact (then_.starves (gas - price) (by omega)).before (first.passes gas enough)
    · exact first.starves gas (by omega)

/-- A toll with its price in another form. -/
theorem Toll.at_price (toll : Toll block w price f g) (same : price = more) :
    Toll block w more f g := same ▸ toll

/-! ## Single instructions -/

section Single

variable {world : World} (quiet : ∀ kind, f.code.instructionAt f.place ≠ .call kind)
include quiet

/-- Nothing is asked for by an instruction that makes no call. -/
theorem asked_of_quiet : (f.alone block w).asked = [] := by
  have none : f.request? = none := by
    unfold Frame.request?
    split
    · next kind here => exact absurd here (quiet kind)
    · rfl
  simp [Machine.asked, Frame.alone, none]

theorem reaches_go (ran : f.execute block w = .ok (.go g world)) :
    (f.alone block w).Reaches [] (.inl (g.alone block world)) := by
  rw [← asked_of_quiet quiet]
  apply Machine.Reaches.of_step
  simp only [Frame.alone, Machine.step, ran]

theorem reaches_halt {why : Halt} (halted : f.execute block w = .error why) :
    (f.alone block w).Reaches [] (.inr ⟨.halt why, w⟩) := by
  rw [← asked_of_quiet quiet]
  apply Machine.Reaches.of_step
  simp only [Frame.alone, Machine.step, halted, Machine.conclude]

theorem reaches_finish {ending : Ending} (ran : f.execute block w = .ok (.finish ending world)) :
    (f.alone block w).Reaches [] (.inr ⟨ending, world⟩) := by
  rw [← asked_of_quiet quiet]
  apply Machine.Reaches.of_step
  simp only [Frame.alone, Machine.step, ran, Machine.conclude]

/-- An instruction that makes no call. -/
theorem Toll.of_execute
    (passes : ∀ gas, price ≤ gas →
      (f.withGas gas).execute block w = .ok (.go (g.withGas (gas - price)) w))
    (starves : ∀ gas, gas < price →
      ∃ why, why.IsOutOfGas ∧ (f.withGas gas).execute block w = .error why) :
    Toll block w price f g where
  passes gas enough := reaches_go (f := f.withGas gas) quiet (passes gas enough)
  starves gas less := by
    obtain ⟨why, wants, halted⟩ := starves gas less
    exact ⟨why, w, wants, reaches_halt (f := f.withGas gas) quiet halted⟩

end Single

namespace Frame

variable {gas : Nat}

theorem instructionAt_withGas {instruction : Instruction}
    (here : f.code.instructionAt f.place = instruction) :
    (f.withGas gas).code.instructionAt (f.withGas gas).place = instruction := here

theorem pay_withGas (enough : price ≤ gas) :
    (f.withGas gas).pay price = .ok (f.withGas (gas - price)) := if_pos enough

theorem pay_of_lt (less : gas < price) : (f.withGas gas).pay price = .error .outOfGas :=
  if_neg (Nat.not_le.mpr less)

theorem reach_withGas {offset length : Nat}
    (enough : f.memory.expansionCost offset length ≤ gas) :
    (f.withGas gas).reach offset length =
      .ok ({ f with memory := f.memory.expand offset length }.withGas
        (gas - f.memory.expansionCost offset length)) := if_pos enough

theorem reach_of_lt {offset length : Nat} (less : gas < f.memory.expansionCost offset length) :
    (f.withGas gas).reach offset length = .error .memoryOutOfGas := if_neg (Nat.not_le.mpr less)

theorem answer_withGas {x : Word} {stack : Stack} (room : f.stack.push? x = some stack) :
    (f.withGas gas).answer x =
      .ok ({ f with stack := stack, place := f.place + 1 }.withGas gas) := by
  simp only [answer, withGas, room]

theorem pop_withGas {a : Word} {stack : Stack} (top : f.stack.pop? = some (a, stack)) :
    (f.withGas gas).pop = .ok (a, { f with stack := stack }.withGas gas) := by
  simp only [pop, withGas, top]

theorem pop2_withGas {a b : Word} {stack : Stack} (top : f.stack.pop2? = some (a, b, stack)) :
    (f.withGas gas).pop2 = .ok (a, b, { f with stack := stack }.withGas gas) := by
  simp only [pop2, withGas, top]

theorem pop3_withGas {a b c : Word} {stack : Stack}
    (top : f.stack.pop3? = some (a, b, c, stack)) :
    (f.withGas gas).pop3 = .ok (a, b, c, { f with stack := stack }.withGas gas) := by
  simp only [pop3, withGas, top]

end Frame

open ReleaseGate.Evm.Frame

/-- An instruction that pays first, and then cannot fail. -/
theorem Toll.of_pay {k : Frame → Except Halt Turn}
    (quiet : ∀ kind, f.code.instructionAt f.place ≠ .call kind)
    (pays : ∀ gas, (f.withGas gas).execute block w = (h.withGas gas).pay price >>= k)
    (then_ : ∀ gas, k (h.withGas gas) = .ok (.go (g.withGas gas) w)) :
    Toll block w price f g := by
  refine .of_execute quiet (fun gas enough => ?_) (fun gas less => ?_)
  · rw [pays, pay_withGas enough, bind_ok, then_]
  · refine ⟨.outOfGas, .inl rfl, ?_⟩
    rw [pays, pay_of_lt less, bind_error]

theorem Toll.read {what : Reading} {x : Word} {stack : Stack}
    (here : f.code.instructionAt f.place = .read what)
    (value : ∀ gas, what.value block (f.withGas gas) w = x) (room : f.stack.push? x = some stack) :
    Toll block w what.price f { f with stack := stack, place := f.place + 1 } := by
  refine .of_pay (h := f) (k := fun f => do return .go (← f.answer (what.value block f w)) w)
    (by simp [here]) (fun gas => ?_) (fun gas => ?_)
  · simp only [execute, instructionAt_withGas here]
  · rw [value, answer_withGas room]
    rfl

theorem Toll.push {width : Nat} {stack : Stack} (here : f.code.instructionAt f.place = .push width)
    (wide : width ≠ 0) (room : f.stack.push? (f.code.operand f.place width) = some stack) :
    Toll block w 3 f { f with stack := stack, place := f.place + 1 + width } := by
  refine .of_execute (by simp [here]) (fun gas enough => ?_) (fun gas less => ?_)
  · have answered : (f.withGas (gas - 3)).answer
        ((f.withGas (gas - 3)).code.operand (f.withGas (gas - 3)).place width) = _ :=
      answer_withGas room
    simp only [execute, instructionAt_withGas here, pushOperand, if_neg wide, pay_withGas enough,
      bind_ok]
    rw [answered]
    rfl
  · refine ⟨.outOfGas, .inl rfl, ?_⟩
    simp only [execute, instructionAt_withGas here, pushOperand, if_neg wide, pay_of_lt less,
      bind_error]

theorem Toll.binary {op : Binary} {a b : Word} {stack stack' : Stack}
    (here : f.code.instructionAt f.place = .binary op)
    (top : f.stack.pop2? = some (a, b, stack)) (room : stack.push? (op.apply a b) = some stack') :
    Toll block w op.price f { f with stack := stack', place := f.place + 1 } := by
  refine .of_pay (h := { f with stack := stack })
    (k := fun f => do return .go (← f.answer (op.apply a b)) w)
    (by simp [here]) (fun gas => ?_) (fun gas => ?_)
  · simp only [execute, instructionAt_withGas here, pop2_withGas top, bind_ok]
  · rw [answer_withGas (f := { f with stack := stack }) room]
    rfl

theorem Toll.callDataLoad {offset : Word} {stack stack' : Stack}
    (here : f.code.instructionAt f.place = .callDataLoad)
    (top : f.stack.pop? = some (offset, stack))
    (room : stack.push? (wordAt f.message.input offset.toNat) = some stack') :
    Toll block w 3 f { f with stack := stack', place := f.place + 1 } := by
  refine .of_pay (h := { f with stack := stack })
    (k := fun f => do return .go (← f.answer (wordAt f.message.input offset.toNat)) w)
    (by simp [here]) (fun gas => ?_) (fun gas => ?_)
  · simp only [execute, instructionAt_withGas here, Frame.callDataLoad, pop_withGas top, bind_ok]
    exact bind_assoc _ _ _
  · have answered : ({ f with stack := stack }.withGas gas).answer
        (wordAt ({ f with stack := stack }.withGas gas).message.input offset.toNat) = _ :=
      answer_withGas room
    rw [answered]
    rfl

theorem Toll.jumpdest (here : f.code.instructionAt f.place = .jumpdest) :
    Toll block w 1 f f.next := by
  refine .of_pay (h := f) (k := fun f => .ok (.go f.next w))
    (by simp [here]) (fun gas => ?_) (fun gas => rfl)
  simp only [execute, instructionAt_withGas here]
  rfl

/-- The gas that is left after it is read. No toll says this: the word on the stack
depends on the gas. -/
theorem reaches_gas {stack : Stack} (here : f.code.instructionAt f.place = .read .gas)
    (room : f.stack.push? (BitVec.ofNat 256 (f.gas - 2)) = some stack) (enough : 2 ≤ f.gas) :
    (f.alone block w).Reaches []
      (.inl (({ f with stack := stack, place := f.place + 1 }.withGas (f.gas - 2)).alone block
        w)) := by
  have paid : f.pay 2 = .ok (f.withGas (f.gas - 2)) := if_pos enough
  refine reaches_go (by simp [here]) ?_
  simp only [execute, here, Reading.price, paid, bind_ok]
  rw [show Reading.gas.value block (f.withGas (f.gas - 2)) w = BitVec.ofNat 256 (f.gas - 2)
    from rfl, answer_withGas room]
  rfl

theorem starves_gas (here : f.code.instructionAt f.place = .read .gas) (less : f.gas < 2) :
    (f.alone block w).Starves [] := by
  have unpaid : f.pay 2 = .error .outOfGas := if_neg (Nat.not_le.mpr less)
  refine ⟨.outOfGas, w, .inl rfl, reaches_halt (by simp [here]) ?_⟩
  simp only [execute, here, Reading.price, unpaid, bind_error]

theorem Toll.jumpIf {target condition : Word} {stack : Stack}
    (here : f.code.instructionAt f.place = .jumpIf)
    (top : f.stack.pop2? = some (target, condition, stack))
    (lands : condition ≠ 0 → f.code.isTarget target.toNat = true) :
    Toll block w 10 f
      { f with
        stack := stack
        place := if condition = 0 then f.place + 1 else target.toNat } := by
  refine .of_execute (by simp [here]) (fun gas enough => ?_) (fun gas less => ?_)
  · simp only [execute, instructionAt_withGas here, Frame.jumpIf, pop2_withGas top, bind_ok,
      pay_withGas enough]
    by_cases zero : condition = 0
    · simp only [if_pos zero]
      rfl
    · have allowed := lands zero
      simp only [if_neg zero, withGas, allowed, if_true]
      rfl
  · refine ⟨.outOfGas, .inl rfl, ?_⟩
    simp only [execute, instructionAt_withGas here, Frame.jumpIf, pop2_withGas top, bind_ok,
      pay_of_lt less, bind_error]

/-! ## Copies to memory -/

/-- The price of a copy of `length` bytes to `target`. -/
def copyPrice (m : Memory) (target length : Nat) : Nat :=
  3 + perWord 3 length + m.expansionCost target length

/-- An instruction that copies to memory and can fail for want of gas only. -/
theorem Toll.of_copyIn {target length : Nat} (bytes : Frame → ByteArray) {data : ByteArray}
    (quiet : ∀ kind, f.code.instructionAt f.place ≠ .call kind)
    (copies : ∀ gas, (f.withGas gas).execute block w =
      (h.withGas gas).copyIn 3 target length bytes >>= fun f => pure (.go f w))
    (told : ∀ gas m, bytes ({ h with memory := m }.withGas gas) = data) :
    Toll block w (copyPrice h.memory target length) f
      { h with memory := h.memory.copied target length data, place := h.place + 1 } := by
  refine .of_execute quiet (fun gas enough => ?_) (fun gas less => ?_)
  · unfold copyPrice at *
    rw [copies, copyIn, pay_withGas (by omega), bind_ok, reach_withGas (by omega), bind_ok, told,
      Nat.sub_sub]
    rfl
  · unfold copyPrice at less
    rw [copies, copyIn]
    by_cases enough : 3 + perWord 3 length ≤ gas
    · refine ⟨.memoryOutOfGas, .inr rfl, ?_⟩
      rw [pay_withGas enough, bind_ok, reach_of_lt (by omega), bind_error, bind_error]
    · refine ⟨.outOfGas, .inl rfl, ?_⟩
      rw [pay_of_lt (by omega), bind_error, bind_error]

theorem Toll.callDataCopy {target offset length : Word} {stack : Stack}
    (here : f.code.instructionAt f.place = .callDataCopy)
    (top : f.stack.pop3? = some (target, offset, length, stack)) :
    Toll block w (copyPrice f.memory target.toNat length.toNat) f
      { f with
        stack := stack
        memory := f.memory.copied target.toNat length.toNat
          (window f.message.input offset.toNat length.toNat)
        place := f.place + 1 } := by
  refine .of_copyIn (fun f => window f.message.input offset.toNat length.toNat)
    (h := { f with stack := stack }) (by simp [here]) (fun gas => ?_) (fun _ _ => rfl)
  simp only [execute, instructionAt_withGas here, Frame.callDataCopy, pop3_withGas top, bind_ok]

/-- A copy of what was returned; it must not go beyond that. -/
theorem Toll.returnDataCopy {target offset length : Word} {stack : Stack}
    (here : f.code.instructionAt f.place = .returnDataCopy)
    (top : f.stack.pop3? = some (target, offset, length, stack))
    (within : offset.toNat + length.toNat ≤ f.returned.size) :
    Toll block w (copyPrice f.memory target.toNat length.toNat) f
      { f with
        stack := stack
        memory := f.memory.copied target.toNat length.toNat
          (window f.returned offset.toNat length.toNat)
        place := f.place + 1 } := by
  refine .of_copyIn (fun f => window f.returned offset.toNat length.toNat)
    (h := { f with stack := stack }) (by simp [here]) (fun gas => ?_) (fun _ _ => rfl)
  have inside : ¬ (f.withGas gas).returned.size < offset.toNat + length.toNat :=
    Nat.not_lt.mpr within
  simp only [execute, instructionAt_withGas here, Frame.returnDataCopy, pop3_withGas top, bind_ok]
  rw [if_neg]
  exact inside

/-! ## Words to memory -/

theorem Toll.mstore {offset x : Word} {stack : Stack}
    (here : f.code.instructionAt f.place = .mstore)
    (top : f.stack.pop2? = some (offset, x, stack)) :
    Toll block w (3 + f.memory.expansionCost offset.toNat 32) f
      { f with
        stack := stack
        memory := (f.memory.expand offset.toNat 32).store offset.toNat x
        place := f.place + 1 } := by
  refine .of_execute (by simp [here]) (fun gas enough => ?_) (fun gas less => ?_)
  · simp only [execute, instructionAt_withGas here, Frame.mstore, pop2_withGas top, bind_ok]
    rw [pay_withGas (by omega), bind_ok,
      reach_withGas (f := { f with stack := stack }) (by simpa using Nat.le_sub_of_add_le' enough),
      bind_ok, Nat.sub_sub]
    simp only [withGas]
    rfl
  · simp only [execute, instructionAt_withGas here, Frame.mstore, pop2_withGas top, bind_ok]
    by_cases enough : 3 ≤ gas
    · refine ⟨.memoryOutOfGas, .inr rfl, ?_⟩
      rw [pay_withGas enough, bind_ok, reach_of_lt (f := { f with stack := stack })
        (Nat.sub_lt_left_of_lt_add enough less), bind_error, bind_error]
    · refine ⟨.outOfGas, .inl rfl, ?_⟩
      rw [pay_of_lt (Nat.lt_of_not_le enough), bind_error, bind_error]

end Tolls

end ReleaseGate.Evm
