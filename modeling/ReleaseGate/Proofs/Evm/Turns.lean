/-
# Proofs.Evm.Turns — what one instruction can come to

`Frame.execute` is opened here and nowhere else. Whatever the instruction, a
frame that goes on has paid for it, a frame that it enters is paid for out of the
gas of the one that waits, and a frame that ends hands back no more gas than it
has (`execute_turn`). A frame is entered with the message that `request?` reads off
the one that asks for it. In a read-only frame the ledger stays as it is, and a
frame it enters is read-only again.

`Later` is the relation between a frame and itself further on; each helper of the
instructions has one lemma that says what it costs.
-/
import ReleaseGate.Evm.Step
import ReleaseGate.Proofs.Evm.Bytes
import ReleaseGate.Proofs.Outcomes

namespace ReleaseGate.Evm

set_option autoImplicit false

namespace Ending

/-- The gas that the end of a frame gives back. -/
def gas : Ending → Nat
  | .success _ gas => gas
  | .revert _ gas => gas
  | .halt _ => 0

/-- The data that the end of a frame hands back. -/
def data : Ending → ByteArray
  | .success data _ => data
  | .revert data _ => data
  | .halt _ => ByteArray.empty

end Ending

/-- Whether a word can hold a number. -/
def FitsWord (n : Nat) : Prop := (BitVec.ofNat 256 n).toNat = n

theorem fitsWord_zero : FitsWord 0 := rfl

theorem fitsWord_toNat (x : Word) : FitsWord x.toNat := by
  rw [FitsWord, BitVec.ofNat_toNat, BitVec.setWidth_eq]

theorem fitsWord_of_le {n : Nat} (limit : UInt64) (le : n ≤ limit.toNat) : FitsWord n := by
  have small := limit.toNat_lt
  rw [FitsWord, BitVec.toNat_ofNat]
  exact Nat.mod_eq_of_lt (by omega)

/-! ## A frame further on -/

namespace Frame

variable {f g h : Frame}

/-- `later` is `f` further on in its code, having paid `price` or more. -/
structure Later (price : Nat) (f later : Frame) : Prop where
  code : later.code = f.code
  message : later.message = f.message
  gas : later.gas + price ≤ f.gas

theorem Later.trans {price more : Nat} (first : f.Later price g) (then_ : g.Later more h) :
    f.Later (price + more) h where
  code := then_.code.trans first.code
  message := then_.message.trans first.message
  gas := by
    have := first.gas
    have := then_.gas
    omega

theorem Later.least {price less : Nat} (paid : f.Later price g) (le : less ≤ price) :
    f.Later less g where
  code := paid.code
  message := paid.message
  gas := by
    have := paid.gas
    omega

theorem pay_later {price : Nat} (paid : f.pay price = .ok g) : f.Later price g := by
  unfold pay at paid
  split at paid
  · next enough =>
      cases paid
      exact ⟨rfl, rfl, Nat.le_of_eq (Nat.sub_add_cancel enough)⟩
  · cases paid

theorem reach_later {offset length : Nat} (reached : f.reach offset length = .ok g) :
    f.Later 0 g := by
  simp only [reach] at reached
  split at reached
  · cases reached
    exact ⟨rfl, rfl, Nat.sub_le _ _⟩
  · cases reached

theorem answer_later {w : Word} (answered : f.answer w = .ok g) : f.Later 0 g := by
  unfold answer at answered
  split at answered
  · cases answered
    exact ⟨rfl, rfl, Nat.le_refl _⟩
  · cases answered

theorem next_later (f : Frame) : f.Later 0 f.next := ⟨rfl, rfl, Nat.le_refl _⟩

/-- `g` is `f` with another stack. -/
def Restacked (f g : Frame) : Prop := ∃ stack, g = { f with stack := stack }

theorem Restacked.later (restacked : f.Restacked g) : f.Later 0 g := by
  obtain ⟨_, rfl⟩ := restacked
  exact ⟨rfl, rfl, Nat.le_refl _⟩

theorem Restacked.memory (restacked : f.Restacked g) : g.memory = f.memory := by
  obtain ⟨_, rfl⟩ := restacked
  rfl

theorem Restacked.trans (first : f.Restacked g) (then_ : g.Restacked h) : f.Restacked h := by
  obtain ⟨_, rfl⟩ := first
  obtain ⟨stack, rfl⟩ := then_
  exact ⟨stack, rfl⟩

theorem pop_restacks {a : Word} (popped : f.pop = .ok (a, g)) : f.Restacked g := by
  unfold pop at popped
  split at popped
  · cases popped
    exact ⟨_, rfl⟩
  · cases popped

theorem pop2_restacks {a b : Word} (popped : f.pop2 = .ok (a, b, g)) : f.Restacked g := by
  unfold pop2 at popped
  split at popped
  · cases popped
    exact ⟨_, rfl⟩
  · cases popped

theorem pop3_restacks {a b c : Word} (popped : f.pop3 = .ok (a, b, c, g)) : f.Restacked g := by
  unfold pop3 at popped
  split at popped
  · cases popped
    exact ⟨_, rfl⟩
  · cases popped

theorem pop4_restacks {a b c d : Word} (popped : f.pop4 = .ok (a, b, c, d, g)) :
    f.Restacked g := by
  unfold pop4 at popped
  split at popped
  · cases popped
    exact ⟨_, rfl⟩
  · cases popped

/-- Changes that leave code, message and gas alone cost nothing. -/
theorem Later.same {price : Nat} (paid : f.Later price g) (code : h.code = g.code)
    (message : h.message = g.message) (gas : h.gas = g.gas) : f.Later price h where
  code := code.trans paid.code
  message := message.trans paid.message
  gas := gas ▸ paid.gas

theorem not_mayWrite (may : f.mayWrite = .ok ()) : f.message.readOnly = false := by
  unfold mayWrite at may
  split at may
  · cases may
  · next writable => simpa using writable

/-! ## Instructions that stay in their frame -/

theorem copyIn_later {price target length : Nat} {bytes : Frame → ByteArray}
    (copied : f.copyIn price target length bytes = .ok g) : f.Later price g := by
  simp only [copyIn, bind_eq_ok, pure_eq_ok] at copied
  obtain ⟨f₁, paid, f₂, reached, rfl⟩ := copied
  exact (((pay_later paid).trans (reach_later reached)).least (by omega)).same rfl rfl rfl

theorem keccak256_later (ran : f.keccak256 = .ok g) : f.Later 30 g := by
  simp only [keccak256, bind_eq_ok, Prod.exists] at ran
  obtain ⟨_, _, f₁, popped, f₂, paid, f₃, reached, answered⟩ := ran
  exact ((((pop2_restacks popped).later.trans (pay_later paid)).trans (reach_later reached)).trans
    (answer_later answered)).least (by omega)

theorem callDataLoad_later (ran : f.callDataLoad = .ok g) : f.Later 3 g := by
  simp only [callDataLoad, bind_eq_ok, Prod.exists] at ran
  obtain ⟨_, f₁, popped, f₂, paid, answered⟩ := ran
  exact ((pop_restacks popped).later.trans (pay_later paid)).trans (answer_later answered)

theorem callDataCopy_later (ran : f.callDataCopy = .ok g) : f.Later 3 g := by
  simp only [callDataCopy, bind_eq_ok, Prod.exists] at ran
  obtain ⟨_, _, _, f₁, popped, copied⟩ := ran
  exact (pop3_restacks popped).later.trans (copyIn_later copied)

theorem codeCopy_later (ran : f.codeCopy = .ok g) : f.Later 3 g := by
  simp only [codeCopy, bind_eq_ok, Prod.exists] at ran
  obtain ⟨_, _, _, f₁, popped, copied⟩ := ran
  exact (pop3_restacks popped).later.trans (copyIn_later copied)

theorem returnDataCopy_later (ran : f.returnDataCopy = .ok g) : f.Later 3 g := by
  simp only [returnDataCopy, bind_eq_ok, Prod.exists] at ran
  obtain ⟨_, _, _, f₁, popped, ran⟩ := ran
  split at ran
  · obtain ⟨_, thrown, _⟩ := bind_eq_ok.mp ran
    exact absurd thrown throw_ne_ok
  · exact (pop3_restacks popped).later.trans (copyIn_later ran)

theorem mload_later (ran : f.mload = .ok g) : f.Later 3 g := by
  simp only [mload, bind_eq_ok, Prod.exists] at ran
  obtain ⟨_, f₁, popped, f₂, paid, f₃, reached, answered⟩ := ran
  exact (((pop_restacks popped).later.trans (pay_later paid)).trans (reach_later reached)).trans
    (answer_later answered)

theorem mstore_later (ran : f.mstore = .ok g) : f.Later 3 g := by
  simp only [mstore, bind_eq_ok, pure_eq_ok, Prod.exists] at ran
  obtain ⟨_, _, f₁, popped, f₂, paid, f₃, reached, rfl⟩ := ran
  exact (((pop2_restacks popped).later.trans (pay_later paid)).trans (reach_later reached)).same
    rfl rfl rfl

theorem mstore8_later (ran : f.mstore8 = .ok g) : f.Later 3 g := by
  simp only [mstore8, bind_eq_ok, pure_eq_ok, Prod.exists] at ran
  obtain ⟨_, _, f₁, popped, f₂, paid, f₃, reached, rfl⟩ := ran
  exact (((pop2_restacks popped).later.trans (pay_later paid)).trans (reach_later reached)).same
    rfl rfl rfl

theorem mcopy_later (ran : f.mcopy = .ok g) : f.Later 3 g := by
  simp only [mcopy, bind_eq_ok, pure_eq_ok, Prod.exists] at ran
  obtain ⟨_, _, _, f₁, popped, f₂, paid, f₃, reached, rfl⟩ := ran
  exact ((((pop3_restacks popped).later.trans (pay_later paid)).trans (reach_later reached)).least
    (by omega)).same rfl rfl rfl

theorem jump_later (ran : f.jump = .ok g) : f.Later 8 g := by
  simp only [jump, bind_eq_ok, Prod.exists] at ran
  obtain ⟨_, f₁, popped, f₂, paid, ran⟩ := ran
  split at ran
  · cases pure_eq_ok.mp ran
    exact ((pop_restacks popped).later.trans (pay_later paid)).same rfl rfl rfl
  · exact absurd ran throw_ne_ok

theorem jumpIf_later (ran : f.jumpIf = .ok g) : f.Later 10 g := by
  simp only [jumpIf, bind_eq_ok, Prod.exists] at ran
  obtain ⟨_, _, f₁, popped, f₂, paid, ran⟩ := ran
  have reached := (pop2_restacks popped).later.trans (pay_later paid)
  split at ran
  · cases pure_eq_ok.mp ran
    exact reached.trans (next_later f₂)
  split at ran
  · cases pure_eq_ok.mp ran
    exact reached.same rfl rfl rfl
  · exact absurd ran throw_ne_ok

theorem pushOperand_later {width : Nat} (ran : f.pushOperand width = .ok g) : f.Later 2 g := by
  simp only [pushOperand, bind_eq_ok, pure_eq_ok] at ran
  obtain ⟨f₁, paid, f₂, answered, rfl⟩ := ran
  exact (((pay_later paid).trans (answer_later answered)).least (by split <;> omega)).same
    rfl rfl rfl

theorem dup_later {depth : Nat} (ran : f.dup depth = .ok g) : f.Later 3 g := by
  simp only [dup, bind_eq_ok] at ran
  obtain ⟨f₁, paid, ran⟩ := ran
  split at ran
  · exact (pay_later paid).trans (answer_later ran)
  · exact absurd ran throw_ne_ok

theorem swap_later {depth : Nat} (ran : f.swap depth = .ok g) : f.Later 3 g := by
  simp only [swap, bind_eq_ok] at ran
  obtain ⟨f₁, paid, ran⟩ := ran
  split at ran
  · cases pure_eq_ok.mp ran
    exact (pay_later paid).same rfl rfl rfl
  · exact absurd ran throw_ne_ok

theorem tload_later {w : World} (ran : f.tload w = .ok g) : f.Later 100 g := by
  simp only [tload, bind_eq_ok, Prod.exists] at ran
  obtain ⟨_, f₁, popped, f₂, paid, answered⟩ := ran
  exact ((pop_restacks popped).later.trans (pay_later paid)).trans (answer_later answered)

end Frame

/-- The call that a frame is about to make. -/
def Frame.request? (f : Frame) : Option (CallKind × Message) :=
  match f.code.instructionAt f.place with
  | .call kind =>
      match f.callOperands kind with
      | .ok (asked, _) =>
          some (kind, f.messageTo kind asked.target asked.value
            (f.memory.read asked.inOffset asked.inLength))
      | .error _ => none
  | _ => none

/-! ## Accounts, storage and ends -/

/-- What an instruction of `f` can come to in the world `w`. -/
inductive Turn.Of (f : Frame) (w : World) : Turn → Prop where
  /-- The frame goes on with less gas. -/
  | go {later : Frame} {world : World} (paid : f.Later 1 later)
      (kept : f.message.readOnly = true → world.ledger = w.ledger) :
      Turn.Of f w (.go later world)
  /-- The new frame has the message that was asked for. Its gas, and more, is taken
  from the one that waits. -/
  | enter {waiting : Frame} {code : Code} {message : Message} {gas outOffset outLength : Nat}
      {saved world : World} {kind : CallKind} (asked : f.request? = some (kind, message))
      (paid : f.Later (gas + 2) waiting)
      (undone : saved.ledger = w.ledger)
      (kept : f.message.readOnly = true → message.readOnly = true ∧ world.ledger = w.ledger) :
      Turn.Of f w (.enter waiting (Frame.start code message gas) outOffset outLength saved world)
  /-- What is handed back has a length that fits in a word. -/
  | finish {ending : Ending} {world : World} (left : ending.gas ≤ f.gas)
      (data : FitsWord ending.data.size)
      (kept : f.message.readOnly = true → world.ledger = w.ledger) :
      Turn.Of f w (.finish ending world)

/-- An instruction that has nothing to do with the world. -/
theorem Turn.Of.stay {f g : Frame} {w : World} (paid : f.Later 1 g) : Turn.Of f w (.go g w) :=
  .go paid fun _ => rfl

namespace Frame

variable {f g : Frame} {w world : World} {t : Turn}

theorem accountCost_pos (w : World) (a : Address) : 100 ≤ w.accountCost a := by
  unfold World.accountCost
  split <;> omega

theorem visit_pays {a : Address} {price : Nat} (visited : f.visit w a price = .ok (g, world)) :
    f.Later 100 g ∧ world.ledger = w.ledger := by
  have cost := accountCost_pos w a
  simp only [visit, bind_eq_ok, pure_eq_ok, Prod.mk.injEq] at visited
  obtain ⟨_, paid, rfl, rfl⟩ := visited
  exact ⟨(pay_later paid).least (by omega), World.ledger_touchAccount w a⟩

theorem askAccount_turn {about : Account → Word} (ran : f.askAccount w about = .ok t) :
    t.Of f w := by
  simp only [askAccount, bind_eq_ok, pure_eq_ok, Prod.exists] at ran
  obtain ⟨_, f₁, popped, f₂, w₁, visited, f₃, answered, rfl⟩ := ran
  obtain ⟨paid, same⟩ := visit_pays visited
  exact .go (((pop_restacks popped).later.trans (paid.trans (answer_later answered))).least
    (by omega)) fun _ => same

theorem extCodeCopy_turn (ran : f.extCodeCopy w = .ok t) : t.Of f w := by
  simp only [extCodeCopy, bind_eq_ok, pure_eq_ok, Prod.exists] at ran
  obtain ⟨_, f₁, popped, _, _, _, f₂, more, f₃, w₁, visited, f₄, copied, rfl⟩ := ran
  obtain ⟨paid, same⟩ := visit_pays visited
  exact .go ((((pop_restacks popped).later.trans (pop3_restacks more).later).trans
    (paid.trans (copyIn_later copied))).least (by omega)) fun _ => same

theorem sload_turn (ran : f.sload w = .ok t) : t.Of f w := by
  simp only [sload, bind_eq_ok, pure_eq_ok, Prod.exists] at ran
  obtain ⟨key, f₁, popped, f₂, paid, f₃, answered, rfl⟩ := ran
  have cost : 100 ≤ w.slotCost (f₁.message.self, key) := by
    unfold World.slotCost
    split <;> omega
  exact .go ((((pop_restacks popped).later.trans (pay_later paid)).trans
    (answer_later answered)).least (by omega)) fun _ => World.ledger_touchSlot w _

theorem sstorePrice_pos (present new : Word) : 100 ≤ sstorePrice present new := by
  unfold sstorePrice
  split
  · omega
  split <;> omega

theorem sstore_turn (ran : f.sstore w = .ok t) : t.Of f w := by
  simp only [sstore, bind_eq_ok, Prod.exists] at ran
  obtain ⟨_, may, key, new, f₁, popped, ran⟩ := ran
  split at ran
  · obtain ⟨_, thrown, _⟩ := bind_eq_ok.mp ran
    exact absurd thrown throw_ne_ok
  simp only [bind_eq_ok, pure_eq_ok] at ran
  obtain ⟨f₂, paid, rfl⟩ := ran
  have cost := sstorePrice_pos (w.ledger.stored (f₁.message.self, key)) new
  refine .go (((pop2_restacks popped).later.trans (pay_later paid)).least (by omega)
    |>.same rfl rfl rfl) fun readOnly => ?_
  simp [not_mayWrite may] at readOnly

theorem tstore_turn (ran : f.tstore w = .ok t) : t.Of f w := by
  simp only [tstore, bind_eq_ok, pure_eq_ok, Prod.exists] at ran
  obtain ⟨_, may, _, _, f₁, popped, f₂, paid, rfl⟩ := ran
  refine .go (((pop2_restacks popped).later.trans (pay_later paid)).least (by omega)
    |>.same rfl rfl rfl) fun readOnly => ?_
  simp [not_mayWrite may] at readOnly

theorem log_turn {topics : Nat} (ran : f.log w topics = .ok t) : t.Of f w := by
  simp only [log, bind_eq_ok, Prod.exists] at ran
  obtain ⟨_, may, _, _, f₁, popped, f₂, paid, f₃, reached, ran⟩ := ran
  split at ran
  · exact absurd ran throw_ne_ok
  · cases pure_eq_ok.mp ran
    refine .go ((((pop2_restacks popped).later.trans (pay_later paid)).trans
      (reach_later reached)).least (by omega) |>.same rfl rfl rfl) fun readOnly => ?_
    simp [not_mayWrite may] at readOnly

theorem selfDestruct_turn (ran : f.selfDestruct w = .ok t) : t.Of f w := by
  simp only [selfDestruct, bind_eq_ok, pure_eq_ok, Prod.exists] at ran
  obtain ⟨_, may, _, f₁, popped, f₂, paid, rfl⟩ := ran
  have left := ((pop_restacks popped).later.trans (pay_later paid)).gas
  refine .finish (Nat.le_trans (Nat.le_add_right _ _) left) fitsWord_zero
    fun readOnly => ?_
  simp [not_mayWrite may] at readOnly

/-- What a frame hands back has the length that it named. -/
theorem handBack_ends {data : ByteArray} {gas : Nat} (ended : f.handBack = .ok (data, gas)) :
    gas ≤ f.gas ∧ FitsWord data.size := by
  simp only [handBack, bind_eq_ok, pure_eq_ok, Prod.exists, Prod.mk.injEq] at ended
  obtain ⟨offset, length, f₁, popped, f₂, reached, rfl, rfl⟩ := ended
  refine ⟨((pop2_restacks popped).later.trans (reach_later reached)).gas, ?_⟩
  rw [Memory.size_read]
  exact fitsWord_toNat length

/-! ## Calls -/

theorem popValue_restacks {kind : CallKind} {value : Word}
    (popped : f.popValue kind = .ok (value, g)) : f.Restacked g := by
  unfold popValue at popped
  split at popped
  · exact pop_restacks popped
  · cases popped
    exact ⟨f.stack, rfl⟩

/-- A read-only frame pays nobody. -/
theorem mayPay_readOnly {kind : CallKind} {value : Word} (may : f.mayPay kind value = .ok ())
    (readOnly : f.message.readOnly = true) (pays : kind = .call) : value = 0 := by
  unfold mayPay at may
  split at may
  · simp [not_mayWrite may] at readOnly
  · next free => exact Classical.byContradiction fun some => free ⟨pays, some⟩

theorem pay_memory {price : Nat} (paid : f.pay price = .ok g) : g.memory = f.memory := by
  unfold pay at paid
  split at paid
  · cases paid
    rfl
  · cases paid

/-- Room in memory is made without a change to what is read. -/
theorem reach_read {offset length : Nat} (reached : f.reach offset length = .ok g)
    (start count : Nat) : g.memory.read start count = f.memory.read start count := by
  simp only [reach] at reached
  split at reached
  · cases reached
    exact Memory.read_expand f.memory offset length start count
  · cases reached

theorem callOperands_restacks {kind : CallKind} {asked : Asked}
    (taken : f.callOperands kind = .ok (asked, g)) :
    f.Restacked g ∧ (f.message.readOnly = true → kind = .call → asked.value = 0) := by
  simp only [callOperands, bind_eq_ok, pure_eq_ok, Prod.exists, Prod.mk.injEq] at taken
  obtain ⟨_, _, f₁, popped, value, f₂, valued, _, may, _, _, _, _, f₃, more, rfl, rfl⟩ := taken
  have first := (pop2_restacks popped).trans (popValue_restacks valued)
  refine ⟨first.trans (pop4_restacks more), fun readOnly pays => ?_⟩
  exact mayPay_readOnly may (first.later.message ▸ readOnly) pays

theorem callPrice_pos (w : World) (kind : CallKind) (target : Address) (value : Word) :
    100 ≤ callPrice w kind target value ∧ (value ≠ 0 → 9100 ≤ callPrice w kind target value) := by
  have looked := accountCost_pos w target
  simp only [callPrice]
  refine ⟨by omega, fun pays => ?_⟩
  rw [if_neg pays]
  omega

theorem ledger_callWorld (w : World) (target : Address) :
    (callWorld w target).ledger = w.ledger := by
  simp only [callWorld]
  split <;> simp

theorem resume_later {price gas outOffset outLength : Nat} {success : Bool} {data : ByteArray}
    (paid : f.Later (price + gas) g) :
    f.Later price (g.resume success data gas outOffset outLength) where
  code := paid.code
  message := paid.message
  gas := by
    have := paid.gas
    simp only [resume]
    omega

theorem messageTo_readOnly (kind : CallKind) (target : Address) (value : Word)
    (input : ByteArray) (readOnly : f.message.readOnly = true) :
    (f.messageTo kind target value input).readOnly = true := by
  cases kind <;> first | exact readOnly | rfl

/-- A call that `waiting` has paid for, with `allowance` gas and two more. -/
theorem runCall_turn {builtIns : BuiltIns} {waiting : Frame} {kind : CallKind} {target : Address}
    {value : Word} {input : ByteArray} {allowance outOffset outLength : Nat}
    (asked : f.request? = some (kind, f.messageTo kind target value input))
    (paid : f.Later (allowance + 2) waiting) (same : world.ledger = w.ledger)
    (free : f.message.readOnly = true → kind = .call → value = 0) :
    (waiting.runCall builtIns world kind target value input allowance outOffset outLength).Of
      f w := by
  have refused (success : Bool) (data : ByteArray) (gas : Nat) (le : gas ≤ allowance) :
      f.Later 1 (waiting.resume success data gas outOffset outLength) :=
    resume_later (paid.least (by omega))
  have kept (readOnly : f.message.readOnly = true) :
      (if kind = .call then
        { world with ledger := world.ledger.transfer waiting.message.self target value.toNat }
      else world).ledger = w.ledger := by
    split
    · next pays => rw [free readOnly pays, ← same]; rfl
    · exact same
  simp only [runCall]
  split
  · exact .go (refused _ _ _ (Nat.le_refl _)) fun _ => same
  split
  · exact .go (refused _ _ _ (Nat.le_refl _)) fun _ => same
  split
  · split
    · split
      · exact .go (refused _ _ _ (Nat.sub_le _ _)) kept
      · exact .go (refused _ _ _ (Nat.zero_le _)) fun _ => same
    · exact .go (refused _ _ _ (Nat.zero_le _)) fun _ => same
  split
  · exact .go (refused _ _ _ (Nat.le_refl _)) kept
  · have message : waiting.messageTo kind target value input =
        f.messageTo kind target value input := by
      simp only [messageTo, paid.message]
    rw [← message] at asked
    refine .enter asked paid same fun readOnly => ⟨?_, kept readOnly⟩
    exact messageTo_readOnly kind target value input (paid.message ▸ readOnly)

theorem call_turn {builtIns : BuiltIns} {kind : CallKind}
    (here : f.code.instructionAt f.place = .call kind)
    (ran : f.call builtIns w kind = .ok t) : t.Of f w := by
  simp only [call, bind_eq_ok, pure_eq_ok, Prod.exists] at ran
  obtain ⟨asked, f₁, taken, f₂, reached, f₃, more, f₄, paid, f₅, handed, rfl⟩ := ran
  obtain ⟨took, free⟩ := callOperands_restacks taken
  obtain ⟨least, most⟩ := callPrice_pos w kind asked.target asked.value
  have input : f₅.memory.read asked.inOffset asked.inLength =
      f.memory.read asked.inOffset asked.inLength := by
    rw [pay_memory handed, pay_memory paid, reach_read more, reach_read reached,
      took.memory]
  refine runCall_turn ?_ ?_ (ledger_callWorld w asked.target) free
  · simp only [request?, here, taken, input]
  refine ((((took.later.trans (reach_later reached)).trans (reach_later more)).trans
    (pay_later paid)).trans ((pay_later handed).trans (next_later f₅))).least ?_
  -- The price of a call with a value covers what the value adds to its gas.
  split
  · omega
  · next pays =>
      have := most pays
      omega

/-! ## Every instruction -/

/-- An instruction that changes nothing but its frame. -/
theorem turn_of_later {x : Except Halt Frame} {price : Nat} (pays : 1 ≤ price)
    (later : ∀ g, x = .ok g → f.Later price g)
    (ran : (do return Turn.go (← x) w) = Except.ok t) : t.Of f w := by
  obtain ⟨g, done, answered⟩ := bind_eq_ok.mp ran
  cases pure_eq_ok.mp answered
  exact .stay ((later g done).least pays)

/-- An instruction that takes operands and answers with a word. -/
theorem turn_of_answer {f₁ f₂ : Frame} {price : Nat} {x : Word} (pays : 1 ≤ price)
    (popped : f.Restacked f₁) (paid : f₁.pay price = .ok f₂) (answered : f₂.answer x = .ok g) :
    Turn.Of f w (.go g w) :=
  .stay (((popped.later.trans (pay_later paid)).trans (answer_later answered)).least (by omega))

/-- **Whatever the instruction, it is paid for**, and a read-only frame leaves the
ledger alone. -/
theorem execute_turn {block : Block} (ran : f.execute block w = .ok t) : t.Of f w := by
  unfold execute at ran
  generalize here : f.code.instructionAt f.place = instruction at ran
  cases instruction with
  | stop =>
      cases ran
      exact .finish (Nat.le_refl _) fitsWord_zero fun _ => rfl
  | unary op =>
      simp only [bind_eq_ok, pure_eq_ok, Prod.exists] at ran
      obtain ⟨_, f₁, popped, f₂, paid, f₃, answered, rfl⟩ := ran
      exact turn_of_answer (by omega) (pop_restacks popped) paid answered
  | binary op =>
      simp only [bind_eq_ok, pure_eq_ok, Prod.exists] at ran
      obtain ⟨_, _, f₁, popped, f₂, paid, f₃, answered, rfl⟩ := ran
      have price : 3 ≤ op.price := by cases op <;> decide
      exact turn_of_answer (by omega) (pop2_restacks popped) paid answered
  | ternary op =>
      simp only [bind_eq_ok, pure_eq_ok, Prod.exists] at ran
      obtain ⟨_, _, _, f₁, popped, f₂, paid, f₃, answered, rfl⟩ := ran
      exact turn_of_answer (by omega) (pop3_restacks popped) paid answered
  | exp =>
      simp only [bind_eq_ok, pure_eq_ok, Prod.exists] at ran
      obtain ⟨_, _, f₁, popped, f₂, paid, f₃, answered, rfl⟩ := ran
      exact turn_of_answer (by omega) (pop2_restacks popped) paid answered
  | read what =>
      simp only [bind_eq_ok, pure_eq_ok] at ran
      obtain ⟨f₁, paid, f₂, answered, rfl⟩ := ran
      have price : 2 ≤ what.price := by cases what <;> decide
      exact .stay (((pay_later paid).trans (answer_later answered)).least (by omega))
  | pop =>
      simp only [bind_eq_ok, pure_eq_ok, Prod.exists] at ran
      obtain ⟨_, f₁, popped, f₂, paid, rfl⟩ := ran
      exact .stay ((((pop_restacks popped).later.trans (pay_later paid)).trans
        (next_later f₂)).least (by omega))
  | jumpdest =>
      simp only [bind_eq_ok, pure_eq_ok] at ran
      obtain ⟨f₁, paid, rfl⟩ := ran
      exact .stay (((pay_later paid).trans (next_later f₁)).least (by omega))
  | blockHash =>
      simp only [bind_eq_ok, pure_eq_ok, Prod.exists] at ran
      obtain ⟨_, f₁, popped, f₂, paid, f₃, answered, rfl⟩ := ran
      exact turn_of_answer (by omega) (pop_restacks popped) paid answered
  | blobHash =>
      simp only [bind_eq_ok, pure_eq_ok, Prod.exists] at ran
      obtain ⟨_, f₁, popped, f₂, paid, f₃, answered, rfl⟩ := ran
      exact turn_of_answer (by omega) (pop_restacks popped) paid answered
  | push width => exact turn_of_later (by decide) (fun _ => pushOperand_later) ran
  | dup depth => exact turn_of_later (by decide) (fun _ => dup_later) ran
  | swap depth => exact turn_of_later (by decide) (fun _ => swap_later) ran
  | jump => exact turn_of_later (by decide) (fun _ => jump_later) ran
  | jumpIf => exact turn_of_later (by decide) (fun _ => jumpIf_later) ran
  | keccak256 => exact turn_of_later (by decide) (fun _ => keccak256_later) ran
  | callDataLoad => exact turn_of_later (by decide) (fun _ => callDataLoad_later) ran
  | callDataCopy => exact turn_of_later (by decide) (fun _ => callDataCopy_later) ran
  | codeCopy => exact turn_of_later (by decide) (fun _ => codeCopy_later) ran
  | returnDataCopy => exact turn_of_later (by decide) (fun _ => returnDataCopy_later) ran
  | mload => exact turn_of_later (by decide) (fun _ => mload_later) ran
  | mstore => exact turn_of_later (by decide) (fun _ => mstore_later) ran
  | mstore8 => exact turn_of_later (by decide) (fun _ => mstore8_later) ran
  | mcopy => exact turn_of_later (by decide) (fun _ => mcopy_later) ran
  | tload => exact turn_of_later (by decide) (fun _ => tload_later) ran
  | balance => exact askAccount_turn ran
  | extCodeSize => exact askAccount_turn ran
  | extCodeHash => exact askAccount_turn ran
  | extCodeCopy => exact extCodeCopy_turn ran
  | sload => exact sload_turn ran
  | sstore => exact sstore_turn ran
  | tstore => exact tstore_turn ran
  | log topics => exact log_turn ran
  | selfDestruct => exact selfDestruct_turn ran
  | call kind => exact call_turn here ran
  | create =>
      obtain ⟨_, _, thrown⟩ := bind_eq_ok.mp ran
      exact absurd thrown throw_ne_ok
  | create2 =>
      obtain ⟨_, _, thrown⟩ := bind_eq_ok.mp ran
      exact absurd thrown throw_ne_ok
  | «return» =>
      simp only [bind_eq_ok, pure_eq_ok, Prod.exists] at ran
      obtain ⟨data, gas, ended, rfl⟩ := ran
      obtain ⟨left, fits⟩ := handBack_ends ended
      exact .finish left fits fun _ => rfl
  | revert =>
      simp only [bind_eq_ok, pure_eq_ok, Prod.exists] at ran
      obtain ⟨data, gas, ended, rfl⟩ := ran
      obtain ⟨left, fits⟩ := handBack_ends ended
      exact .finish left fits fun _ => rfl
  | invalid => cases ran

end Frame

end ReleaseGate.Evm
