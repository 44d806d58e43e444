/-
# Proofs.Probe.Dispatcher — code that answers one selector

A dispatcher compares the first four bytes of its input with a selector. Called
with another one it reverts without a word; called with its own it stores its bytes
as words, one after the other, and returns the memory they fill. Each stretch is a
toll (`toll_select`, `toll_storing`), so how it ends is known for any gas that covers
them (`reaches_dispatched`).
-/
import ReleaseGate.Proofs.Evm.Straight
import ReleaseGate.Proofs.Probe.Transparency

namespace ReleaseGate.Probe

set_option autoImplicit false

open Evm
open Version (lastBytes)

/-! ## The code -/

/-- Code that stores bytes as words, from the word at `index` on. -/
def storing (index : Nat) : List UInt8 → List UInt8
  | [] => []
  | byte :: rest =>
      [0x60, byte, 0x60, UInt8.ofNat (32 * index), 0x52] ++ storing (index + 1) rest

/-- Code that stores bytes as words and returns the first four words of memory. -/
def answering (words : List UInt8) : List UInt8 :=
  storing 0 words ++ [0x60, 0x80, 0x60, 0x00, 0xf3]

/-- Code that answers with words when it is called by a selector, and reverts else. -/
def dispatcher (selector words : List UInt8) : List UInt8 :=
  [0x60, 0x00, 0x35, 0x60, 0xe0, 0x1c, 0x63] ++ selector ++
    ([0x14, 0x60, 0x14, 0x57] ++ ([0x60, 0x00, 0x60, 0x00, 0xfd] ++ ([0x5b] ++ answering words)))

theorem length_lastBytes (bytes : List UInt8) : (lastBytes bytes).length = 32 * bytes.length :=
  Version.length_flatMap_words (fun byte => by simp [Version.wordSize]) bytes

theorem length_storing (index : Nat) (words : List UInt8) :
    (storing index words).length = 5 * words.length := by
  induction words generalizing index with
  | nil => rfl
  | cons byte rest ih =>
      rw [storing, List.length_append, ih, List.length_cons]
      show 5 + 5 * rest.length = 5 * (rest.length + 1)
      omega

/-! ## Its stretches -/

section Stretches

variable {block : Block} {w : World} {code : Code} {message : Message}
  {selector words behind : List UInt8} {memory : Memory}

/-- **The selector decides where the code goes.** -/
theorem toll_select (size : selector.length = 4) (called : message.input.size = 4)
    (has : code.Has 0 ([0x60, 0x00, 0x35, 0x60, 0xe0, 0x1c, 0x63] ++ selector ++
      ([0x14, 0x60, 0x14, 0x57] ++ behind)))
    (lands : code.isTarget 20 = true) :
    Toll block w 31 (straightFrame code message 0 [] memory)
      (straightFrame code message (if selector = message.input.data.toList then 20 else 15) []
        memory) := by
  let stage (place : Nat) (items : List Word) : Frame :=
    straightFrame code message place items memory
  let given := Word.ofBytes selector
  let asked := Word.ofBytes message.input.data.toList
  let flag := Word.ofBool (given == asked)
  have atLoad : code.Has 2 _ := has.tail.tail
  have atAmount : code.Has 3 _ := atLoad.tail
  have atShift : code.Has 5 _ := atAmount.tail.tail
  have atGiven : code.Has 6 (0x63 :: (selector ++ _)) := atShift.tail
  have atEqual : code.Has 11 (0x14 :: _) := size ▸ atGiven.tail.right
  have atTarget : code.Has 12 _ := atEqual.tail
  have atJump : code.Has 14 _ := atTarget.tail.tail
  -- The first four bytes of the input, at the end of a word.
  have start : Toll block w 3 (stage 0 []) (stage 2 [0]) := has.push1 rfl
  have load : Toll block w 3 (stage 2 [0]) (stage 3 [wordAt message.input 0]) :=
    atLoad.callDataLoad (x := 0) rfl rfl
  have amount : Toll block w 3 (stage 3 [wordAt message.input 0])
      (stage 5 [0xe0, wordAt message.input 0]) := atAmount.push1 rfl
  have shift : Toll block w 3 (stage 5 [0xe0, wordAt message.input 0]) (stage 6 [asked]) := by
    have shifted : Toll block w 3 (stage 5 [0xe0, wordAt message.input 0])
        (stage 6 [Word.shiftRight 0xe0 (wordAt message.input 0)]) :=
      atShift.binary (show Instruction.ofByte 0x1c = .binary .shiftRight from rfl) rfl rfl
    rwa [shiftRight_wordAt called] at shifted
  -- It is compared with the selector, and the flag decides on the jump.
  have select : Toll block w 3 (stage 6 [asked]) (stage 11 [given, asked]) := by
    have pushed : Toll block w 3 (stage 6 [asked])
        (stage (6 + 1 + selector.length) [given, asked]) :=
      atGiven.push (by rw [size]; rfl) (by omega) rfl
    rwa [size] at pushed
  have compare : Toll block w 3 (stage 11 [given, asked]) (stage 12 [flag]) :=
    atEqual.binary (show Instruction.ofByte 0x14 = .binary .equal from rfl) rfl rfl
  have target : Toll block w 3 (stage 12 [flag]) (stage 14 [0x14, flag]) := atTarget.push1 rfl
  have jump : Toll block w 10 (stage 14 [0x14, flag])
      (stage (if selector = message.input.data.toList then 20 else 15) []) := by
    refine atJump.jumpIf (x := 0x14) rfl lands ?_
    have same : given = asked ↔ selector = message.input.data.toList :=
      ofBytes_inj (by omega) (size.trans called.symm)
    by_cases hit : selector = message.input.data.toList
    · have equal : flag = 1 := by simp [flag, same.2 hit, Word.ofBool]
      rw [if_pos hit, equal]
      rfl
    · have differ : flag = 0 := by simp [flag, mt same.1 hit, Word.ofBool]
      rw [if_neg hit, if_pos differ]
  have whole := start.trans (load.trans (amount.trans (shift.trans (select.trans (compare.trans
    (target.trans jump))))))
  exact whole.at_price rfl

/-- A byte is stored as the next word. -/
theorem toll_storeWord {stored : List UInt8} {place : Nat} {byte : UInt8}
    (has : code.Has place
      ([0x60, byte, 0x60, UInt8.ofNat (32 * stored.length), 0x52] ++ behind))
    (few : stored.length < 8) :
    Toll block w 12 (straightFrame code message place [] (.ofList (lastBytes stored)))
      (straightFrame code message (place + 5) [] (.ofList (lastBytes (stored ++ [byte])))) := by
  let stage (place : Nat) (items : List Word) : Frame :=
    straightFrame code message place items (.ofList (lastBytes stored))
  let word := Word.ofBytes [byte]
  let offset := Word.ofBytes [UInt8.ofNat (32 * stored.length)]
  have long := length_lastBytes stored
  have atOffset : code.Has (place + 2) _ := has.tail.tail
  have atStore : code.Has (place + 4) _ := atOffset.tail.tail
  have ending : offset.toNat = (lastBytes stored).length := by
    rw [toNat_ofBytes_singleton, UInt8.toNat_ofNat', long]
    omega
  have grown : lastBytes stored ++ word.toBytes = lastBytes (stored ++ [byte]) := by
    rw [toBytes_ofBytes_singleton, lastBytes, lastBytes, List.flatMap_append,
      List.flatMap_singleton]
  have value : Toll block w 3 (stage place []) (stage (place + 2) [word]) := has.push1 rfl
  have target : Toll block w 3 (stage (place + 2) [word]) (stage (place + 4) [offset, word]) :=
    atOffset.push1 rfl
  have store : Toll block w 6 (stage (place + 4) [offset, word])
      (straightFrame code message (place + 5) [] (.ofList (lastBytes stored ++ word.toBytes))) :=
    atStore.mstore rfl ⟨_, long⟩ (by omega) ending
  rw [grown] at store
  exact (value.trans (target.trans store)).at_price rfl

/-- **Bytes are stored as words**, one behind the other. -/
theorem toll_storing {stored : List UInt8} {place : Nat}
    (has : code.Has place (storing stored.length words ++ behind))
    (few : stored.length + words.length ≤ 8) :
    Toll block w (12 * words.length)
      (straightFrame code message place [] (.ofList (lastBytes stored)))
      (straightFrame code message (place + 5 * words.length) []
        (.ofList (lastBytes (stored ++ words)))) := by
  induction words generalizing stored place with
  | nil =>
      rw [List.append_nil]
      exact .refl block w _
  | cons byte rest ih =>
      rw [List.length_cons] at few
      rw [storing, List.append_assoc] at has
      have first : Toll block w 12 (straightFrame code message place [] _) _ :=
        toll_storeWord has (by omega)
      have next : (stored ++ [byte]).length = stored.length + 1 := List.length_append
      have atRest : code.Has (place + 5) (storing (stored ++ [byte]).length rest ++ behind) :=
        next ▸ has.right
      have later : Toll block w _ _ _ := ih atRest (by omega)
      rw [List.append_assoc, List.singleton_append] at later
      have price : 12 + 12 * rest.length = 12 * (byte :: rest).length := by
        rw [List.length_cons]
        omega
      have place : place + 5 + 5 * rest.length = place + 5 * (byte :: rest).length := by
        rw [List.length_cons]
        omega
      exact place ▸ (first.trans later).at_price price

end Stretches

/-! ## From the start to the end -/

/-- How a dispatcher ends that is called with some bytes. -/
def dispatched (selector words asked : List UInt8) (gas : Nat) : Ending :=
  if selector = asked then .success (lastBytes words).toByteArray (gas - 86)
  else .revert ByteArray.empty (gas - 37)

section Whole

variable {block : Block} {w : World} {message : Message} {selector words : List UInt8} {gas : Nat}

/-- The code of a dispatcher. -/
def dispatcherCode (selector words : List UInt8) : Code :=
  Code.ofBytes (dispatcher selector words).toByteArray

theorem isTarget_dispatcherCode (size : selector.length = 4) :
    (dispatcherCode selector words).isTarget 20 = true := by
  refine isTarget_ofBytes ?_
  match selector, size with
  | [_, _, _, _], _ => rfl

theorem has_refusal (size : selector.length = 4) :
    (dispatcherCode selector words).Has 15
      ([0x60, 0x00, 0x60, 0x00, 0xfd] ++ ([0x5b] ++ answering words)) := by
  have there := (has_ofBytes (dispatcher selector words)).right.right
  rwa [List.length_append, size] at there

theorem has_answer (size : selector.length = 4) :
    (dispatcherCode selector words).Has 20 ([0x5b] ++ answering words) :=
  (has_refusal size).right

/-- Called with another selector, the code reverts without a word. -/
theorem reaches_refusal {memory : Memory} (size : selector.length = 4) (enough : 6 ≤ gas) :
    (((straightFrame (dispatcherCode selector words) message 15 [] memory).withGas gas).alone
      block w).Reaches [] (.inr ⟨.revert ByteArray.empty (gas - 6), w⟩) := by
  let stage (place : Nat) (items : List Word) : Frame :=
    straightFrame (dispatcherCode selector words) message place items memory
  have atLength : (dispatcherCode selector words).Has 15 _ := has_refusal size
  have atOffset : (dispatcherCode selector words).Has 17 _ := atLength.tail.tail
  have atRevert : (dispatcherCode selector words).Has 19 (0xfd :: _) := atOffset.tail.tail
  have length : Toll block w 3 (stage 15 []) (stage 17 [0]) := atLength.push1 rfl
  have offset : Toll block w 3 (stage 17 [0]) (stage 19 [0, 0]) := atOffset.push1 rfl
  have nothing : ((stage 19 [0, 0]).withGas (gas - 6)).memory.read (0 : Word).toNat
      (0 : Word).toNat = ByteArray.empty := ByteArray.size_eq_zero_iff.1 (size_window _ _ _)
  have ends : (((stage 19 [0, 0]).withGas (gas - 6)).alone block w).Reaches [] _ :=
    reaches_revert atRevert.instructionAt
      (show (Stack.ofList [0, 0]).pop2? = some (0, 0, .ofList []) from rfl) (Memory.holds_none _ _)
  rw [nothing] at ends
  exact ((length.trans offset).passes gas enough).trans ends

/-- Called with its selector, the code returns its bytes as words. -/
theorem reaches_answer (size : selector.length = 4) (four : words.length = 4)
    (enough : 55 ≤ gas) :
    (((straightFrame (dispatcherCode selector words) message 20 [] .empty).withGas gas).alone
      block w).Reaches []
        (.inr ⟨.success (lastBytes words).toByteArray (gas - 55), w⟩) := by
  let stage (place : Nat) (items : List Word) (memory : Memory) : Frame :=
    straightFrame (dispatcherCode selector words) message place items memory
  let filled := Memory.ofList (lastBytes words)
  have atStoring : (dispatcherCode selector words).Has 21 (answering words) :=
    (has_answer size).right
  have atLength : (dispatcherCode selector words).Has 41 [0x60, 0x80, 0x60, 0x00, 0xf3] := by
    have there := atStoring.right
    rwa [length_storing, four] at there
  have atOffset : (dispatcherCode selector words).Has 43 _ := atLength.tail.tail
  have atReturn : (dispatcherCode selector words).Has 45 (0xf3 :: _) := atOffset.tail.tail
  have lands : Toll block w 1 (stage 20 [] .empty) (stage 21 [] .empty) :=
    (has_answer size).jumpdest
  have stores : Toll block w 48 (stage 21 [] .empty) (stage 41 [] filled) := by
    have stored : Toll block w _ (stage 21 [] (.ofList (lastBytes []))) _ :=
      toll_storing atStoring (by rw [four]; decide)
    rwa [four] at stored
  have length : Toll block w 3 (stage 41 [] filled) (stage 43 [0x80] filled) :=
    atLength.push1 rfl
  have offset : Toll block w 3 (stage 43 [0x80] filled) (stage 45 [0, 0x80] filled) :=
    atOffset.push1 rfl
  have full : filled.size = 128 := by rw [size_ofList, length_lastBytes, four]
  have read : ((stage 45 [0, 0x80] filled).withGas (gas - 55)).memory.read (0 : Word).toNat
      (0x80 : Word).toNat = (lastBytes words).toByteArray := by
    have whole := window_size filled.bytes
    rwa [show filled.bytes.size = 128 from full] at whole
  have holds : ((stage 45 [0, 0x80] filled).withGas (gas - 55)).memory.Holds (0 : Word).toNat
      (0x80 : Word).toNat := by
    show filled.sizeFor 0 128 = filled.size
    rw [Memory.sizeFor, if_neg (by decide), full]
    rfl
  have ends : (((stage 45 [0, 0x80] filled).withGas (gas - 55)).alone block w).Reaches [] _ :=
    reaches_return atReturn.instructionAt
      (show (Stack.ofList [0, 0x80]).pop2? = some (0, 0x80, .ofList []) from rfl) holds
  rw [read] at ends
  exact ((lands.trans (stores.trans (length.trans offset))).passes gas enough).trans ends

/-- **A dispatcher answers its selector and no other.** -/
theorem reaches_dispatched (size : selector.length = 4) (four : words.length = 4)
    (called : message.input.size = 4) (enough : 86 ≤ gas) :
    (((straightFrame (dispatcherCode selector words) message 0 [] .empty).withGas gas).alone
      block w).Reaches []
        (.inr ⟨dispatched selector words message.input.data.toList gas, w⟩) := by
  let stage (place : Nat) : Frame :=
    straightFrame (dispatcherCode selector words) message place [] .empty
  have select : Toll block w 31 (stage 0) (stage _) := toll_select size called
    (has_ofBytes (dispatcher selector words)) (isTarget_dispatcherCode size)
  have first := select.passes gas (by omega)
  rw [dispatched]
  split
  · next hit =>
      rw [if_pos hit] at first
      have last : (((stage 20).withGas (gas - 31)).alone block w).Reaches [] _ :=
        reaches_answer size four (by omega)
      rw [Nat.sub_sub] at last
      exact first.trans last
  · next miss =>
      rw [if_neg miss] at first
      have last : (((stage 15).withGas (gas - 31)).alone block w).Reaches [] _ :=
        reaches_refusal size (by omega)
      rw [Nat.sub_sub] at last
      exact first.trans last

end Whole

/-! ## A dispatcher under probe -/

section Probed

variable {code selector words input : List UInt8} {data : ByteArray}

theorem code_startWorld (code : List UInt8) :
    (startWorld code).ledger.code targetAddress = Code.ofBytes code.toByteArray := rfl

/-- Only code of 23 bytes names other code to run in its place. -/
theorem delegate?_ofBytes (ordinary : code.length ≠ 23) :
    (Code.ofBytes code.toByteArray).delegate? = none := by
  rw [Code.delegate?, if_neg]
  rw [Code.size, Code.ofBytes, List.size_toByteArray]
  exact ordinary

theorem callee_target (ordinary : code.length ≠ 23) :
    (Frame.callWorld (startWorld code) targetAddress).callee targetAddress =
      Code.ofBytes code.toByteArray := by
  have world : (Frame.callWorld (startWorld code) targetAddress).ledger =
      (startWorld code).ledger := by
    rw [Frame.callWorld, code_startWorld, delegate?_ofBytes ordinary]
    exact World.ledger_touchAccount _ _
  rw [World.callee, world, code_startWorld, delegate?_ofBytes ordinary]

/-- The account of the code is cold. -/
theorem targetPrice_eq (ordinary : code.length ≠ 23) : targetPrice code = 2600 := by
  rw [targetPrice, Frame.callPrice, code_startWorld, delegate?_ofBytes ordinary]
  rfl

theorem askPrice_eq (called : data.size = 4) : askPrice data = 33 := by
  rw [askPrice, preparePrice, called]
  rfl

theorem size_inputMemory (called : data.size = 4) : (inputMemory data).size = 32 := by
  have grown : (Memory.empty.expand 0 4).size = 32 := by
    rw [Memory.size_expand]
    rfl
  rw [inputMemory, Memory.copied, called, Memory.size_write (by omega), grown]

theorem replyPrice_le (called : data.size = 4) (words asked : List UInt8) (gas : Nat)
    (four : words.length = 4) :
    replyPrice data (dispatched selector words asked gas) ≤ 54 := by
  have grown (length : Nat) : (inputMemory data).expansionCost 0 length =
      Memory.costOf (if length = 0 then 32 else max 32 (32 * wordCount (0 + length))) - 3 := by
    rw [Memory.expansionCost, Memory.sizeFor, size_inputMemory called]
    rfl
  have long : (lastBytes words).toByteArray.size = 128 := by
    rw [List.size_toByteArray, length_lastBytes, four]
  rw [dispatched]
  split
  · rw [replyPrice, copyPrice, Ending.data, long, grown]
    show _ + handBackPrice true ≤ 54
    decide
  · rw [replyPrice, copyPrice, Ending.data, ByteArray.size_empty, grown]
    show _ + handBackPrice false ≤ 54
    decide

theorem length_dispatcher (size : selector.length = 4) (four : words.length = 4) :
    (dispatcher selector words).length = 46 := by
  simp [dispatcher, answering, length_storing, size, four]

theorem checkCode_dispatcher (selector words : List UInt8) :
    checkCode (dispatcher selector words) = .ok () := rfl

/-- What a probe calls is the dispatcher, with just the input. -/
theorem reaches_target (block : Block) (size : selector.length = 4) (four : words.length = 4)
    (called : input.length = 4) {gas : Nat} (enough : 86 ≤ gas) :
    ∃ world, (targetMachine block (dispatcher selector words) input.toByteArray gas).Reaches []
      (.inr ⟨dispatched selector words input gas, world⟩) := by
  have ordinary : (dispatcher selector words).length ≠ 23 := by
    rw [length_dispatcher size four]
    decide
  have data : (targetMessage input.toByteArray).input.size = 4 := List.size_toByteArray.trans called
  have asked : (targetMessage input.toByteArray).input.data.toList = input :=
    List.toList_data_toByteArray
  rw [targetMachine, callee_target ordinary]
  let after := Frame.callWorld (startWorld (dispatcher selector words)) targetAddress
  let start : Frame := straightFrame (dispatcherCode selector words)
    (targetMessage input.toByteArray) 0 [] .empty
  have ends : ((start.withGas gas).alone block after).Reaches [] _ :=
    reaches_dispatched size four data enough
  rw [asked] at ends
  exact ⟨after, ends⟩

/-- **Four bytes and enough gas: a probe of a dispatcher has the dispatcher's answer.** -/
theorem value_callWith_dispatcher (builtIns : BuiltIns) (size : selector.length = 4)
    (four : words.length = 4) (called : input.length = 4) {gasLimit : UInt64}
    (enough : 100000 ≤ gasLimit.toNat) :
    (callWith builtIns (dispatcher selector words) input gasLimit.toNat).value =
      if selector = input then .ok (lastBytes words) else .error (.reverted 0) := by
  have data : input.toByteArray.size = 4 := List.size_toByteArray.trans called
  have ask := askPrice_eq data
  have price : targetPrice (dispatcher selector words) = 2600 :=
    targetPrice_eq (by rw [length_dispatcher size four]; decide)
  have weight : inputWeight input ≤ 16 := by
    have nonZero : input.countP (· != 0) ≤ 4 := called ▸ List.countP_le_length
    rw [inputWeight_eq, called]
    omega
  have intrinsic : intrinsicGas input = 21000 + 4 * inputWeight input := rfl
  have floor : floorGas input = 21000 + 10 * inputWeight input := rfl
  -- What is left of the gas behind the call covers all that is still to pay.
  let rest := gasLimit.toNat - intrinsicGas input - 2633
  have lasts : 86 ≤ rest - rest / 64 := by omega
  obtain ⟨world, reached⟩ :=
    reaches_target ⟨callerAddress, gasLimit.toNat, builtIns⟩ size four called lasts
  have reply : replyPrice input.toByteArray
      (dispatched selector words input (rest - rest / 64)) ≤ 54 :=
    replyPrice_le data words input _ four
  rw [value_of_target (checkCode_dispatcher selector words) (by omega) (by omega) reached
    (by dsimp only; omega), dispatched]
  split
  · rw [relay, List.toList_data_toByteArray]
  · rfl

end Probed

end ReleaseGate.Probe
