/-
# Proofs.Evm.Straight — straight code, by the bytes at a place

Where code has the bytes of an instruction, a frame at their place passes the
instruction's toll and comes to the place behind them. So a stretch of code is
followed by taking its bytes off one after the other.
-/
import ReleaseGate.Proofs.Evm.Readings
import ReleaseGate.Proofs.Evm.Tolls

namespace ReleaseGate.Evm

set_option autoImplicit false

/-- A frame that has called nothing, but for its gas. -/
def straightFrame (code : Code) (message : Message) (place : Nat) (items : List Word)
    (memory : Memory) : Frame where
  code := code
  message := message
  place := place
  gas := 0
  stack := .ofList items
  memory := memory
  returned := ByteArray.empty

theorem Toll.refl (block : Block) (w : World) (f : Frame) : Toll block w 0 f f where
  passes _ _ := .here _
  starves gas less := absurd less (Nat.not_lt_zero gas)

namespace Code.Has

variable {block : Block} {w : World} {code : Code} {message : Message} {place : Nat}
  {items rest : List Word} {memory : Memory} {x y : Word} {behind : List UInt8}

theorem push {byte : UInt8} {operand : List UInt8}
    (has : code.Has place (byte :: (operand ++ behind)))
    (kind : Instruction.ofByte byte = .push operand.length) (wide : operand.length ≠ 0)
    (room : (Stack.ofList items).push? (Word.ofBytes operand) =
      some (.ofList (Word.ofBytes operand :: items))) :
    Toll block w 3 (straightFrame code message place items memory)
      (straightFrame code message (place + 1 + operand.length) (Word.ofBytes operand :: items)
        memory) := by
  refine .push (has.instructionAt.trans kind) wide ?_
  rw [show (straightFrame code message place items memory).code.operand
    (straightFrame code message place items memory).place operand.length = Word.ofBytes operand
    from has.operand]
  exact room

/-- A push of one byte. -/
theorem push1 {byte : UInt8} (has : code.Has place (0x60 :: byte :: behind))
    (room : (Stack.ofList items).push? (Word.ofBytes [byte]) =
      some (.ofList (Word.ofBytes [byte] :: items))) :
    Toll block w 3 (straightFrame code message place items memory)
      (straightFrame code message (place + 2) (Word.ofBytes [byte] :: items) memory) := by
  have split : code.Has place (0x60 :: ([byte] ++ behind)) := has
  exact split.push rfl (Nat.succ_ne_zero 0) room

theorem binary {byte : UInt8} {op : Binary} (has : code.Has place (byte :: behind))
    (kind : Instruction.ofByte byte = .binary op)
    (top : (Stack.ofList items).pop2? = some (x, y, .ofList rest))
    (room : (Stack.ofList rest).push? (op.apply x y) = some (.ofList (op.apply x y :: rest))) :
    Toll block w op.price (straightFrame code message place items memory)
      (straightFrame code message (place + 1) (op.apply x y :: rest) memory) :=
  .binary (has.instructionAt.trans kind) top room

theorem callDataLoad (has : code.Has place (0x35 :: behind))
    (top : (Stack.ofList items).pop? = some (x, .ofList rest))
    (room : (Stack.ofList rest).push? (wordAt message.input x.toNat) =
      some (.ofList (wordAt message.input x.toNat :: rest))) :
    Toll block w 3 (straightFrame code message place items memory)
      (straightFrame code message (place + 1) (wordAt message.input x.toNat :: rest) memory) :=
  .callDataLoad has.instructionAt top room

theorem jumpIf {next : Nat} (has : code.Has place (0x57 :: behind))
    (top : (Stack.ofList items).pop2? = some (x, y, .ofList rest))
    (lands : code.isTarget x.toNat = true)
    (onward : (if y = 0 then place + 1 else x.toNat) = next) :
    Toll block w 10 (straightFrame code message place items memory)
      (straightFrame code message next rest memory) := by
  subst onward
  exact .jumpIf has.instructionAt top fun _ => lands

theorem jumpdest (has : code.Has place (0x5b :: behind)) :
    Toll block w 1 (straightFrame code message place items memory)
      (straightFrame code message (place + 1) items memory) :=
  .jumpdest has.instructionAt

/-- A word stored at the end of what memory holds. -/
theorem mstore {stored : List UInt8} (has : code.Has place (0x52 :: behind))
    (top : (Stack.ofList items).pop2? = some (x, y, .ofList rest))
    (aligned : 32 ∣ stored.length) (few : stored.length < 256) (ending : x.toNat = stored.length) :
    Toll block w 6 (straightFrame code message place items (.ofList stored))
      (straightFrame code message (place + 1) rest (.ofList (stored ++ y.toBytes))) := by
  have whole : Toll block w _ (straightFrame code message place items (.ofList stored)) _ :=
    .mstore has.instructionAt top
  rw [ending] at whole
  have stays : ((straightFrame code message place items (.ofList stored)).memory.expand
      stored.length 32).store stored.length y = .ofList (stored ++ y.toBytes) :=
    store_ofList aligned y
  have cost : (straightFrame code message place items (.ofList stored)).memory.expansionCost
      stored.length 32 = 3 := expansionCost_ofList aligned few
  rw [stays, cost] at whole
  exact whole

end Code.Has

end ReleaseGate.Evm
