/-
# Proofs.Probe.Answer — a probe is refused in advance or runs

Of code that can be installed, a probe is refused for its gas limit or answers as
its run ends (`value_callWith`). The weight of the input decides on the refusal.
-/
import ReleaseGate.Probe

namespace ReleaseGate.Probe

set_option autoImplicit false

open Evm

/-- The answer that the end of a run gives. -/
def answerOf : Option Result → Except Fault (List UInt8)
  | some ⟨.success data _, _⟩ => .ok data.data.toList
  | some ⟨.revert data _, _⟩ => .error (.reverted data.size)
  | some ⟨.halt why, _⟩ => .error (.halted why)
  | none => .error (.halted .outOfGas)

/-- A probe of code that can be installed is refused for its gas, or runs. -/
theorem value_callWith (builtIns : BuiltIns) {code : List UInt8} (input : List UInt8)
    (gasLimit : Nat) (installs : checkCode code = .ok ()) :
    (callWith builtIns code input gasLimit).value =
      if gasLimit < intrinsicGas input then .error (.belowIntrinsic (intrinsicGas input) gasLimit)
      else if gasLimit < floorGas input then .error (.belowFloor (floorGas input) gasLimit)
      else answerOf (run builtIns code input gasLimit) := by
  unfold callWith
  rw [installs]
  simp only
  split
  · rfl
  split
  · rfl
  unfold answerOf
  cases run builtIns code input gasLimit with
  | none => rfl
  | some result =>
      obtain ⟨ending, world⟩ := result
      cases ending <;> rfl

/-- A byte other than zero weighs three more than a zero byte. -/
theorem inputWeight_eq (input : List UInt8) :
    inputWeight input = input.length + 3 * input.countP (· != 0) := by
  induction input with
  | nil => rfl
  | cons byte rest ih =>
      rw [inputWeight, ih, List.length_cons, List.countP_cons]
      by_cases zero : byte = 0
      · rw [if_pos zero, if_neg (by simp [zero])]
        omega
      · rw [if_neg zero, if_pos (by simp [zero])]
        omega

theorem answerOf_ne_belowFloor (ended : Option Result) (cost limit : Nat) :
    answerOf ended ≠ .error (.belowFloor cost limit) := by
  unfold answerOf
  split <;> simp

theorem answerOf_ne_belowIntrinsic (ended : Option Result) (cost limit : Nat) :
    answerOf ended ≠ .error (.belowIntrinsic cost limit) := by
  unfold answerOf
  split <;> simp

end ReleaseGate.Probe
