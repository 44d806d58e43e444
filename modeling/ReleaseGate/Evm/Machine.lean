/-
# Evm.Machine — frames that call one another

A machine runs the topmost frame; the others wait for it with the part of
their memory that takes what it returns, and with the world to go back to if
it fails. `Machine.run` takes a bound on the number of instructions; a run
that reached its end is the same under every larger bound (`run_mono`).
-/
import ReleaseGate.Evm.Step

namespace ReleaseGate.Evm

set_option autoImplicit false

/-- A frame that waits for the one above it. -/
structure Pending where
  frame : Frame
  outOffset : Nat
  outLength : Nat
  /-- The world to go back to if the frame above fails. -/
  saved : World

structure Machine where
  block : Block
  frame : Frame
  world : World
  pending : List Pending

/-- How a run ended, and the world it left. -/
structure Result where
  ending : Ending
  world : World

namespace Machine

/-- Hand the end of a frame to the one that waits for it. -/
def conclude (block : Block) (ending : Ending) (world : World) :
    List Pending → Machine ⊕ Result
  | [] => .inr ⟨ending, world⟩
  | waiting :: rest =>
      let resume (success : Bool) (data : ByteArray) (gas : Nat) (world : World) : Machine :=
        { block := block
          frame := waiting.frame.resume success data gas waiting.outOffset waiting.outLength
          world := world
          pending := rest }
      match ending with
      | .success data gas => .inl (resume true data gas world)
      | .revert data gas => .inl (resume false data gas waiting.saved)
      | .halt _ => .inl (resume false ByteArray.empty 0 waiting.saved)

/-- Run one instruction. -/
def step : Machine → Machine ⊕ Result
  | ⟨block, frame, world, pending⟩ =>
      match frame.execute block world with
      | .error why => conclude block (.halt why) world pending
      | .ok (.go frame world) => .inl ⟨block, frame, world, pending⟩
      | .ok (.enter frame child outOffset outLength saved world) =>
          .inl ⟨block, child, world, ⟨frame, outOffset, outLength, saved⟩ :: pending⟩
      | .ok (.finish ending world) => conclude block ending world pending

/-- Run at most `fuel` instructions; none if that was not enough. -/
def run : Nat → Machine → Option Result
  | 0, _ => none
  | fuel + 1, m =>
      match m.step with
      | .inl m => run fuel m
      | .inr result => some result

/-- A run that reached its end is the same under every larger bound. -/
theorem run_mono {fuel more : Nat} {m : Machine} {result : Result}
    (h : m.run fuel = some result) (le : fuel ≤ more) : m.run more = some result := by
  induction fuel generalizing m more with
  | zero => cases h
  | succ fuel ih =>
      obtain ⟨more, rfl⟩ : ∃ n, more = n + 1 := ⟨more - 1, by omega⟩
      unfold run at h ⊢
      split at h
      · exact ih h (by omega)
      · exact h

end Machine

end ReleaseGate.Evm
