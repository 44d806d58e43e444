/-
# Proofs.Probe.Bounded — gas bounds a probe

Nothing else bounds a probe: its code may loop, call itself and the forwarder, or stand
for other code. Gas does, though no single counter tells so, since it is split between
frames, comes back in part when one of them ends, and the instruction that ends a frame
may be free. What all frames hold together falls with every instruction that does not end
its frame, by two where a frame is opened (`step_burns`). So the shared gas, the open
frames and the instructions behind them never add up to more than at the start
(`count_le_of_after`).

* `run_bounded_by_gas`: a probe with its gas limit for fuel ends, and more fuel changes
  nothing.
-/
import ReleaseGate.Proofs.Evm.Sealing
import ReleaseGate.Proofs.Probe.Answer

namespace ReleaseGate

set_option autoImplicit false

open Evm

namespace Evm.Machine

variable {m later : Machine} {n : Nat}

/-- The instructions so far and the weight that is left. -/
theorem count_le_of_after (ran : m.after n = some later) : n + later.weight ≤ m.weight := by
  induction n generalizing m with
  | zero =>
      cases ran
      omega
  | succ n ih =>
      unfold after at ran
      split at ran
      · next stepped =>
          have := weight_step stepped
          have := ih ran
          omega
      · cases ran

/-- A run that has come to its end came to it after some number of instructions: with
fewer it is still running, with more it is the same. -/
theorem exists_length_of_isSome {fuel : Nat} (ended : (m.run fuel).isSome) :
    ∃ n result, n ≤ fuel ∧ (∀ fewer < n, m.run fewer = none) ∧
      ∀ more, n ≤ more → m.run more = some result := by
  induction fuel with
  | zero => cases ended
  | succ fuel ih =>
      cases sooner : m.run fuel with
      | some result =>
          obtain ⟨n, result, le, shorter, longer⟩ := ih (by rw [sooner]; rfl)
          exact ⟨n, result, Nat.le_succ_of_le le, shorter, longer⟩
      | none =>
          obtain ⟨result, ran⟩ := Option.isSome_iff_exists.1 ended
          refine ⟨fuel + 1, result, Nat.le_refl _, fun fewer less => ?_, fun more => run_mono ran⟩
          -- A run that had ended with fewer would have ended with `fuel` as well.
          cases early : m.run fewer with
          | none => rfl
          | some other =>
              rw [run_mono early (Nat.le_of_lt_succ less)] at sooner
              cases sooner

end Evm.Machine

namespace Probe

theorem weight_startMachine (builtIns : BuiltIns) (code input : List UInt8) (gasLimit : Nat) :
    (startMachine builtIns code input gasLimit).weight = gasLimit - intrinsicGas input + 1 := rfl

/-- **Gas bounds the run of a probe**, whatever the code, the input and the gas limit. At
every moment the next instruction burns at least one unit of the gas that the frames
share, unless it ends its frame, and two if it opens one; the instructions so far, the
shared gas and the open frames do not add up to more than the gas that was not spent in
advance, and one. So a run that is paid for in advance ends after some number of
instructions, which is at most the gas limit; with more fuel it ends the same, and the
answer of the probe is what it ends with under any fuel that is no less than the limit. -/
theorem run_bounded_by_gas (builtIns : BuiltIns) (code input : List UInt8) (gasLimit : Nat) :
    let start := startMachine builtIns code input gasLimit
    (∀ n m, start.after n = some m → m.Burns m.step ∧
      n + m.sharedGas + m.frames.length ≤ gasLimit - intrinsicGas input + 1) ∧
    (intrinsicGas input ≤ gasLimit → ∃ n result, n ≤ gasLimit ∧
      (∀ fewer < n, start.run fewer = none) ∧
      ∀ fuel, n ≤ fuel → start.run fuel = some result) ∧
    (checkCode code = .ok () → ∀ fuel, gasLimit ≤ fuel →
      (callWith builtIns code input gasLimit).value =
        if gasLimit < intrinsicGas input then
          .error (.belowIntrinsic (intrinsicGas input) gasLimit)
        else if gasLimit < floorGas input then .error (.belowFloor (floorGas input) gasLimit)
        else answerOf (start.run fuel)) := by
  intro start
  have ends (paid : intrinsicGas input ≤ gasLimit) : ∃ n result, n ≤ gasLimit ∧
      (∀ fewer < n, start.run fewer = none) ∧
      ∀ fuel, n ≤ fuel → start.run fuel = some result := by
    have some_cost : 21000 ≤ intrinsicGas input := Nat.le_add_right _ _
    have light : start.weight ≤ gasLimit := by
      rw [weight_startMachine]
      omega
    exact Machine.exists_length_of_isSome (Machine.isSome_run light)
  refine ⟨fun n m ran => ⟨m.step_burns, ?_⟩, ends, fun installs fuel enough => ?_⟩
  · have count := Machine.count_le_of_after ran
    rw [weight_startMachine, Machine.weight_eq] at count
    simp only [Machine.frames, List.length_cons, List.length_map]
    omega
  · rw [value_callWith builtIns input gasLimit installs]
    split
    · rfl
    split
    · rfl
    · next paid _ =>
        obtain ⟨n, result, le, -, longer⟩ := ends (Nat.le_of_not_lt paid)
        rw [run, longer gasLimit le, longer fuel (Nat.le_trans le enough)]

/-- Code that jumps back to its first instruction. -/
def looping : List UInt8 := [0x5b, 0x60, 0x00, 0x56]

/-- Endless code comes to an end. -/
theorem run_bounded_by_gas_looping :
    let start := startMachine .basic looping [] 100000
    checkCode looping = .ok () ∧ intrinsicGas [] ≤ 100000 ∧
      start.Burns start.step ∧
      (∃ n result, n ≤ 100000 ∧ (∀ fewer < n, start.run fewer = none) ∧
        ∀ fuel, n ≤ fuel → start.run fuel = some result) ∧
      (callWith .basic looping [] 100000).value = answerOf (start.run 1000000) := by
  intro start
  have installs : checkCode looping = .ok () := rfl
  have paid : intrinsicGas [] ≤ 100000 := by decide
  obtain ⟨moments, ends, answers⟩ := run_bounded_by_gas .basic looping [] 100000
  have answer := answers installs 1000000 (by decide)
  rw [if_neg (Nat.not_lt.2 paid), if_neg (by decide)] at answer
  exact ⟨installs, paid, (moments 0 start rfl).1, ends paid, answer⟩

end Probe

end ReleaseGate
