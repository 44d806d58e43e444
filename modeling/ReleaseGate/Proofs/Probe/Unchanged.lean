/-
# Proofs.Probe.Unchanged — a probe changes nothing

The forwarder's code is calm (`isCalm_forwarder`), so the machine of a probe is
sealed from its start, whatever the code under probe does: however deep its calls
go, whether they lead back to itself or to the forwarder, and whether some frame
swallows the failure of another. `probe_changes_nothing` says it for every moment
of a run and for its end.
-/
import ReleaseGate.Proofs.Evm.Sealing
import ReleaseGate.Proofs.Probe.Forwarder

namespace ReleaseGate.Probe

set_option autoImplicit false

open Evm

theorem isCalm_forwarder : forwarder.IsCalm := Code.isCalm_of_bytes (by decide +kernel)

section Run

variable {builtIns : BuiltIns} {code input : List UInt8} {gasLimit : Nat}

theorem sealed_startMachine :
    (startMachine builtIns code input gasLimit).Sealed
      (startMachine builtIns code input gasLimit).frame (startWorld code).ledger :=
  ⟨rfl, rfl, rfl⟩

theorem isCalm_startMachine : (startMachine builtIns code input gasLimit).frame.code.IsCalm :=
  isCalm_forwarder

end Run

/-- **A probe changes nothing.** At every moment of its run the ledger (accounts
with balances, nonces and code, storage, transient storage and logs) is the one it
started with, and so it is at the end. All frames but the lowest, which is the
forwarder, are read-only; one that attempts a change is ended by the attempt. What
a storage slot is read as is zero. -/
theorem probe_changes_nothing (builtIns : BuiltIns) (code input : List UInt8) (gasLimit : Nat) :
    let start := startMachine builtIns code input gasLimit
    (∀ n m, start.after n = some m →
      m.world.ledger = start.world.ledger ∧
      (∃ above bottom, m.frames = above ++ [bottom] ∧
        bottom.code = forwarder ∧ bottom.message.depth = 0 ∧
        ∀ f ∈ above, f.message.readOnly = true) ∧
      (m.pending ≠ [] → m.frame.AttemptsChange →
        m.step = Machine.conclude m.block (.halt .readOnly) m.world m.pending) ∧
      (m.frame.code.instructionAt m.frame.place = .sload → ∀ later world,
        m.frame.execute m.block m.world = .ok (.go later world) →
          ∃ stack, later.stack.pop? = some (0, stack))) ∧
    ∀ result, run builtIns code input gasLimit = some result →
      result.world.ledger = start.world.ledger := by
  intro start
  have calm : start.frame.code.IsCalm := isCalm_startMachine
  have first : start.Sealed start.frame start.world.ledger := sealed_startMachine
  refine ⟨fun n m ran => ?_, fun result ran => first.run calm ran⟩
  have sealed := first.after calm ran
  refine ⟨sealed.unchanged, ?_, sealed.step_of_attempt, fun here later world went => ?_⟩
  · obtain ⟨above, bottom, split, same, message, each⟩ := sealed.guarded.frames
    exact ⟨above, bottom, split, same, by rw [message]; rfl, each⟩
  · obtain ⟨key, stack, -, top⟩ := Frame.execute_sload here went
    rw [sealed.unchanged] at top
    exact ⟨stack, top⟩

/-- Code that calls itself, and stores a word where it was called by itself. -/
def selfStoring : List UInt8 :=
  [0x33, 0x30, 0x14, 0x60, 0x0f, 0x57, 0x5f, 0x5f, 0x5f, 0x5f, 0x5f, 0x30, 0x5a, 0xf1, 0x00,
    0x5b, 0x5f, 0x5f, 0x55]

/-- The code swallows the failure of its own call, so the probe has an answer; still
nothing was stored. -/
theorem probe_changes_nothing_selfStoring :
    let start := startMachine .basic selfStoring [0x01] 100000
    (∃ m, start.after 32 = some m ∧ m.frame.code.instructionAt m.frame.place = .sstore ∧
      m.step = Machine.conclude m.block (.halt .readOnly) m.world m.pending) ∧
    (callWith .basic selfStoring [0x01] 100000).value.toOption = some [] ∧
    ∃ result, run .basic selfStoring [0x01] 100000 = some result ∧
      result.world.ledger = start.world.ledger := by
  intro start
  obtain ⟨moments, ends⟩ := probe_changes_nothing .basic selfStoring [0x01] 100000
  have storing : (start.after 32).map (fun m =>
      (m.frame.code.instructionAt m.frame.place, m.pending.length)) = some (.sstore, 2) := by
    decide +kernel
  obtain ⟨m, ran, seen⟩ := Option.map_eq_some_iff.mp storing
  obtain ⟨here, waiting⟩ := Prod.mk.inj seen
  have above : m.pending ≠ [] := by
    intro none
    rw [none] at waiting
    cases waiting
  have attempts : m.frame.AttemptsChange := by
    unfold Frame.AttemptsChange
    rw [here]
    trivial
  obtain ⟨-, -, fails, -⟩ := moments 32 m ran
  have ended : (run .basic selfStoring [0x01] 100000).isSome := by decide +kernel
  obtain ⟨result, last⟩ := Option.isSome_iff_exists.mp ended
  have answered : (callWith .basic selfStoring [0x01] 100000).value.toOption = some [] := by
    decide +kernel
  exact ⟨⟨m, ran, here, fails above attempts⟩, answered, result, last, ends result last⟩

end ReleaseGate.Probe
