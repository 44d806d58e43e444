/-
# Proofs.Probe.UpFront — what is asked before anything runs

Settings are checked against one number, `upFrontGas`: what a message costs that
calls a function by four bytes other than zero. Two numbers are asked for
instead, the cost of the message and the least any message may be charged for
its data, and the second is larger (`floorGas_selector`). So the cost of a message
never refuses a probe under settings that pass their check, while the least charge
does, exactly where `extract_upFront` says, and such settings exist
(`valid_settings_refused`).
-/
import Mathlib
import ReleaseGate.Proofs.Build.CodeText
import ReleaseGate.Proofs.Probe.Answer
import ReleaseGate.Settings.Check

namespace ReleaseGate

set_option autoImplicit false

theorem ProbeSettings.gasLimit_of_check {settings : ProbeSettings}
    (valid : settings.check = .ok ()) : upFrontGas < settings.gasLimit.toNat := by
  unfold ProbeSettings.check at valid
  split at valid
  · cases valid
  · next more => exact Nat.lt_of_not_le more

namespace Build

theorem length_selector (signature : String) : (selector signature).length = 4 := by
  simp [selector, Keccak.digest, Keccak.laneBytes]

/-- The bytes of a selector other than zero. -/
def nonZeroBytes (signature : String) : Nat := (selector signature).countP (· != 0)

theorem nonZeroBytes_le (signature : String) : nonZeroBytes signature ≤ 4 :=
  length_selector signature ▸ List.countP_le_length

theorem intrinsicGas_selector (signature : String) :
    Probe.intrinsicGas (selector signature) = 21016 + 12 * nonZeroBytes signature := by
  rw [Probe.intrinsicGas, Probe.inputWeight_eq, length_selector, nonZeroBytes]
  omega

theorem floorGas_selector (signature : String) :
    Probe.floorGas (selector signature) = 21040 + 30 * nonZeroBytes signature := by
  rw [Probe.floorGas, Probe.inputWeight_eq, length_selector, nonZeroBytes]
  omega

section Refusals

variable {builtIns : Evm.BuiltIns} {bytecode : String} {settings : ProbeSettings}
  {code : List UInt8} {fault : Probe.Fault}

/-- What becomes of an extraction whose probe is refused or ends without an answer. -/
theorem value_extract_of_fault (reads : readCode bytecode = .ok code)
    (failed : (Probe.callWith builtIns code (selector settings.signature)
      settings.gasLimit.toNat).value = .error fault) :
    (extract bytecode settings builtIns).value = .error (.probe fault) := by
  rw [extract_of_reads reads, versionOf, Logged.value_bind, failed]
  rfl

theorem fault_of_value_extract (reads : readCode bytecode = .ok code)
    (failed : (extract bytecode settings builtIns).value = .error (.probe fault)) :
    (Probe.callWith builtIns code (selector settings.signature) settings.gasLimit.toNat).value =
      .error fault := by
  rw [extract_of_reads reads] at failed
  rcases fault_of_versionOf failed with ⟨why, same, told⟩ | ⟨_, other⟩ | ⟨_, other⟩
  · cases same
    exact told
  · cases other
  · cases other

/-- Code that can be installed is refused if the gas lasts for the message and not
for the least charge. -/
theorem value_extract_of_belowFloor (reads : readCode bytecode = .ok code)
    (installs : Probe.checkCode code = .ok ()) (enough : upFrontGas < settings.gasLimit.toNat)
    (below : settings.gasLimit.toNat < 21040 + 30 * nonZeroBytes settings.signature) :
    (extract bytecode settings builtIns).value =
      .error (.probe (.belowFloor (21040 + 30 * nonZeroBytes settings.signature)
        settings.gasLimit.toNat)) := by
  have few := nonZeroBytes_le settings.signature
  have told := Probe.value_callWith builtIns (selector settings.signature)
    settings.gasLimit.toNat installs
  rw [intrinsicGas_selector, floorGas_selector, if_neg (by unfold upFrontGas at enough; omega),
    if_pos below] at told
  exact value_extract_of_fault reads told

end Refusals

/-- **Under settings that pass their check no extraction is refused for what its
message costs, and one is refused for the least charge exactly when the gas limit
is below that of the selector.** -/
theorem extract_upFront (builtIns : Evm.BuiltIns) {settings : ProbeSettings} {bytecode : String}
    {code : List UInt8} (valid : settings.check = .ok ()) (reads : readCode bytecode = .ok code)
    (installs : Probe.checkCode code = .ok ()) :
    (∀ cost limit, (extract bytecode settings builtIns).value ≠
      .error (.probe (.belowIntrinsic cost limit))) ∧
    ((∃ cost limit, (extract bytecode settings builtIns).value =
      .error (.probe (.belowFloor cost limit))) ↔
      settings.gasLimit.toNat < 21040 + 30 * nonZeroBytes settings.signature) := by
  have enough := ProbeSettings.gasLimit_of_check valid
  have few := nonZeroBytes_le settings.signature
  have told := Probe.value_callWith builtIns (selector settings.signature)
    settings.gasLimit.toNat installs
  rw [intrinsicGas_selector, floorGas_selector,
    if_neg (by unfold upFrontGas at enough; omega)] at told
  constructor
  · intro cost limit refused
    have asked := fault_of_value_extract reads refused
    rw [told] at asked
    split at asked
    · cases asked
    · exact Probe.answerOf_ne_belowIntrinsic _ _ _ asked
  constructor
  · rintro ⟨cost, limit, refused⟩
    have asked := fault_of_value_extract reads refused
    rw [told] at asked
    split at asked
    · next below => exact below
    · exact absurd asked (Probe.answerOf_ne_belowFloor _ _ _)
  · intro below
    exact ⟨_, _, value_extract_of_belowFloor reads installs enough below⟩

/-- The default settings with one unit of gas more than their check asks for. -/
def tightSettings : ProbeSettings := { ProbeSettings.default with gasLimit := 21065 }

theorem check_tightSettings : tightSettings.check = .ok () := by cbv

theorem readCode_zero : readCode "00" = .ok [0] := by cbv

theorem nonZeroBytes_tightSettings : nonZeroBytes tightSettings.signature = 4 := by
  decide +kernel

theorem extract_upFront_tight :
    tightSettings.check = .ok () ∧ readCode "00" = .ok [0] ∧ Probe.checkCode [0] = .ok () ∧
    (∀ cost limit,
      (extract "00" tightSettings .basic).value ≠ .error (.probe (.belowIntrinsic cost limit))) ∧
    ∃ cost limit,
      (extract "00" tightSettings .basic).value = .error (.probe (.belowFloor cost limit)) := by
  have upFront := extract_upFront .basic check_tightSettings readCode_zero rfl
  refine ⟨check_tightSettings, readCode_zero, rfl, upFront.1, upFront.2.mpr ?_⟩
  rw [nonZeroBytes_tightSettings]
  decide

/-- Settings that pass their check and with which nothing can be called. -/
theorem valid_settings_refused :
    tightSettings.check = .ok () ∧ readCode "00" = .ok [0] ∧ Probe.checkCode [0] = .ok () ∧
    (extract "00" tightSettings .basic).value = .error (.probe (.belowFloor 21160 21065)) := by
  refine ⟨check_tightSettings, readCode_zero, rfl, ?_⟩
  have refused : (extract "00" tightSettings .basic).value = _ :=
    value_extract_of_belowFloor readCode_zero rfl
      (ProbeSettings.gasLimit_of_check check_tightSettings)
      (by rw [nonZeroBytes_tightSettings]; decide)
  rwa [nonZeroBytes_tightSettings] at refused

end Build

end ReleaseGate
