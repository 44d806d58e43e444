/-
# Proofs.Build.Dispatch — the version that a dispatcher tells

The selector of the settings passes through everything: it is the input of the
message, the forwarder hands it on, and the code compares it with its own. Nothing on
the way lacks gas under a limit of a hundred thousand or more, so what is told depends
on that comparison and on how the four words are decoded.

* `extract_dispatcher`: the version that the text of a dispatcher tells;
* `value_extract_toldText`: a text for each version of four digits.
-/
import ReleaseGate.Proofs.Build.CodeText
import ReleaseGate.Proofs.Probe.Dispatcher
import ReleaseGate.Proofs.Probe.UpFront

namespace ReleaseGate.Build

set_option autoImplicit false

open Version (lastBytes)

/-- The hex text of a dispatcher. -/
def dispatcherText (chosen words : Vector UInt8 4) : String :=
  "0x" ++ Text.hexOfBytes (Probe.dispatcher chosen.toList words.toList)

example : dispatcherText #v[0x54, 0x25, 0x5b, 0xe0] #v[1, 2, 3, 4] =
    "0x60003560e01c6354255be01460145760006000fd5b" ++
      "6001600052600260205260036040526004606052" ++ "60806000f3" := by decide +kernel

theorem denotes_hexText (code : List UInt8) : Denotes ("0x" ++ Text.hexOfBytes code) code := by
  refine ⟨[], 1, _, [], ?_, by simp, by simp, .of_digits (Text.writesBytes_hexOfBytes code)⟩
  simp [marks]

theorem readCode_dispatcherText (chosen words : Vector UInt8 4) :
    readCode (dispatcherText chosen words) =
      .ok (Probe.dispatcher chosen.toList words.toList) :=
  readCode_of_denotes (denotes_hexText _)

/-- What is told of code whose probe answers with a buffer. -/
theorem value_extract_of_answer {builtIns : Evm.BuiltIns} {bytecode : String}
    {settings : ProbeSettings} {code answer : List UInt8} (reads : readCode bytecode = .ok code)
    (answered : (Probe.callWith builtIns code (selector settings.signature)
      settings.gasLimit.toNat).value = .ok answer) (full : answer.length = Version.bufferSize) :
    (extract bytecode settings builtIns).value =
      (settings.decoding.read answer).mapError .version := by
  rw [extract_of_reads reads, versionOf, Logged.value_bind, answered]
  simp only [full, if_true]
  rfl

section Asked

variable (builtIns : Evm.BuiltIns) {settings : ProbeSettings}

/-- What a dispatcher answers to the selector of the settings. -/
theorem value_callWith_selector (chosen words : Vector UInt8 4)
    (enough : 100000 ≤ settings.gasLimit.toNat) :
    (Probe.callWith builtIns (Probe.dispatcher chosen.toList words.toList)
      (selector settings.signature) settings.gasLimit.toNat).value =
        if chosen.toList = selector settings.signature then .ok (lastBytes words.toList)
        else .error (.reverted 0) :=
  Probe.value_callWith_dispatcher builtIns chosen.length_toList words.length_toList
    (length_selector settings.signature) enough

/-- Asked by its own selector, a dispatcher tells its words. -/
theorem value_extract_of_selector {chosen : Vector UInt8 4} (words : Vector UInt8 4)
    (enough : 100000 ≤ settings.gasLimit.toNat)
    (own : selector settings.signature = chosen.toList) :
    (extract (dispatcherText chosen words) settings builtIns).value =
      (settings.decoding.read (lastBytes words.toList)).mapError .version := by
  have called := value_callWith_selector builtIns chosen words enough
  rw [if_pos own.symm] at called
  have full : (lastBytes words.toList).length = Version.bufferSize := by
    rw [Probe.length_lastBytes, Vector.length_toList]
    rfl
  exact value_extract_of_answer (readCode_dispatcherText chosen words) called full

end Asked

/-- **A dispatcher tells its version to its own selector and to no other.** -/
theorem extract_dispatcher (builtIns : Evm.BuiltIns) (chosen words : Vector UInt8 4)
    (settings : ProbeSettings) (enough : 100000 ≤ settings.gasLimit.toNat) :
    (extract (dispatcherText chosen words) settings builtIns).value =
      if selector settings.signature = chosen.toList then
        (settings.decoding.read (lastBytes words.toList)).mapError .version
      else .error (.probe (.reverted 0)) := by
  split
  · next own => exact value_extract_of_selector builtIns words enough own
  · next other =>
      have called := value_callWith_selector builtIns chosen words enough
      rw [if_neg (Ne.symm other)] at called
      exact value_extract_of_fault (readCode_dispatcherText chosen words) called

/-- The default settings, but with a function that is called otherwise. -/
def otherSettings : ProbeSettings := { ProbeSettings.default with signature := "version()" }

theorem selector_default :
    selector ProbeSettings.default.signature = [0x54, 0x25, 0x5b, 0xe0] := by
  decide +kernel

theorem selector_otherSettings : selector otherSettings.signature = [0x54, 0xfd, 0x4d, 0x50] := by
  decide +kernel

/-- The two selectors begin with the same byte, and only the first is answered. -/
theorem extract_dispatcher_default :
    100000 ≤ ProbeSettings.default.gasLimit.toNat ∧
    (extract (dispatcherText #v[0x54, 0x25, 0x5b, 0xe0] #v[1, 2, 3, 4]) .default .basic).value =
      .ok ⟨1, 2, 3, 4⟩ ∧
    (extract (dispatcherText #v[0x54, 0x25, 0x5b, 0xe0] #v[1, 2, 3, 4]) otherSettings
      .basic).value = .error (.probe (.reverted 0)) := by
  have enough : 100000 ≤ ProbeSettings.default.gasLimit.toNat := by decide
  have own := extract_dispatcher .basic #v[0x54, 0x25, 0x5b, 0xe0] #v[1, 2, 3, 4] .default enough
  have other :=
    extract_dispatcher .basic #v[0x54, 0x25, 0x5b, 0xe0] #v[1, 2, 3, 4] otherSettings enough
  rw [selector_default] at own
  rw [selector_otherSettings] at other
  refine ⟨enough, (own.trans (if_pos rfl)).trans ?_, other.trans (if_neg (by decide))⟩
  exact congrArg (Except.mapError Fault.version) (Version.ofHexDigits_digits 1 2 3 4)

/-- The text of a dispatcher that tells four digits under the default settings. -/
def toldText (storage major minor patch : Fin 10) : String :=
  "0x" ++ Text.hexOfBytes (Probe.dispatcher [0x54, 0x25, 0x5b, 0xe0]
    [.ofNat storage, .ofNat major, .ofNat minor, .ofNat patch])

theorem toldText_eq (storage major minor patch : Fin 10) :
    toldText storage major minor patch =
      dispatcherText #v[0x54, 0x25, 0x5b, 0xe0]
        #v[.ofNat storage, .ofNat major, .ofNat minor, .ofNat patch] := rfl

theorem value_extract_toldText (builtIns : Evm.BuiltIns) (storage major minor patch : Fin 10) :
    (extract (toldText storage major minor patch) .default builtIns).value =
      .ok ⟨.ofNat storage, .ofNat major, .ofNat minor, .ofNat patch⟩ := by
  rw [toldText_eq, value_extract_of_selector builtIns _ (by decide) selector_default]
  exact congrArg (Except.mapError Fault.version)
    (Version.ofHexDigits_digits storage major minor patch)

end ReleaseGate.Build
