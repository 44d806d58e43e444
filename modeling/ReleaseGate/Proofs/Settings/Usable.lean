/-
# Proofs.Settings.Usable — settings that are loaded can be used

Settings are checked once, where they are loaded; a release check compiles the
pattern once more. What the first check lets through is just what can be used
(`check_eq_ok_iff`): calls have gas to run, the function to call is a name and an
empty pair of parentheses, and the pattern compiles. So a release check under
loaded settings fails in one way only, at a part of a version that cannot grow
(`load_usable`).
-/
import ReleaseGate.Proofs.Repair
import ReleaseGate.Proofs.Settings.Saved
import ReleaseGate.Proofs.Settings.Signatures
import ReleaseGate.Proofs.Verdict

namespace ReleaseGate

set_option autoImplicit false

open Version (lastNumber)

namespace Settings

/-- Settings that can be used. -/
structure Usable (s : Settings) : Prop where
  /-- A call costs less up front than there is gas. -/
  gasLimit : 21064 < s.probe.gasLimit.toNat
  signature : IsSignature s.probe.signature
  exclude : ∀ text, s.exclude = some text → ∃ pattern, Pattern.compile text = .ok pattern

theorem pattern?_eq_ok_iff (s : Settings) :
    (∃ pattern, s.pattern? = .ok pattern) ↔
      ∀ text, s.exclude = some text → ∃ pattern, Pattern.compile text = .ok pattern := by
  unfold pattern?
  cases s.exclude with
  | none => simp
  | some text => cases compiled : Pattern.compile text <;> simp [compiled]

theorem probe_check_eq_ok_iff (s : ProbeSettings) :
    s.check = .ok () ↔ upFrontGas < s.gasLimit.toNat ∧ IsSignature s.signature := by
  rw [← isSignature_iff, ProbeSettings.check]
  by_cases less : s.gasLimit.toNat ≤ upFrontGas
  · simp [less, Nat.not_lt.2 less]
  · rw [if_neg less]
    by_cases signs : isSignature s.signature <;> simp [signs, Nat.lt_of_not_le less]

/-- The check lets through what can be used and nothing else. -/
theorem check_eq_ok_iff (s : Settings) : s.check = .ok () ↔ s.Usable := by
  have compiled := pattern?_eq_ok_iff s
  have probe := probe_check_eq_ok_iff s.probe
  unfold check
  cases found : s.pattern? with
  | error bad =>
      rw [found] at compiled
      refine ⟨fun passed => (by cases passed), fun usable => ?_⟩
      obtain ⟨pattern, impossible⟩ := compiled.2 usable.exclude
      cases impossible
  | ok pattern =>
      show s.probe.check = .ok () ↔ _
      rw [probe]
      exact ⟨fun ⟨gasLimit, signature⟩ => ⟨gasLimit, signature, compiled.1 ⟨pattern, found⟩⟩,
        fun usable => ⟨usable.gasLimit, usable.signature⟩⟩

/-- Settings are refused for their pattern exactly if it does not compile. -/
theorem check_eq_pattern_iff (s : Settings) (bad : BadPattern) :
    s.check = .error (.pattern bad) ↔ s.pattern? = .error bad := by
  unfold check
  cases s.pattern? with
  | error other =>
      show Except.error (Flaw.pattern other) = _ ↔ _
      simp
  | ok pattern =>
      show s.probe.check = _ ↔ _
      unfold ProbeSettings.check
      split
      · simp
      · split <;> simp

/-- A release check fails at the pattern if it does not compile, and else only at a
part of a version that cannot grow. -/
theorem value_check_error {builtIns : Evm.BuiltIns} {s : Settings} {diff : Diff}
    {policy : Policy} {previous current : List Build.Artifact} {failure : Failure}
    (failed : (Release.check s diff policy previous current builtIns).value = .error failure) :
    (∃ bad, s.pattern? = .error bad ∧ failure = .pattern bad) ∨
      (∃ pattern, s.pattern? = .ok pattern) ∧ failure = .version (.exhausted lastNumber) := by
  cases found : s.pattern? with
  | error bad =>
      rw [Release.check, found] at failed
      cases failed
      exact .inl ⟨bad, rfl, rfl⟩
  | ok pattern =>
      refine .inr ⟨⟨pattern, rfl⟩, ?_⟩
      rw [Release.value_check found, Release.value_checkKeeping] at failed
      simp only at failed
      split at failed
      · next fault stopped =>
          cases failed
          rw [Drift.fault_of_detectIn stopped]
      · cases failed

theorem value_check_eq_pattern_iff (builtIns : Evm.BuiltIns) (s : Settings) (diff : Diff)
    (policy : Policy) (previous current : List Build.Artifact) (bad : BadPattern) :
    (Release.check s diff policy previous current builtIns).value = .error (.pattern bad) ↔
      s.pattern? = .error bad := by
  constructor
  · intro failed
    rcases value_check_error failed with ⟨other, found, same⟩ | ⟨-, impossible⟩
    · cases same
      exact found
    · cases impossible
  · intro found
    rw [Release.check, found]
    rfl

/-! ## Loading -/

theorem usable_default : Settings.default.Usable :=
  (check_eq_ok_iff .default).1 (by cbv)

/-- A text is loaded as the settings it holds if they can be used, and not at all else. -/
theorem ofText_eq_ok_iff (text : String) (s : Settings) :
    ofText text = .ok s ↔
      (∃ document, Toml.ofText? text = some document ∧ Form.readSettings document = .ok s) ∧
        s.Usable := by
  rw [ofText]
  constructor
  · intro loaded
    split at loaded
    · cases loaded
    · next document read =>
        split at loaded
        · cases loaded
        · next held shaped =>
            split at loaded
            · cases loaded
            · next passed =>
                cases loaded
                exact ⟨⟨document, read, shaped⟩, (check_eq_ok_iff s).1 passed⟩
  · rintro ⟨⟨document, read, shaped⟩, usable⟩
    simp only [read, shaped, (check_eq_ok_iff s).2 usable]

theorem usable_of_load {contents : Files.Contents} {s : Settings} (loaded : load contents = .ok s) :
    s.Usable := by
  cases contents with
  | ok text => exact ((ofText_eq_ok_iff text s).1 loaded).2
  | error fault =>
      cases fault with
      | missing =>
          cases loaded
          exact usable_default
      | _ => cases loaded

/-- **Settings that are loaded can be used.** They leave gas for a call, name a
function by a signature without parameters, and hold a pattern that compiles if any;
settings that a text holds and that are like this are loaded. Signatures are just what
the pattern of signatures is found in. Under loaded settings a release check fails only
at a number that cannot grow, since a pattern is refused where settings are checked
exactly if it is refused where a release is. -/
theorem load_usable (builtIns : Evm.BuiltIns) :
    (∀ contents s, load contents = .ok s → s.Usable) ∧
    (∀ text document s, Toml.ofText? text = some document →
      Form.readSettings document = .ok s → s.Usable → load (.ok text) = .ok s) ∧
    (∀ text, (∃ pattern, Pattern.compile "^[A-Za-z_$][A-Za-z0-9_$]*\\(\\)$" = .ok pattern ∧
      pattern.isIn text) ↔ IsSignature text) ∧
    (∀ contents s, load contents = .ok s → ∀ diff policy previous current failure,
      (Release.check s diff policy previous current builtIns).value = .error failure →
        failure = .version (.exhausted lastNumber)) ∧
    ∀ s bad diff policy previous current, s.check = .error (.pattern bad) ↔
      (Release.check s diff policy previous current builtIns).value = .error (.pattern bad) := by
  refine ⟨fun contents s => usable_of_load, fun text document s read shaped usable => ?_,
    fun text => ?_, fun contents s loaded diff policy previous current failure failed => ?_,
    fun s bad diff policy previous current => ?_⟩
  · exact (ofText_eq_ok_iff text s).2 ⟨⟨document, read, shaped⟩, usable⟩
  · simp only [compile_signaturePattern, Except.ok.injEq, exists_eq_left',
      isIn_signaturePattern_iff]
  · rcases value_check_error failed with ⟨bad, refused, -⟩ | ⟨-, exhausted⟩
    · obtain ⟨pattern, compiled⟩ := (pattern?_eq_ok_iff s).2 (usable_of_load loaded).exclude
      rw [compiled] at refused
      cases refused
    · exact exhausted
  · rw [check_eq_pattern_iff, value_check_eq_pattern_iff]

/-- Settings with as little gas as may be, a function of few letters, and a fallback
that cannot grow in its second part. -/
def fullSettings : Settings where
  exclude := some "^Mock"
  probe :=
    { ProbeSettings.default with
      signature := "$_2()", gasLimit := 21065, fallback := ⟨1, lastNumber, 0, 0⟩ }

/-- They are loaded from the text that holds them, and under them a release whose
token is removed fails at the fallback. -/
theorem load_usable_full :
    ∃ text, fullSettings.toText = .ok text ∧ load (.ok text) = .ok fullSettings ∧
      fullSettings.Usable ∧
      ∃ failure, (Release.check fullSettings ⟨[⟨"Token", "removed", []⟩], []⟩ (fun _ => .major)
          Release.tokenBuild Release.tokenBuild .basic).value = .error failure ∧
        failure = .version (.exhausted lastNumber) := by
  obtain ⟨usable, loads, -, fails, -⟩ := load_usable .basic
  obtain ⟨text, written, read⟩ := ofText?_toText (s := fullSettings) (by decide)
  have checked : fullSettings.Usable := (check_eq_ok_iff fullSettings).1 (by cbv)
  have loaded : load (.ok text) = .ok fullSettings :=
    loads text _ fullSettings read (readSettings_table fullSettings) checked
  have compiled : fullSettings.pattern? = .ok (some Release.mockPattern) := by cbv
  have failed : (Release.check fullSettings ⟨[⟨"Token", "removed", []⟩], []⟩ (fun _ => .major)
      Release.tokenBuild Release.tokenBuild .basic).value =
        .error (.version (.exhausted lastNumber)) := by
    rw [Release.value_check compiled]
    rfl
  exact ⟨text, written, loaded, usable _ _ loaded, _, failed, fails _ _ loaded _ _ _ _ _ failed⟩

end Settings

end ReleaseGate
