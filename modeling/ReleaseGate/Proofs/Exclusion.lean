/-
# Proofs.Exclusion — what is left out has no say

The pattern of the settings is applied at three places: to the diff before it
is sorted, and to the versions of each build after all of its bytecode has been
run. Yet a check under a pattern finds what a check without one finds once every
record and every artifact of a matching contract is gone
(`check_excluding`). So two inputs that differ only there give the same
release or the same failure, down to the overflow of a part.
-/
import ReleaseGate.Proofs.Verdict

namespace ReleaseGate.Release

set_option autoImplicit false

theorem keeps_none : keeps none = fun _ => true := rfl

/-- Leaving contracts out of the check is leaving them out of what is checked. -/
theorem value_checkKeeping_keeping (builtIns : Evm.BuiltIns) (keep : String → Bool)
    (settings : ProbeSettings) (diff : Diff) (policy : Policy)
    (previous current : List Build.Artifact) :
    (checkKeeping keep settings diff policy previous current builtIns).value =
      (checkKeeping (fun _ => true) settings (diff.keeping keep) policy
        (Build.keeping previous keep) (Build.keeping current keep) builtIns).value := by
  rw [value_checkKeeping, value_checkKeeping]
  simp only [Diff.keeping_true, NameMap.filterNames_true, Build.filterNames_versions]

/-- **What is left out has no say.** A check under a pattern is a check without
one on what the pattern leaves, so inputs that agree on that give one outcome. -/
theorem check_excluding (builtIns : Evm.BuiltIns) (settings : ProbeSettings) (text : String)
    (pattern : Pattern) (compiled : Pattern.compile text = .ok pattern) (policy : Policy) :
    (∀ (diff : Diff) (previous current : List Build.Artifact),
      (check ⟨some text, settings⟩ diff policy previous current builtIns).value =
        (check ⟨none, settings⟩ (diff.keeping (keeps (some pattern))) policy
          (Build.keeping previous (keeps (some pattern)))
          (Build.keeping current (keeps (some pattern))) builtIns).value) ∧
    ∀ (diff diff' : Diff) (previous previous' current current' : List Build.Artifact),
      diff.keeping (keeps (some pattern)) = diff'.keeping (keeps (some pattern)) →
      Build.keeping previous (keeps (some pattern)) = Build.keeping previous' (keeps (some pattern)) →
      Build.keeping current (keeps (some pattern)) = Build.keeping current' (keeps (some pattern)) →
      (check ⟨some text, settings⟩ diff policy previous current builtIns).value =
        (check ⟨some text, settings⟩ diff' policy previous' current' builtIns).value := by
  have withPattern : Settings.pattern? ⟨some text, settings⟩ = .ok (some pattern) := by
    simp only [Settings.pattern?, compiled]
  have without : Settings.pattern? ⟨none, settings⟩ = .ok none := rfl
  have kept (diff : Diff) (previous current : List Build.Artifact) :
      (check ⟨some text, settings⟩ diff policy previous current builtIns).value =
        (check ⟨none, settings⟩ (diff.keeping (keeps (some pattern))) policy
          (Build.keeping previous (keeps (some pattern)))
          (Build.keeping current (keeps (some pattern))) builtIns).value := by
    rw [value_check withPattern, value_check without, keeps_none, value_checkKeeping_keeping]
  refine ⟨kept, fun diff diff' previous previous' current current' diffs olds news => ?_⟩
  rw [kept, kept diff', diffs, olds, news]

/-- Mocks may be removed from the diff, added to a build or told of twice. -/
theorem check_excluding_mock :
    Pattern.compile "^Mock" = .ok mockPattern ∧
      (check mockSettings mockDiff (fun _ => .major)
        (⟨"MockToken", "00"⟩ :: tokenBuild) tokenBuild .basic).value =
      (check mockSettings ⟨[], [⟨"Token", true⟩]⟩ (fun _ => .major)
        tokenBuild (tokenBuild ++ [⟨"MockVault", "zz"⟩, ⟨"MockVault", "0x"⟩]) .basic).value := by
  have compiled : Pattern.compile "^Mock" = .ok mockPattern := by cbv
  refine ⟨compiled, ?_⟩
  exact (check_excluding .basic mockSettings.probe "^Mock" mockPattern compiled _).2 _ _ _ _ _ _
    (by cbv) (by cbv) (by cbv)

end ReleaseGate.Release
