/-
# Proofs.Batch — each contract of a build on its own

The versions of a build are looked up by contract: what a name gets is what the
last artifact of that name tells, or the fallback if it tells nothing
(`get?_versions`). Artifacts of other names play no part in it, so leaving
contracts out of the result is leaving their artifacts out of the build
(`filterNames_versions`).
-/
import ReleaseGate.Build.Extraction
import ReleaseGate.Proofs.Names

namespace ReleaseGate.Build

set_option autoImplicit false

variable (builtIns : Evm.BuiltIns)

/-- The version that bytecode tells, or the fallback. -/
def told (settings : ProbeSettings) (bytecode : String) : Version :=
  match (extract bytecode settings builtIns).value with
  | .ok version => version
  | .error _ => settings.fallback

/-- The last artifact of a contract. -/
def last? (artifacts : List Artifact) (name : String) : Option Artifact :=
  artifacts.reverse.find? fun a => a.name = name

/-- The version of a contract in a build. -/
def versionOf? (settings : ProbeSettings) (artifacts : List Artifact) (name : String) :
    Option Version :=
  (last? artifacts name).map fun a => told builtIns settings a.bytecode

/-- What a contract is called plays no part in what its bytecode tells. -/
theorem value_resolve (name : Option String) (bytecode : String) (settings : ProbeSettings) :
    (resolve name bytecode settings builtIns).value =
      match (extract bytecode settings builtIns).value with
      | .ok version => ⟨version, .extracted⟩
      | .error _ => ⟨settings.fallback, .defaulted⟩ := by
  unfold resolve
  rw [Logged.value_bind]
  cases (extract bytecode settings builtIns).value with
  | ok version => rfl
  | error fault => cases name <;> rfl

theorem version_resolve (name : Option String) (bytecode : String) (settings : ProbeSettings) :
    (resolve name bytecode settings builtIns).value.version =
      told builtIns settings bytecode := by
  rw [value_resolve, told]
  cases (extract bytecode settings builtIns).value <;> rfl

theorem lookup_map_artifacts {α : Type} (f : Artifact → α) (artifacts : List Artifact)
    (name : String) :
    NameMap.lookup name (artifacts.map fun a => (a.name, f a)) =
      (artifacts.find? fun a => a.name = name).map f := by
  induction artifacts with
  | nil => rfl
  | cons a rest ih =>
      by_cases same : a.name = name
      · simp [NameMap.lookup, same]
      · simpa [NameMap.lookup, same] using ih

theorem value_resolveAll (artifacts : List Artifact) (settings : ProbeSettings) :
    (resolveAll artifacts settings builtIns).value =
      NameMap.ofList (artifacts.map fun a =>
        (a.name, (resolve (some a.name) a.bytecode settings builtIns).value)) := by
  simp [resolveAll]

/-- Whatever else the build holds, a contract has what its last artifact tells. -/
theorem get?_resolveAll (artifacts : List Artifact) (settings : ProbeSettings) (name : String) :
    (resolveAll artifacts settings builtIns).value.get? name =
      (last? artifacts name).map fun a =>
        (resolve (some a.name) a.bytecode settings builtIns).value := by
  rw [value_resolveAll, NameMap.get?_ofList, ← List.map_reverse, lookup_map_artifacts, last?]

theorem get?_versions (artifacts : List Artifact) (settings : ProbeSettings) (name : String) :
    (versions artifacts settings builtIns).value.get? name =
      versionOf? builtIns settings artifacts name := by
  show ((resolveAll artifacts settings builtIns).value.map (·.version)).get? name = _
  rw [NameMap.get?_map, get?_resolveAll, Option.map_map]
  simp only [versionOf?, Function.comp_def, version_resolve]

/-- The artifacts of the contracts whose name passes `keep`. -/
def keeping (artifacts : List Artifact) (keep : String → Bool) : List Artifact :=
  artifacts.filter fun a => keep a.name

theorem last?_keeping (artifacts : List Artifact) (keep : String → Bool) (name : String) :
    last? (keeping artifacts keep) name = if keep name then last? artifacts name else none := by
  unfold last? keeping
  rw [← List.filter_reverse, List.find?_filter]
  split
  · next kept =>
      congr 1
      funext a
      by_cases same : a.name = name <;> simp [same, kept]
  · next left =>
      refine List.find?_eq_none.2 fun a _ => ?_
      by_cases same : a.name = name <;> simp [same, left]

/-- Leaving contracts out of the versions is leaving their artifacts out of the build. -/
theorem filterNames_versions (artifacts : List Artifact) (keep : String → Bool)
    (settings : ProbeSettings) :
    (versions artifacts settings builtIns).value.filterNames keep =
      (versions (keeping artifacts keep) settings builtIns).value := by
  refine NameMap.ext_get? fun name => ?_
  rw [NameMap.get?_filterNames, get?_versions, get?_versions, versionOf?, versionOf?, last?_keeping]
  split <;> rfl

end ReleaseGate.Build
