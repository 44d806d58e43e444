/-
# Proofs.Build.Namesakes — one entry for each name in a build

The versions of a build are kept by contract name, so an artifact comes into the map as
far as no later one bears its name. What else the build holds, and in what order, plays
no part.

A build is also asked for an artifact by its name, and answers with the first one
(`get?`). Where names differ that is the last one too (`last?_eq_get?`); where a name is
given twice the map may hold the version of another artifact than the one that is found.

* `resolveAll_isolated`: what the entry of a contract depends on;
* `resolveAll_beside_get`: the map beside the search, for any build;
* `resolveAll_namesakes`: a build in which they differ.
-/
import Mathlib.Data.List.Nodup
import ReleaseGate.Build.Directory
import ReleaseGate.Proofs.Batch
import ReleaseGate.Proofs.Build.Dispatch

namespace ReleaseGate.Build

set_option autoImplicit false

/-! ## The artifact of a name -/

section Found

variable {artifacts artifacts' : List Artifact} {name : String}

theorem isSome_get?_iff : (get? artifacts name).isSome ↔ ∃ a ∈ artifacts, a.name = name := by
  simp [get?, List.find?_isSome]

theorem isSome_last?_iff : (last? artifacts name).isSome ↔ ∃ a ∈ artifacts, a.name = name := by
  simp [last?, List.find?_isSome]

/-- Where no name is given twice, the artifact found is the only one of its name. -/
theorem get?_eq_some_iff (apart : (artifacts.map (·.name)).Nodup) {a : Artifact} :
    get? artifacts name = some a ↔ a ∈ artifacts ∧ a.name = name := by
  constructor
  · intro found
    exact ⟨List.mem_of_find?_eq_some found, by simpa using List.find?_some found⟩
  · rintro ⟨member, same⟩
    obtain ⟨b, found⟩ := Option.isSome_iff_exists.1 (isSome_get?_iff.2 ⟨a, member, same⟩)
    have named : b.name = name := by simpa using List.find?_some found
    rw [found, List.inj_on_of_nodup_map apart (List.mem_of_find?_eq_some found) member
      (named.trans same.symm)]

/-- Where no name is given twice, the order of the artifacts does not matter. -/
theorem get?_perm (apart : (artifacts.map (·.name)).Nodup) (same : artifacts.Perm artifacts')
    (name : String) : get? artifacts name = get? artifacts' name := by
  have apart' : (artifacts'.map (·.name)).Nodup := ((same.map _).nodup_iff).1 apart
  refine Option.ext fun a => ?_
  rw [get?_eq_some_iff apart, get?_eq_some_iff apart', same.mem_iff]

theorem last?_eq_get? (apart : (artifacts.map (·.name)).Nodup) (name : String) :
    last? artifacts name = get? artifacts name :=
  (get?_perm apart (List.reverse_perm artifacts).symm name).symm

theorem last?_perm (apart : (artifacts.map (·.name)).Nodup) (same : artifacts.Perm artifacts')
    (name : String) : last? artifacts name = last? artifacts' name := by
  have apart' : (artifacts'.map (·.name)).Nodup := ((same.map _).nodup_iff).1 apart
  rw [last?_eq_get? apart, last?_eq_get? apart', get?_perm apart same]

/-- The last artifact of a name is known from the artifacts of this name. -/
theorem last?_filter (artifacts : List Artifact) (name : String) :
    last? (artifacts.filter fun a => a.name = name) name = last? artifacts name :=
  (last?_keeping artifacts (fun other => other = name) name).trans (if_pos (decide_eq_true rfl))

end Found

/-! ## The versions of a build -/

variable {builtIns : Evm.BuiltIns}

theorem mem_names_resolveAll {artifacts : List Artifact} {settings : ProbeSettings}
    {name : String} :
    name ∈ (resolveAll artifacts settings builtIns).value.names ↔
      ∃ a ∈ artifacts, a.name = name := by
  rw [NameMap.mem_names_iff, get?_resolveAll, Option.isSome_map, isSome_last?_iff]

/-- The entry of a name is what the last artifact of this name tells. -/
theorem get?_resolveAll_eq (artifacts : List Artifact) (settings : ProbeSettings) (name : String) :
    (resolveAll artifacts settings builtIns).value.get? name =
      (last? artifacts name).map fun a => (resolve none a.bytecode settings builtIns).value := by
  simp only [get?_resolveAll, value_resolve]

theorem value_resolveAll_congr {artifacts artifacts' : List Artifact} (settings : ProbeSettings)
    (same : ∀ name, last? artifacts name = last? artifacts' name) :
    (resolveAll artifacts settings builtIns).value =
      (resolveAll artifacts' settings builtIns).value := by
  refine NameMap.ext_get? fun name => ?_
  rw [get?_resolveAll_eq, get?_resolveAll_eq, same]

/-- **Every contract of a build stands for itself.** The names in the result are those of
the artifacts, and none is missing, whatever is wrong with the bytecode. The entry of a name
is what the last artifact of this name tells by itself: artifacts of other names, wherever
they stand, do not touch it. Builds whose last artifacts agree name by name have one result,
so where no name is given twice the order does not matter. -/
theorem resolveAll_isolated (builtIns : Evm.BuiltIns) (settings : ProbeSettings) :
    (∀ artifacts name, name ∈ (resolveAll artifacts settings builtIns).value.names ↔
      ∃ a ∈ artifacts, a.name = name) ∧
    (∀ artifacts name, (resolveAll artifacts settings builtIns).value.get? name =
      (artifacts.reverse.find? fun a => a.name = name).map fun a =>
        (resolve none a.bytecode settings builtIns).value) ∧
    (∀ (artifacts artifacts' : List Artifact) name,
      (artifacts.filter fun a => a.name = name) = (artifacts'.filter fun a => a.name = name) →
        (resolveAll artifacts settings builtIns).value.get? name =
          (resolveAll artifacts' settings builtIns).value.get? name) ∧
    (∀ artifacts artifacts' : List Artifact,
      (∀ name, (artifacts.reverse.find? fun a => a.name = name) =
        artifacts'.reverse.find? fun a => a.name = name) →
          (resolveAll artifacts settings builtIns).value =
            (resolveAll artifacts' settings builtIns).value) ∧
    ∀ artifacts artifacts' : List Artifact, (artifacts.map (·.name)).Nodup →
      artifacts.Perm artifacts' →
        (resolveAll artifacts settings builtIns).value =
          (resolveAll artifacts' settings builtIns).value := by
  refine ⟨fun artifacts name => mem_names_resolveAll,
    fun artifacts name => get?_resolveAll_eq artifacts settings name,
    fun artifacts artifacts' name own => ?_,
    fun artifacts artifacts' same => value_resolveAll_congr settings same,
    fun artifacts artifacts' apart same => value_resolveAll_congr settings (last?_perm apart same)⟩
  rw [get?_resolveAll_eq, get?_resolveAll_eq, ← last?_filter artifacts, own, last?_filter]

/-- A token beside a vault whose bytecode is no hex text. -/
def mixedBuild : List Artifact := [⟨"Token", "00"⟩, ⟨"Vault", "zz"⟩]

/-- The token tells what it tells without the vault, and the vault has an entry. -/
theorem resolveAll_isolated_mixed :
    "Vault" ∈ (resolveAll mixedBuild .default .basic).value.names ∧
    (mixedBuild.map (·.name)).Nodup ∧
    (resolveAll mixedBuild .default .basic).value =
      (resolveAll mixedBuild.reverse .default .basic).value ∧
    (resolveAll mixedBuild .default .basic).value.get? "Token" =
      (resolveAll [⟨"Token", "00"⟩] .default .basic).value.get? "Token" := by
  obtain ⟨names, -, own, -, order⟩ := resolveAll_isolated .basic .default
  have apart : (mixedBuild.map (·.name)).Nodup := by decide
  exact ⟨(names _ _).2 ⟨⟨"Vault", "zz"⟩, by decide, rfl⟩, apart,
    order _ _ apart (List.reverse_perm _).symm, own _ _ _ rfl⟩

/-! ## The map beside the search -/

/-- **The map takes the last artifact of a name, the search the first.** They know the same
names. The entry of a name is what the artifact found under it tells exactly if the first
and the last artifact of this name tell the same; where no name is given twice, that is
so for every name. -/
theorem resolveAll_beside_get (builtIns : Evm.BuiltIns) (artifacts : List Artifact)
    (settings : ProbeSettings) :
    let map := (resolveAll artifacts settings builtIns).value
    let tells (a : Artifact) := (resolve none a.bytecode settings builtIns).value
    (∀ name, name ∈ map.names ↔ (get? artifacts name).isSome) ∧
    (∀ name, map.get? name = (get? artifacts.reverse name).map tells) ∧
    (∀ name, map.get? name = (get? artifacts name).map tells ↔
      ∀ first last, get? artifacts name = some first → get? artifacts.reverse name = some last →
        tells first = tells last) ∧
    ((artifacts.map (·.name)).Nodup → ∀ name,
      map.get? name = (get? artifacts name).map tells) := by
  intro map tells
  have entry (name : String) : map.get? name = (get? artifacts.reverse name).map tells :=
    get?_resolveAll_eq artifacts settings name
  refine ⟨fun name => ?_, entry, fun name => ?_, fun apart name => ?_⟩
  · rw [mem_names_resolveAll, isSome_get?_iff]
  · have known : (get? artifacts.reverse name).isSome = (get? artifacts name).isSome := by
      rw [Bool.eq_iff_iff, isSome_get?_iff, isSome_get?_iff]
      simp only [List.mem_reverse]
    rw [entry]
    cases first : get? artifacts name <;> cases last : get? artifacts.reverse name <;>
      simp [first, last, eq_comm] at known ⊢
  · rw [entry]
    exact congrArg _ (last?_eq_get? apart name)

/-- In a build of two contracts the vault's entry is that of the artifact found. -/
theorem resolveAll_beside_get_mixed :
    (mixedBuild.map (·.name)).Nodup ∧
    get? mixedBuild "Vault" = some ⟨"Vault", "zz"⟩ ∧
    (resolveAll mixedBuild .default .basic).value.get? "Vault" =
      some (resolve none "zz" .default .basic).value := by
  obtain ⟨-, -, -, found⟩ := resolveAll_beside_get .basic mixedBuild .default
  have apart : (mixedBuild.map (·.name)).Nodup := by decide
  exact ⟨apart, rfl, found apart "Vault"⟩

/-- A token that tells 2.0.0.0 when it is asked in the default way. -/
def toldToken : Artifact :=
  ⟨"Token", dispatcherText #v[0x54, 0x25, 0x5b, 0xe0] #v[2, 0, 0, 0]⟩

/-- The token, and another file for it without bytecode. -/
def twiceBuilt : List Artifact := [toldToken, ⟨"Token", ""⟩]

theorem value_extract_toldToken :
    (extract toldToken.bytecode .default builtIns).value = .ok ⟨2, 0, 0, 0⟩ :=
  value_extract_toldText builtIns 2 0 0 0

theorem value_resolve_nothing :
    (resolve none "" .default .basic).value = ⟨⟨1, 0, 0, 0⟩, .defaulted⟩ := by
  decide +kernel

/-- The search finds the token that tells 2.0.0.0, and the map says that the token tells
nothing. -/
theorem resolveAll_namesakes :
    get? twiceBuilt "Token" = some toldToken ∧
    (resolve none toldToken.bytecode .default .basic).value = ⟨⟨2, 0, 0, 0⟩, .extracted⟩ ∧
    (resolveAll twiceBuilt .default .basic).value.get? "Token" =
      some ⟨⟨1, 0, 0, 0⟩, .defaulted⟩ := by
  have last : last? twiceBuilt "Token" = some ⟨"Token", ""⟩ := rfl
  refine ⟨rfl, ?_, ?_⟩
  · rw [value_resolve, value_extract_toldToken]
  · rw [get?_resolveAll_eq, last, Option.map_some, value_resolve_nothing]

end ReleaseGate.Build
