/-
# Proofs.Sorting — a diff may be sorted whole or part by part

Each change of a diff goes to the bucket of its category and to no other, so the three
code buckets hold the changes of the diff, each as often as the diff does
(`perm_sortedChanges`). Where a diff goes on, each bucket goes on with the records that
the rest has for it (`ofDiff_append`).

How far the bump moves a version is told by the most severe bucket that is in use
(`severity_bumpOf_le_iff`). A bucket of the joined diff is in use if it is in use in one
of the two, so the more severe of their bumps is the bump of both.

* `ofDiff_sorts`: what sorting makes of one diff, and of two.
-/
import Mathlib.Data.List.Basic
import Mathlib.Data.Nat.Basic
import ReleaseGate.Proofs.Severity

namespace ReleaseGate

set_option autoImplicit false

open Version (Part)

/-! ## How severe a bump is -/

/-- How severe the part is that a bump raises; zero if it raises none. -/
def Version.Bump.severity (b : Version.Bump) : Nat := (b.grows.map Part.severity).getD 0

theorem Version.Bump.severity_of (part : Part) : (Bump.of part).severity = part.severity := by
  cases part <;> rfl

theorem Version.Bump.severity_unchanged : unchanged.severity = 0 := rfl

namespace Report

/-- A bump is as severe as the most severe part that its buckets touch. -/
theorem severity_bumpOf_le_iff (b : Buckets) (bound : Nat) :
    (bumpOf b).severity ≤ bound ↔ ∀ part, b.touches part → part.severity ≤ bound := by
  rcases bumpOf_cases b with ⟨empty, same⟩ | ⟨-, raised, same⟩
  · rw [same, Version.Bump.severity_unchanged]
    have calm := b.isEmpty_iff_touches.1 empty
    exact ⟨fun _ part used => by simp [calm part] at used, fun _ => Nat.zero_le _⟩
  · have raises : (bumpOf b).delta raised = .increment := by
      rw [same, Version.Bump.of_delta_iff]
    obtain ⟨used, worst⟩ := (bumpOf_delta_iff b raised).1 raises
    rw [same, Version.Bump.severity_of]
    exact ⟨fun below part touched => Nat.le_trans (worst part touched) below,
      fun below => below raised used⟩

end Report

/-! ## Joining -/

/-- One diff behind the other. -/
instance : Append Diff := ⟨fun d e => ⟨d.changes ++ e.changes, d.layouts ++ e.layouts⟩⟩

namespace Buckets

/-- Each bucket behind that of its kind. -/
instance : Append Buckets :=
  ⟨fun b c => ⟨b.storage ++ c.storage, b.major ++ c.major, b.minor ++ c.minor, b.patch ++ c.patch⟩⟩

theorem ofDiff_append (d e : Diff) (policy : Policy) :
    ofDiff (d ++ e) policy = ofDiff d policy ++ ofDiff e policy := by
  have changes : (d ++ e).changes = d.changes ++ e.changes := rfl
  have layouts : (d ++ e).layouts = d.layouts ++ e.layouts := rfl
  rw [ofDiff_eq, changes, layouts]
  simp only [List.filter_append]
  rw [ofDiff_eq, ofDiff_eq]
  rfl

theorem touches_append (b c : Buckets) (part : Part) :
    (b ++ c).touches part = (b.touches part || c.touches part) := by
  have either {α : Type} (front back : List α) :
      (!(front ++ back).isEmpty) = (!front.isEmpty || !back.isEmpty) := by
    cases front <;> simp
  cases part with
  | storage => exact either b.storage c.storage
  | major => exact either b.major c.major
  | minor => exact either b.minor c.minor
  | patch => exact either b.patch c.patch

end Buckets

/-- Joined buckets need the more severe of the two bumps. -/
theorem Report.severity_bumpOf_append (b c : Buckets) :
    (bumpOf (b ++ c)).severity = max (bumpOf b).severity (bumpOf c).severity := by
  refine eq_of_forall_ge_iff fun bound => ?_
  rw [Nat.max_le, severity_bumpOf_le_iff, severity_bumpOf_le_iff, severity_bumpOf_le_iff]
  simp only [Buckets.touches_append, Bool.or_eq_true, or_imp, forall_and]

/-! ## Sorting -/

namespace Buckets

/-- The bucket for the changes of a category. -/
def changesOf (b : Buckets) : Category → List Change
  | .major => b.major
  | .minor => b.minor
  | .patch => b.patch

theorem changesOf_ofDiff (d : Diff) (policy : Policy) (category : Category) :
    (ofDiff d policy).changesOf category = d.changes.filter fun c => policy c = category := by
  rw [ofDiff_eq]
  cases category <;> rfl

/-- Changes sorted by category are the same changes, each as often. -/
theorem perm_sortedChanges (changes : List Change) (policy : Policy) :
    ((changes.filter fun c => policy c = .major) ++ (changes.filter fun c => policy c = .minor) ++
      changes.filter fun c => policy c = .patch).Perm changes := by
  induction changes with
  | nil => exact .nil
  | cons change rest ih =>
      -- The first change opens its own bucket; what stands before it is let past.
      have moved (front back : List Change) :
          (front ++ change :: back).Perm (change :: (front ++ back)) := List.perm_middle
      rw [List.append_assoc] at ih
      cases sent : policy change with
      | major => simpa [sent] using ih
      | minor => simpa [sent] using (moved _ _).trans (.cons change ih)
      | patch =>
          rw [← List.append_assoc] at ih
          simpa [sent] using (moved (_ ++ _) _).trans (.cons change ih)

theorem perm_code_ofDiff (d : Diff) (policy : Policy) :
    ((ofDiff d policy).major ++ (ofDiff d policy).minor ++ (ofDiff d policy).patch).Perm
      d.changes := by
  rw [ofDiff_eq]
  exact perm_sortedChanges d.changes policy

open DetailedReport (create)

/-- **Sorting takes a diff apart and loses nothing.** The storage bucket is the run of the
layouts that cannot be replaced and holds no other; the bucket of a category is the run of
the changes that the policy gives this category, so no change is in two of them; together
they hold the changes of the diff, each as often as the diff does. A diff that goes on
with another one sorts into the joined buckets of both, and its bump is as severe as the
more severe of theirs. -/
theorem ofDiff_sorts (d e : Diff) (policy : Policy) :
    (ofDiff d policy).storage = (d.layouts.filter fun l => !l.compatible) ∧
    (∀ layout ∈ (ofDiff d policy).storage, layout.compatible = false) ∧
    (∀ category, (ofDiff d policy).changesOf category =
      d.changes.filter fun c => policy c = category) ∧
    (∀ category other, category ≠ other →
      List.Disjoint ((ofDiff d policy).changesOf category) ((ofDiff d policy).changesOf other)) ∧
    ((ofDiff d policy).major ++ (ofDiff d policy).minor ++ (ofDiff d policy).patch).Perm
      d.changes ∧
    (ofDiff d policy).major.length + (ofDiff d policy).minor.length +
      (ofDiff d policy).patch.length = d.changes.length ∧
    ofDiff (d ++ e) policy = ofDiff d policy ++ ofDiff e policy ∧
    (create (d ++ e) policy).value.whole.bump.severity =
      max (create d policy).value.whole.bump.severity
        (create e policy).value.whole.bump.severity := by
  have storage : (ofDiff d policy).storage = d.layouts.filter fun l => !l.compatible := by
    rw [ofDiff_eq]
  have code := perm_code_ofDiff d policy
  refine ⟨storage, fun layout member => ?_, changesOf_ofDiff d policy,
    fun category other differ change here there => ?_, code, ?_, ofDiff_append d e policy, ?_⟩
  · rw [storage, List.mem_filter, Bool.not_eq_true'] at member
    exact member.2
  · rw [changesOf_ofDiff, List.mem_filter, decide_eq_true_eq] at here there
    exact differ (here.2.symm.trans there.2)
  · simpa [Nat.add_assoc] using code.length_eq
  · show (Report.bumpOf (ofDiff (d ++ e) policy)).severity = _
    rw [ofDiff_append, Report.severity_bumpOf_append]
    rfl

/-- A removal told twice, a layout that can be replaced and one that cannot. -/
def doubledDiff : Diff where
  changes := [⟨"Token", "removed", []⟩, ⟨"Vault", "body", []⟩, ⟨"Token", "removed", []⟩]
  layouts := [⟨"Token", true⟩, ⟨"Vault", false⟩]

open DetailedReport (tokenDiff removalPolicy)

/-- What is told twice is in its bucket twice. Behind a diff that asks for a major bump the
broken layout counts. -/
theorem ofDiff_sorts_doubled :
    ⟨"Vault", false⟩ ∈ (ofDiff doubledDiff removalPolicy).storage ∧
    ⟨"Token", true⟩ ∉ (ofDiff doubledDiff removalPolicy).storage ∧
    (ofDiff doubledDiff removalPolicy).changesOf .major =
      [⟨"Token", "removed", []⟩, ⟨"Token", "removed", []⟩] ∧
    Category.major ≠ .patch ∧
    List.Disjoint ((ofDiff doubledDiff removalPolicy).changesOf .major)
      ((ofDiff doubledDiff removalPolicy).changesOf .patch) ∧
    (create tokenDiff removalPolicy).value.whole.bump.severity = 3 ∧
    (create (tokenDiff ++ doubledDiff) removalPolicy).value.whole.bump.severity = 4 := by
  obtain ⟨storage, breaks, buckets, apart, -⟩ := ofDiff_sorts doubledDiff tokenDiff removalPolicy
  obtain ⟨-, -, -, -, -, -, -, worst⟩ := ofDiff_sorts tokenDiff doubledDiff removalPolicy
  have vault : ⟨"Vault", false⟩ ∈ (ofDiff doubledDiff removalPolicy).storage := by
    rw [storage]
    exact List.mem_singleton.2 rfl
  have token : ⟨"Token", true⟩ ∉ (ofDiff doubledDiff removalPolicy).storage :=
    fun member => absurd (breaks _ member) (by decide)
  have differ : Category.major ≠ .patch := nofun
  exact ⟨vault, token, buckets .major, differ, apart .major .patch differ, rfl, worst⟩

end Buckets

end ReleaseGate
