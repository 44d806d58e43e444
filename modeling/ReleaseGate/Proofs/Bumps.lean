/-
# Proofs.Bumps — a bump raises one part

Bumps are kept part by part so that any combination can be read from a file.
A bump made from changes is simpler: it raises the most severe part that
changed, clears the parts below and keeps those above (`Version.raise`), and
the only way to fail is that this part cannot grow.

* `of_apply`: the bump of one part;
* `ofChanges_apply`: the bump of a set of changed parts.
-/
import ReleaseGate.Version.Bump

namespace ReleaseGate.Version

set_option autoImplicit false

/-- The largest number a part can hold. -/
def lastNumber : UInt64 := 18446744073709551615

/-- The version with one part more by one and every part below it at zero. -/
def raise (v : Version) : Part → Version
  | .storage => ⟨v.storage + 1, 0, 0, 0⟩
  | .major => ⟨v.storage, v.major + 1, 0, 0⟩
  | .minor => ⟨v.storage, v.major, v.minor + 1, 0⟩
  | .patch => ⟨v.storage, v.major, v.minor, v.patch + 1⟩

/-- The version after changes whose most severe part is given; without changes
it stays. -/
def after (v : Version) (changed : Option Part) : Version := changed.elim v v.raise

/-- Whether the part that has to grow holds the largest number. -/
def IsExhausted (v : Version) (changed : Option Part) : Prop :=
  ∃ part, changed = some part ∧ v.part part = lastNumber

instance (v : Version) (changed : Option Part) : Decidable (v.IsExhausted changed) :=
  match changed with
  | none => isFalse fun ⟨_, h, _⟩ => nomatch h
  | some part => decidable_of_iff (v.part part = lastNumber)
      ⟨fun h => ⟨part, rfl, h⟩, fun ⟨_, h, last⟩ => Option.some.inj h ▸ last⟩

theorem increment_apply (n : UInt64) :
    Delta.increment.apply n =
      if n = lastNumber then .error (.exhausted lastNumber) else .ok (n + 1) := by
  have last_iff : ¬ n.toNat + 1 < UInt64.size ↔ n = lastNumber := by
    have bound := n.toNat_lt
    rw [← UInt64.toNat_inj]
    simp only [UInt64.size, lastNumber, UInt64.reduceToNat]
    omega
  unfold Delta.apply
  by_cases last : n = lastNumber
  · rw [if_neg (last_iff.2 last), if_pos last, last]
  · rw [if_pos (Decidable.not_not.1 fun h => last (last_iff.1 h)), if_neg last]

namespace Bump

/-- The bump of one part fails exactly if the part cannot grow. -/
theorem of_apply (part : Part) (v : Version) :
    (Bump.of part).apply v =
      if v.part part = lastNumber then .error (.exhausted lastNumber) else .ok (v.raise part) := by
  by_cases last : v.part part = lastNumber
  · rw [if_pos last]
    cases part <;> simp only [Version.part] at last <;>
      simp only [Bump.of, apply, increment_apply, if_pos last] <;> rfl
  · rw [if_neg last]
    cases part <;> simp only [Version.part] at last <;>
      simp only [Bump.of, apply, increment_apply, if_neg last] <;> rfl

/-- The bump of a set of changed parts raises the most severe of them. -/
theorem ofChanges_apply (storage major minor patch : Bool) (v : Version) :
    (ofChanges storage major minor patch).apply v =
      if v.IsExhausted (trigger storage major minor patch) then .error (.exhausted lastNumber)
      else .ok (v.after (trigger storage major minor patch)) := by
  unfold ofChanges
  cases trigger storage major minor patch with
  | none => rfl
  | some part =>
      simp only [of_apply, IsExhausted, after, Option.elim, Option.some.injEq, exists_eq_left']

end Bump

end ReleaseGate.Version
