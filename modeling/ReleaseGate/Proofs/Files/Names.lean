/-
# Proofs.Files.Names — endings of names, and names in a directory

The ending of a name is what stands behind its last point, if something stands
before that point (`hasExtension_iff`). A path in a directory is the name behind a front that
the directory alone decides, so paths are ordered as their names are
(`join_lt_join_iff`).
-/
import Mathlib.Data.String.Basic
import ReleaseGate.Files
import ReleaseGate.Proofs.Text.Runs

namespace ReleaseGate.Files

set_option autoImplicit false

/-! ## Endings -/

theorem drop_length_takeWhile {α : Type} (p : α → Bool) (items : List α) :
    items.drop (items.takeWhile p).length = items.dropWhile p :=
  (congrArg (List.drop _) List.takeWhile_append_dropWhile.symm).trans List.drop_left

/-- A name has an ending without points exactly if something and a point stand before it. -/
theorem hasExtension_iff {extension name : String} (used : extension ≠ "")
    (plain : '.' ∉ extension.toList) :
    hasExtension extension name ↔ ∃ stem, stem ≠ "" ∧ name = stem ++ "." ++ extension := by
  unfold hasExtension
  dsimp only
  rw [drop_length_takeWhile]
  constructor
  · intro has
    split at has
    · next c before front =>
        rw [Bool.and_eq_true, decide_eq_true_eq] at has
        have whole := List.takeWhile_append_dropWhile (p := (· != '.')) (l := name.toList.reverse)
        rw [front] at whole
        refine ⟨String.ofList (before.reverse ++ [c]), by simp [String.ext_iff], ?_⟩
        rw [← has.1, ← String.toList_inj]
        simpa using (congrArg List.reverse whole).symm
    · cases has
  · rintro ⟨stem, named, rfl⟩
    have run : ∀ c ∈ extension.toList.reverse, (c != '.') = true := fun c member =>
      bne_iff_ne.2 fun point => plain (point ▸ List.mem_reverse.1 member)
    have turned : (stem ++ "." ++ extension).toList.reverse =
        extension.toList.reverse ++ '.' :: stem.toList.reverse := by simp
    have ends : ∀ c ∈ ('.' :: stem.toList.reverse).head?, (c != '.') = false := by simp
    rw [turned, Text.takeWhile_run run ends, Text.dropWhile_run run ends]
    obtain ⟨last, before, front⟩ := List.exists_cons_of_ne_nil
      (fun none_left => named (by simpa using none_left) : stem.toList.reverse ≠ [])
    -- `..` ends in a point, so it has no ending with a character in it
    have other : stem ++ "." ++ extension ≠ ".." := by
      intro dots
      have sizes := congrArg String.length dots
      have one := mt String.length_eq_zero_iff.1 named
      have two := mt String.length_eq_zero_iff.1 used
      simp only [String.length_append] at sizes
      change _ + 1 + _ = 2 at sizes
      omega
    simpa [front] using other

/-! ## Paths -/

theorem append_lt_append_iff (front a b : String) : front ++ a < front ++ b ↔ a < b := by
  rw [String.lt_iff_toList_lt, String.lt_iff_toList_lt, String.toList_append, String.toList_append]
  induction front.toList with
  | nil => rfl
  | cons c rest ih => simpa [List.cons_lt_cons_iff] using ih

theorem exists_front (directory : String) :
    ∃ front, ∀ name, join directory name = front ++ name := by
  unfold join
  split
  · exact ⟨"", fun name => by simp⟩
  · split
    · exact ⟨directory, fun name => rfl⟩
    · exact ⟨directory ++ "/", fun name => rfl⟩

theorem join_lt_join_iff {directory a b : String} :
    join directory a < join directory b ↔ a < b := by
  obtain ⟨front, same⟩ := exists_front directory
  rw [same, same, append_lt_append_iff]

end ReleaseGate.Files
