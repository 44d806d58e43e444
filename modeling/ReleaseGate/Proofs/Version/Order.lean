/-
# Proofs.Version.Order — versions are ordered as the lists of their parts

A version is compared part by part, the most severe part first. That is the
order of lists (`before_iff_parts`, `atMost_iff_parts`), so what holds of lists of
numbers holds of versions: the order is transitive and total, and of two versions
that differ one comes before the other.
-/
import ReleaseGate.Version

namespace ReleaseGate.Version

set_option autoImplicit false

/-- Whether `v` comes before `w`. -/
def Before (v w : Version) : Prop := v.compare w = .lt

instance (v w : Version) : Decidable (v.Before w) :=
  inferInstanceAs (Decidable (v.compare w = .lt))

theorem parts_inj {v w : Version} : v.parts = w.parts ↔ v = w := by
  cases v
  cases w
  simp [parts]

theorem before_iff_parts {v w : Version} : v.Before w ↔ v.parts < w.parts := by
  simp only [Before, compare, parts, Ordering.then_eq_lt, Std.compare_eq_lt,
    Std.LawfulEqOrd.compare_eq_iff_eq, List.cons_lt_cons_iff, List.lt_irrefl, and_false, or_false]

theorem atMost_iff_parts {v w : Version} : v.atMost w ↔ v.parts ≤ w.parts := by
  simp only [atMost, compare, parts, Ordering.isLE_then_iff_or, Std.compare_eq_lt,
    Std.LawfulEqOrd.compare_eq_iff_eq, Std.isLE_compare, List.cons_le_cons_iff, List.le_refl,
    and_true, UInt64.le_iff_lt_or_eq]

theorem atMost_refl (v : Version) : v.atMost v := atMost_iff_parts.2 (List.le_refl _)

theorem atMost_trans {u v w : Version} (first : u.atMost v) (second : v.atMost w) : u.atMost w :=
  atMost_iff_parts.2 (List.le_trans (atMost_iff_parts.1 first) (atMost_iff_parts.1 second))

theorem atMost_iff_before_or_eq {v w : Version} : v.atMost w ↔ v.Before w ∨ v = w := by
  rw [atMost_iff_parts, before_iff_parts, List.le_iff_lt_or_eq, parts_inj]

namespace Before

variable {u v w : Version}

theorem atMost (before : v.Before w) : v.atMost w := atMost_iff_before_or_eq.2 (.inl before)

theorem ne (before : v.Before w) : v ≠ w := by
  rintro rfl
  exact List.lt_irrefl _ (before_iff_parts.1 before)

theorem of_atMost_of_ne (least : v.atMost w) (differ : v ≠ w) : v.Before w :=
  (atMost_iff_before_or_eq.1 least).resolve_right differ

theorem trans_atMost (first : u.Before v) (second : v.atMost w) : u.Before w :=
  before_iff_parts.2
    (Std.lt_of_lt_of_le (before_iff_parts.1 first) (atMost_iff_parts.1 second))

end Before

theorem atMost_trans_before {u v w : Version} (first : u.atMost v) (second : v.Before w) :
    u.Before w :=
  before_iff_parts.2
    (List.lt_of_le_of_lt (atMost_iff_parts.1 first) (before_iff_parts.1 second))

end ReleaseGate.Version
