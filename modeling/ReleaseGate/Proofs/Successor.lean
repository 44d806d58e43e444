/-
# Proofs.Successor — a bump leads to the next version, and releases never go back

A bump for changes whose most severe part is `t` looks at the parts down to `t`
only: of all versions that are ahead of `v` there it leads to the first
(`upTo_lt_raise`, `raise_atMost_of_upTo_lt`). The rest follows from that without a
look at single parts: it leads on, it leads further for a more severe part
(`raise_before_raise`), and it keeps versions in order (`raise_mono`).

* `bump_least_successor`: what one bump does to one version, to two versions, beside
  another bump, and along a history of releases of any length.
-/
import ReleaseGate.Proofs.Severity
import ReleaseGate.Proofs.Version.Order

namespace ReleaseGate.Version

set_option autoImplicit false

variable {u v w : Version} {s t : Part}

/-! ## The parts down to one -/

/-- The parts of a version from the most severe down to a given one. -/
def upTo (v : Version) : Part → List UInt64
  | .storage => [v.storage]
  | .major => [v.storage, v.major]
  | .minor => [v.storage, v.major, v.minor]
  | .patch => [v.storage, v.major, v.minor, v.patch]

/-- Versions in order are in order down to any part. -/
theorem upTo_le_of_atMost (least : v.atMost w) (t : Part) : v.upTo t ≤ w.upTo t := by
  rw [atMost_iff_parts] at least
  cases t <;>
    simp only [upTo, parts, List.cons_le_cons_iff, List.le_refl, and_true] at least ⊢ <;>
    grind

/-- What is ahead down to one part is ahead down to every less severe part. -/
theorem upTo_lt_of_severity (less : t.severity ≤ s.severity) (ahead : v.upTo s < w.upTo s) :
    v.upTo t < w.upTo t := by
  cases s <;> cases t <;>
    simp only [upTo, List.cons_lt_cons_iff, List.lt_irrefl, and_false, or_false] at ahead ⊢ <;>
    simp only [Part.severity] at less <;>
    grind

/-- What is ahead down to some part is ahead as a whole. -/
theorem before_of_upTo_lt (ahead : v.upTo t < w.upTo t) : v.Before w :=
  before_iff_parts.2 (upTo_lt_of_severity (t := .patch) (by cases t <;> decide) ahead)

/-! ## The next version in a part -/

theorem part_raise (v : Version) (t : Part) : (v.raise t).part t = v.part t + 1 := by
  cases t <;> rfl

theorem part_raise_of_severity (v : Version) (more : t.severity < s.severity) :
    (v.raise t).part s = v.part s := by
  cases s <;> cases t <;> first | rfl | simp [Part.severity] at more

theorem upTo_lt_raise (room : v.part t ≠ lastNumber) : v.upTo t < (v.raise t).upTo t := by
  have later := lt_succ_of_ne_last room
  cases t <;> simpa [upTo, raise, List.cons_lt_cons_iff, Version.part] using later

theorem succ_le_of_lt {m n : UInt64} (less : m < n) : m + 1 ≤ n := by
  have bound := n.toNat_lt
  rw [UInt64.lt_iff_toNat_lt] at less
  rw [UInt64.le_iff_toNat_le, UInt64.toNat_add, UInt64.toNat_one]
  omega

/-- Nothing that is ahead down to a part comes before the version raised there. -/
theorem raise_atMost_of_upTo_lt (ahead : v.upTo t < u.upTo t) : (v.raise t).atMost u := by
  have next {m n : UInt64} (less : m < n) : m + 1 < n ∨ m + 1 = n :=
    UInt64.le_iff_lt_or_eq.1 (succ_le_of_lt less)
  have cleared (n : UInt64) : 0 < n ∨ 0 = n := UInt64.le_iff_lt_or_eq.1 UInt64.zero_le
  rw [atMost_iff]
  cases t <;>
    simp only [upTo, raise, List.cons_lt_cons_iff, List.lt_irrefl, and_false, or_false]
      at ahead ⊢
  case storage => grind [UInt64.zero_le]
  case major => grind [UInt64.zero_le]
  case minor => grind [UInt64.zero_le]
  case patch => grind [succ_le_of_lt]

theorem before_raise (room : v.part t ≠ lastNumber) : v.Before (v.raise t) :=
  before_of_upTo_lt (upTo_lt_raise room)

/-- Raising a more severe part leads further. -/
theorem raise_before_raise (more : t.severity < s.severity) (room : v.part s ≠ lastNumber) :
    (v.raise t).Before (v.raise s) := by
  have ahead : v.upTo t < (v.raise s).upTo t :=
    upTo_lt_of_severity (Nat.le_of_lt more) (upTo_lt_raise room)
  refine .of_atMost_of_ne (raise_atMost_of_upTo_lt ahead) fun same => ?_
  -- The more severe part is kept on one side and grows on the other.
  have stuck : v.part s + 1 = v.part s :=
    calc v.part s + 1 = (v.raise s).part s := (part_raise v s).symm
      _ = (v.raise t).part s := by rw [same]
      _ = v.part s := part_raise_of_severity v more
  have grown := lt_succ_of_ne_last room
  rw [stuck] at grown
  exact UInt64.lt_irrefl _ grown

/-- Raising one part keeps versions in order. -/
theorem raise_mono (least : v.atMost w) (room : w.part t ≠ lastNumber) :
    (v.raise t).atMost (w.raise t) :=
  raise_atMost_of_upTo_lt (List.lt_of_le_of_lt (upTo_le_of_atMost least t) (upTo_lt_raise room))

/-! ## Sets of changed parts -/

/-- The bump for a set of changed parts. -/
def Bump.ofParts (changed : Part → Bool) : Bump :=
  ofChanges (changed .storage) (changed .major) (changed .minor) (changed .patch)

/-- Whether `t` is changed and no part more severe is. -/
def IsFirst (changed : Part → Bool) (t : Part) : Prop :=
  changed t ∧ ∀ s, t.severity < s.severity → changed s = false

section Changed

variable {changed : Part → Bool}

/-- One of the parts that changed is the first, if any did. -/
theorem exists_isFirst_or (changed : Part → Bool) :
    (∃ t, IsFirst changed t) ∨ ∀ t, changed t = false := by
  by_cases storage : changed .storage
  · exact .inl ⟨.storage, storage, fun s more => by cases s <;> simp [Part.severity] at more⟩
  by_cases major : changed .major
  · exact .inl ⟨.major, major, fun s more => by cases s <;> simp_all [Part.severity]⟩
  by_cases minor : changed .minor
  · exact .inl ⟨.minor, minor, fun s more => by cases s <;> simp_all [Part.severity]⟩
  by_cases patch : changed .patch
  · exact .inl ⟨.patch, patch, fun s more => by cases s <;> simp_all [Part.severity]⟩
  · exact .inr fun t => by cases t <;> simp [*]

theorem IsFirst.ofParts_eq (first : IsFirst changed t) : Bump.ofParts changed = .of t := by
  obtain ⟨here, above⟩ := first
  have storage := above .storage
  have major := above .major
  have minor := above .minor
  cases t <;>
    simp only [Part.severity, Nat.reduceLT, forall_const] at storage major minor <;>
    simp [Bump.ofParts, Bump.ofChanges, Bump.trigger, *]

theorem ofParts_eq_unchanged (calm : ∀ t, changed t = false) :
    Bump.ofParts changed = .unchanged := by
  simp [Bump.ofParts, Bump.ofChanges, Bump.trigger, calm]

/-- A bump fails exactly if the first part that changed cannot grow, and otherwise
raises it. -/
theorem IsFirst.apply (first : IsFirst changed t) (v : Version) :
    (Bump.ofParts changed).apply v =
      if v.part t = lastNumber then .error (.exhausted lastNumber) else .ok (v.raise t) := by
  rw [first.ofParts_eq, Bump.of_apply]

theorem IsFirst.apply_eq_ok_iff (first : IsFirst changed t) :
    (Bump.ofParts changed).apply v = .ok w ↔ v.part t ≠ lastNumber ∧ w = v.raise t := by
  rw [first.apply]
  by_cases last : v.part t = lastNumber <;> simp [last, eq_comm]

theorem IsFirst.apply_eq_error_iff (first : IsFirst changed t) {fault : Fault} :
    (Bump.ofParts changed).apply v = .error fault ↔
      v.part t = lastNumber ∧ fault = .exhausted lastNumber := by
  rw [first.apply]
  by_cases last : v.part t = lastNumber <;> simp [last, eq_comm]

theorem apply_of_calm (calm : ∀ t, changed t = false) (v : Version) :
    (Bump.ofParts changed).apply v = .ok v := by
  rw [ofParts_eq_unchanged calm]
  rfl

/-- What a bump leads to comes no earlier. -/
theorem atMost_of_apply (bumped : (Bump.ofParts changed).apply v = .ok w) : v.atMost w := by
  rcases exists_isFirst_or changed with ⟨t, first⟩ | calm
  · obtain ⟨room, rfl⟩ := first.apply_eq_ok_iff.1 bumped
    exact (before_raise room).atMost
  · cases (apply_of_calm calm v).symm.trans bumped
    exact atMost_refl v

/-- It comes later if any part changed. -/
theorem before_of_apply (bumped : (Bump.ofParts changed).apply v = .ok w) (here : changed s) :
    v.Before w := by
  rcases exists_isFirst_or changed with ⟨t, first⟩ | calm
  · obtain ⟨room, rfl⟩ := first.apply_eq_ok_iff.1 bumped
    exact before_raise room
  · rw [calm s] at here
    cases here

/-- One bump keeps versions in order. -/
theorem apply_mono {v' w' : Version} (least : v.atMost v')
    (bumped : (Bump.ofParts changed).apply v = .ok w)
    (bumped' : (Bump.ofParts changed).apply v' = .ok w') : w.atMost w' := by
  rcases exists_isFirst_or changed with ⟨t, first⟩ | calm
  · obtain ⟨-, rfl⟩ := first.apply_eq_ok_iff.1 bumped
    obtain ⟨room, rfl⟩ := first.apply_eq_ok_iff.1 bumped'
    exact raise_mono least room
  · cases (apply_of_calm calm v).symm.trans bumped
    cases (apply_of_calm calm v').symm.trans bumped'
    exact least

end Changed

/-! ## Histories of releases -/

/-- Releases one after the other: the version of each is that of the one before it,
bumped for what changed between them. -/
structure History where
  /-- How many releases follow the first. -/
  length : Nat
  version : Nat → Version
  changed : Nat → Part → Bool
  bumped : ∀ n < length, (Bump.ofParts (changed n)).apply (version n) = .ok (version (n + 1))

namespace History

variable {history : History} {i j k : Nat}

theorem atMost_of_le (before : i ≤ j) (within : j ≤ history.length) :
    (history.version i).atMost (history.version j) := by
  induction before with
  | refl => exact atMost_refl _
  | step _ ih =>
      exact atMost_trans (ih (Nat.le_of_succ_le within)) (atMost_of_apply (history.bumped _ within))

/-- Releases with a change between them tell different versions. -/
theorem before_of_changed (after : i ≤ k) (before : k < j) (within : j ≤ history.length)
    (touched : history.changed k s) : (history.version i).Before (history.version j) := by
  have step : (history.version k).Before (history.version (k + 1)) :=
    before_of_apply (history.bumped k (Nat.lt_of_lt_of_le before within)) touched
  have reached : (history.version i).Before (history.version (k + 1)) :=
    atMost_trans_before (atMost_of_le after (by omega)) step
  exact reached.trans_atMost (atMost_of_le before within)

end History

/-- **A bump leads to the least version that its changes allow, and releases never
go back.** With `t` the first part that changed, a bump fails exactly if `t` holds the
largest number. Otherwise it leads to the least of all versions that are ahead down
to `t`, which keeps the parts above `t` and comes later. Without changes it leads
nowhere. From one version the bump of a more severe part leads further, and the same
bump keeps versions in order. In a history of releases versions never decrease, and
two releases with a change between them differ. -/
theorem bump_least_successor :
    (∀ changed t, IsFirst changed t → ∀ v,
      (∀ fault, (Bump.ofParts changed).apply v = .error fault ↔
        v.part t = lastNumber ∧ fault = .exhausted lastNumber) ∧
      ∀ w, (Bump.ofParts changed).apply v = .ok w →
        v.upTo t < w.upTo t ∧ (∀ u, v.upTo t < u.upTo t → w.atMost u) ∧
        (∀ s, t.severity < s.severity → w.part s = v.part s) ∧ v.Before w) ∧
    (∀ changed, (∀ t, changed t = false) → ∀ v, (Bump.ofParts changed).apply v = .ok v) ∧
    (∀ changed changed' s t, IsFirst changed s → IsFirst changed' t → t.severity < s.severity →
      ∀ v w w', (Bump.ofParts changed).apply v = .ok w →
        (Bump.ofParts changed').apply v = .ok w' → w'.Before w) ∧
    (∀ changed v v', v.atMost v' → ∀ w w', (Bump.ofParts changed).apply v = .ok w →
      (Bump.ofParts changed).apply v' = .ok w' → w.atMost w') ∧
    ∀ (history : History) (i j : Nat), i ≤ j → j ≤ history.length →
      (history.version i).atMost (history.version j) ∧
        ((∃ k part, i ≤ k ∧ k < j ∧ history.changed k part) →
          history.version i ≠ history.version j) := by
  refine ⟨?one, fun changed calm v => apply_of_calm calm v, ?two, ?order, ?history⟩
  case one =>
    intro changed t first v
    refine ⟨fun fault => first.apply_eq_error_iff, fun w bumped => ?_⟩
    obtain ⟨room, rfl⟩ := first.apply_eq_ok_iff.1 bumped
    exact ⟨upTo_lt_raise room, fun u ahead => raise_atMost_of_upTo_lt ahead,
      fun s more => part_raise_of_severity v more, before_raise room⟩
  case two =>
    intro changed changed' s t first first' more v w w' bumped bumped'
    obtain ⟨room, rfl⟩ := first.apply_eq_ok_iff.1 bumped
    obtain ⟨-, rfl⟩ := first'.apply_eq_ok_iff.1 bumped'
    exact raise_before_raise more room
  case order =>
    intro changed v v' least w w' bumped bumped'
    exact apply_mono least bumped bumped'
  case history =>
    rintro history i j before within
    refine ⟨History.atMost_of_le before within, ?_⟩
    rintro ⟨k, part, after, here, touched⟩
    exact (History.before_of_changed after here within touched).ne

/-- A minor release, one without changes, and one that breaks the layout. -/
def threeReleases : History where
  length := 3
  version
    | 0 => ⟨2, 7, 9, 1⟩
    | 1 | 2 => ⟨2, 7, 10, 0⟩
    | _ => ⟨3, 0, 0, 0⟩
  changed
    | 0 => fun part => part = .minor ∨ part = .patch
    | 1 => fun _ => false
    | _ => fun part => part = .storage
  bumped n within := by
    match n, within with
    | 0, _ | 1, _ | 2, _ => rfl

theorem bump_least_successor_releases :
    let changed : Part → Bool := fun part => part = .minor ∨ part = .patch
    IsFirst changed .minor ∧
    (Bump.ofParts changed).apply ⟨2, 7, 9, 1⟩ = .ok ⟨2, 7, 10, 0⟩ ∧
    (∀ u : Version, upTo ⟨2, 7, 9, 1⟩ .minor < u.upTo .minor → atMost ⟨2, 7, 10, 0⟩ u) ∧
    (Bump.ofParts changed).apply ⟨2, 7, lastNumber, 1⟩ = .error (.exhausted lastNumber) ∧
    threeReleases.version 0 ≠ threeReleases.version 3 := by
  intro changed
  obtain ⟨one, -, -, -, along⟩ := bump_least_successor
  have first : IsFirst changed .minor :=
    ⟨rfl, fun s more => by cases s <;> first | rfl | simp [Part.severity] at more⟩
  have bumped : (Bump.ofParts changed).apply ⟨2, 7, 9, 1⟩ = .ok ⟨2, 7, 10, 0⟩ := rfl
  exact ⟨first, bumped, ((one changed .minor first _).2 _ bumped).2.1,
    ((one changed .minor first ⟨2, 7, lastNumber, 1⟩).1 _).2 ⟨rfl, rfl⟩,
    (along threeReleases 0 3 (by decide) (by decide)).2 ⟨2, .storage, by decide, by decide, rfl⟩⟩

end ReleaseGate.Version
