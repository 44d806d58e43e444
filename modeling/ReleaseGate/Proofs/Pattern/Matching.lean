/-
# Proofs.Pattern.Matching — places reached and matches there are

An expression is matched by moving a set of places: all at once, no more often than
there are places, and no further once nothing moves. What an expression means has
nothing of this: `Expr.links` says from which place of a text a match leads to which,
part by part, and of a repetition only that some number of matches in its bounds
follow each other. `matchesIn_iff` says that both are the same, for every expression
and every text.

A match never leads back. So of more repetitions than there are places some one stays
where it is, and may be left out or be made once more (`Steps.succ_iff`): that is why
`Subject.enough` moves are enough.
-/
import Mathlib.Data.List.Basic
import Mathlib.Logic.Function.Iterate
import ReleaseGate.Pattern.Matching

namespace ReleaseGate.Pattern

set_option autoImplicit false

/-! ## Steps of a relation -/

/-- So many steps of a relation, one after the other. -/
def Steps (R : Nat → Nat → Prop) : Nat → Nat → Nat → Prop
  | 0, i, j => i = j
  | n + 1, i, k => ∃ j, R i j ∧ Steps R n j k

namespace Steps

variable {R : Nat → Nat → Prop}

theorem add_iff {m n i k : Nat} : Steps R (m + n) i k ↔ ∃ j, Steps R m i j ∧ Steps R n j k := by
  induction m generalizing i with
  | zero => simp [Steps]
  | succ m ih =>
      rw [Nat.succ_add]
      simp only [Steps, ih]
      constructor
      · rintro ⟨next, step, j, front, back⟩
        exact ⟨j, ⟨next, step, front⟩, back⟩
      · rintro ⟨j, ⟨next, step, front⟩, back⟩
        exact ⟨next, step, j, front, back⟩

/-- Steps of which each may also be left out are fewer steps. -/
theorem maybe_iff {n i k : Nat} :
    Steps (fun i j => i = j ∨ R i j) n i k ↔ ∃ m ≤ n, Steps R m i k := by
  induction n generalizing i with
  | zero => simp [Steps]
  | succ n ih =>
      simp only [Steps, ih]
      constructor
      · rintro ⟨j, rfl | step, m, fewer, rest⟩
        · exact ⟨m, Nat.le_succ_of_le fewer, rest⟩
        · exact ⟨m + 1, Nat.succ_le_succ fewer, j, step, rest⟩
      · rintro ⟨m, fewer, steps⟩
        cases m with
        | zero => exact ⟨i, .inl rfl, 0, Nat.zero_le n, steps⟩
        | succ m =>
            obtain ⟨j, step, rest⟩ := steps
            exact ⟨j, .inr step, m, Nat.le_of_succ_le_succ fewer, rest⟩

section Forward

variable (forward : ∀ i j, R i j → i ≤ j)
include forward

theorem le {n i j : Nat} (steps : Steps R n i j) : i ≤ j := by
  induction n generalizing i with
  | zero => exact Nat.le_of_eq steps
  | succ n ih =>
      obtain ⟨next, step, rest⟩ := steps
      exact Nat.le_trans (forward i next step) (ih rest)

/-- Of more steps than the way is long, one stays where it is: it can be left out,
or be made twice. -/
theorem stays {n i j : Nat} (steps : Steps R (n + 1) i j) (short : j < i + (n + 1)) :
    Steps R n i j ∧ Steps R (n + 2) i j := by
  induction n generalizing i with
  | zero =>
      obtain ⟨next, step, rfl⟩ := steps
      have here : next = i := by
        have := forward i next step
        omega
      subst here
      exact ⟨rfl, next, step, next, step, rfl⟩
  | succ n ih =>
      obtain ⟨next, step, rest⟩ := steps
      rcases Nat.eq_or_lt_of_le (forward i next step) with rfl | ahead
      · exact ⟨rest, i, step, i, step, rest⟩
      · obtain ⟨fewer, more⟩ := ih rest (by omega)
        exact ⟨⟨next, step, fewer⟩, next, step, more⟩

theorem succ_iff {n i j : Nat} (short : j < i + n) : Steps R n i j ↔ Steps R (n + 1) i j := by
  cases n with
  | zero =>
      -- Nothing leads back, so there are no steps to a place before.
      refine ⟨fun steps => ?_, fun steps => ?_⟩ <;>
        exact absurd (le forward steps) (by omega)
  | succ n =>
      exact ⟨fun steps => (stays forward steps short).2,
        fun steps => (stays forward steps (by omega)).1⟩

/-- All numbers of steps larger than the way is long are alike. -/
theorem iff_of_le {m n i j : Nat} (short : j < i + m) (fewer : m ≤ n) :
    Steps R m i j ↔ Steps R n i j := by
  induction fewer with
  | refl => rfl
  | step fewer ih =>
      exact ih.trans (succ_iff forward (Nat.lt_of_lt_of_le short (Nat.add_le_add_left fewer i)))

/-- Repetitions that are cut short lead where all repetitions within the bounds lead:
`enough` of them for the lower bound and `enough` more for the upper one. -/
theorem within_iff {least enough i j : Nat} {most : Option Nat} (short : j < enough) :
    (∃ m ≤ min (match most with | some most => most - least | none => enough) enough,
      Steps R (min least enough + m) i j) ↔
      ∃ n, least ≤ n ∧ (∀ m, most = some m → n ≤ max least m) ∧ Steps R n i j := by
  have alike {n : Nat} (many : enough ≤ n) : Steps R enough i j ↔ Steps R n i j :=
    iff_of_le forward (by omega) many
  constructor
  · rintro ⟨m, fewer, steps⟩
    by_cases few : least ≤ enough
    · refine ⟨least + m, Nat.le_add_right _ _, ?_, ?_⟩
      · rintro bound rfl
        simp only at fewer
        omega
      · rwa [Nat.min_eq_left few] at steps
    · rw [Nat.min_eq_right (by omega)] at steps
      refine ⟨least, Nat.le_refl _, fun bound _ => Nat.le_max_left _ _, ?_⟩
      exact (alike (Nat.le_of_not_le few)).1 ((alike (Nat.le_add_right enough m)).2 steps)
  · rintro ⟨n, enoughOf, bounded, steps⟩
    refine ⟨min (n - least) enough, ?_, ?_⟩
    · cases most with
      | none => exact Nat.le_min.2 ⟨Nat.min_le_right _ _, Nat.min_le_right _ _⟩
      | some bound =>
          have := bounded bound rfl
          simp only
          omega
    · by_cases few : n ≤ enough
      · rwa [Nat.min_eq_left (by omega), Nat.min_eq_left (by omega), Nat.add_sub_cancel' enoughOf]
      · exact (alike (by omega)).1 ((alike (by omega)).2 steps)

end Forward

end Steps

/-! ## What an expression means -/

/-- The gap after so many characters of a text. -/
def gapAt (text : List Char) (i : Nat) : Gap :=
  ⟨if i = 0 then none else text[i - 1]?, text[i]?⟩

mutual

/-- Whether a match of an expression leads from one place of a text to another. -/
def Expr.links (text : List Char) : Expr → Nat → Nat → Prop
  | .empty, i, j => i = j
  | .set s, i, j => j = i + 1 ∧ ∃ c, text[i]? = some c ∧ s.contains c
  | .look l, i, j => i = j ∧ i ≤ text.length ∧ l.holds (gapAt text i)
  | .sequence parts, i, j => Expr.linksAll text parts i j
  | .alternatives branches, i, j => Expr.linksAny text branches i j
  | .group inner, i, j => inner.links text i j
  | .repeated least most _ inner, i, j =>
      ∃ n, least ≤ n ∧ (∀ m, most = some m → n ≤ max least m) ∧ Steps (inner.links text) n i j

/-- One match after the other. -/
def Expr.linksAll (text : List Char) : List Expr → Nat → Nat → Prop
  | [], i, j => i = j
  | part :: rest, i, k => ∃ j, part.links text i j ∧ Expr.linksAll text rest j k

/-- A match of any. -/
def Expr.linksAny (text : List Char) : List Expr → Nat → Nat → Prop
  | [], _, _ => False
  | branch :: rest, i, j => branch.links text i j ∨ Expr.linksAny text rest i j

end

/-! ## Moves of places -/

/-- Whether a place is among places. -/
def Places.Has (p : Places) (i : Nat) : Prop := p[i]? = some true

theorem Places.Has.lt {p : Places} {i : Nat} (has : p.Has i) : i < p.length :=
  (List.getElem?_eq_some_iff.1 has).1

theorem Places.any_iff (p : Places) : p.any id = true ↔ ∃ i, p.Has i := by
  simp [Has, List.any_eq_true, List.mem_iff_getElem?]

theorem Places.has_union {p q : Places} (even : p.length = q.length) {i : Nat} :
    (p.union q).Has i ↔ p.Has i ∨ q.Has i := by
  by_cases inside : i < p.length
  · have there : i < q.length := even ▸ inside
    simp [Has, union, List.getElem?_zipWith, List.getElem?_eq_getElem inside,
      List.getElem?_eq_getElem there]
  · have outside : q.length ≤ i := by omega
    simp [Has, union, List.getElem?_zipWith, List.getElem?_eq_none (Nat.le_of_not_lt inside),
      List.getElem?_eq_none outside]

/-- A move of the places of a text that takes them along a relation, which never leads
back nor out of the text. -/
structure Follows (text : List Char) (move : Places → Places) (R : Nat → Nat → Prop) : Prop where
  length : ∀ p, p.length = text.length + 1 → (move p).length = text.length + 1
  has : ∀ p, p.length = text.length + 1 → ∀ j, (move p).Has j ↔ ∃ i, p.Has i ∧ R i j
  forward : ∀ i j, R i j → i ≤ j
  inside : ∀ i j, R i j → i ≤ text.length → j ≤ text.length

namespace Follows

variable {text : List Char} {move next : Places → Places} {R S : Nat → Nat → Prop}

theorem stay : Follows text (fun p => p) Eq where
  length _ even := even
  has p _ j := by simp
  forward i j same := Nat.le_of_eq same
  inside i j same inText := same ▸ inText

theorem comp (first : Follows text move R) (second : Follows text next S) :
    Follows text (fun p => next (move p)) (fun i k => ∃ j, R i j ∧ S j k) where
  length p even := second.length _ (first.length p even)
  has p even k := by
    simp only [second.has _ (first.length p even), first.has p even]
    constructor
    · rintro ⟨j, ⟨i, here, step⟩, rest⟩
      exact ⟨i, here, j, step, rest⟩
    · rintro ⟨i, here, j, step, rest⟩
      exact ⟨j, ⟨i, here, step⟩, rest⟩
  forward := by
    rintro i k ⟨j, step, rest⟩
    exact Nat.le_trans (first.forward i j step) (second.forward j k rest)
  inside := by
    rintro i k ⟨j, step, rest⟩ inText
    exact second.inside j k rest (first.inside i j step inText)

theorem union (one : Follows text move R) (other : Follows text next S) :
    Follows text (fun p => (move p).union (next p)) (fun i j => R i j ∨ S i j) where
  length p even := by
    simp [Places.union, one.length p even, other.length p even]
  has p even j := by
    rw [Places.has_union (by rw [one.length p even, other.length p even]), one.has p even,
      other.has p even]
    simp only [and_or_left, exists_or]
  forward i j step := step.elim (one.forward i j) (other.forward i j)
  inside i j step := step.elim (one.inside i j) (other.inside i j)

/-- The same move along another relation that agrees on the places of the text. -/
theorem congr (along : Follows text move R)
    (same : ∀ i j, i ≤ text.length → j ≤ text.length → (R i j ↔ S i j))
    (forward : ∀ i j, S i j → i ≤ j) (inside : ∀ i j, S i j → i ≤ text.length → j ≤ text.length) :
    Follows text move S where
  length := along.length
  has p even j := by
    rw [along.has p even]
    refine exists_congr fun i => and_congr_right fun here => ?_
    have inText : i ≤ text.length := by
      have := here.lt
      omega
    exact ⟨fun step => (same i j inText (along.inside i j step inText)).1 step,
      fun step => (same i j inText (inside i j step inText)).2 step⟩
  forward := forward
  inside := inside

theorem iterate (along : Follows text move R) (n : Nat) :
    Follows text (fun p => move^[n] p) (Steps R n) := by
  induction n with
  | zero => exact stay
  | succ n ih => exact along.comp ih

end Follows

/-- Moves that stop where nothing moves are all the moves. -/
theorem moveTimes_eq (move : Places → Places) (n : Nat) (p : Places) :
    moveTimes move n p = move^[n] p := by
  induction n generalizing p with
  | zero => rfl
  | succ n ih =>
      rw [moveTimes, Function.iterate_succ_apply]
      by_cases still : move p = p
      · simp [still, Function.iterate_fixed still n]
      · simp [still, ih]

theorem moveUpTo_eq (move : Places → Places) (n : Nat) (p : Places) :
    moveUpTo move n p = (fun p => p.union (move p))^[n] p := by
  rw [← moveTimes_eq]
  induction n generalizing p with
  | zero => rfl
  | succ n ih => rw [moveUpTo, moveTimes, ih]

section Parts

variable (text : List Char)

theorem getElem?_gapsAfter (before : Option Char) (i : Nat) :
    (Subject.gapsAfter before text)[i]? =
      if i ≤ text.length then some ⟨if i = 0 then before else text[i - 1]?, text[i]?⟩
      else none := by
  induction text generalizing before i with
  | nil => cases i <;> simp [Subject.gapsAfter]
  | cons c rest ih =>
      cases i with
      | zero => simp [Subject.gapsAfter]
      | succ i =>
          rw [Subject.gapsAfter, List.getElem?_cons_succ, ih]
          cases i <;> simp

theorem length_gaps : (Subject.ofText text).gaps.length = text.length + 1 := by
  show (Subject.gapsAfter none text).length = _
  generalize (none : Option Char) = before
  induction text generalizing before with
  | nil => rfl
  | cons c rest ih => simp [Subject.gapsAfter, ih]

theorem has_past (s : CharSet) (p : Places) (i : Nat) :
    (p.past s text).Has i ↔ p.Has i ∧ ∃ c, text[i]? = some c ∧ s.contains c := by
  induction text generalizing p i with
  | nil => simp [Places.past, Places.Has]
  | cons c rest ih =>
      cases p with
      | nil => simp [Places.past, Places.Has]
      | cons here p =>
          cases i with
          | zero => simp [Places.past, Places.Has]
          | succ i => simpa [Places.past, Places.Has] using ih p i

theorem length_past (s : CharSet) (p : Places) :
    (p.past s text).length = min text.length p.length := by
  induction text generalizing p with
  | nil => simp [Places.past]
  | cons c rest ih => cases p <;> simp [Places.past, ih]

theorem follows_set (s : CharSet) :
    Follows text (Expr.reach (.ofText text) (.set s)) (Expr.links text (.set s)) where
  length p even := by
    simp [Expr.reach, length_past, Subject.ofText, even]
  has p even j := by
    rw [Expr.reach]
    cases j with
    | zero => simp [Places.Has, Expr.links]
    | succ j =>
        refine Iff.trans (has_past text s p j) ?_
        simp only [Expr.links, Nat.succ.injEq]
        constructor
        · rintro ⟨here, next⟩
          exact ⟨j, here, rfl, next⟩
        · rintro ⟨i, here, rfl, next⟩
          exact ⟨here, next⟩
  forward := by
    rintro i j ⟨rfl, -⟩
    exact Nat.le_succ i
  inside := by
    rintro i j ⟨rfl, c, next, -⟩ -
    exact (List.getElem?_eq_some_iff.1 next).1

theorem follows_look (l : Look) :
    Follows text (Expr.reach (.ofText text) (.look l)) (Expr.links text (.look l)) where
  length p even := by
    simp [Expr.reach, length_gaps, even]
  has p even j := by
    simp only [Expr.reach, Expr.links, Places.Has, List.getElem?_zipWith, Subject.ofText,
      getElem?_gapsAfter]
    by_cases inText : j ≤ text.length
    · have here : j < p.length := by omega
      simp [inText, gapAt, List.getElem?_eq_getElem here]
    · have outside : p.length ≤ j := by omega
      simp [inText, List.getElem?_eq_none outside]
  forward i j link := Nat.le_of_eq link.1
  inside i j link inText := link.1 ▸ inText

theorem follows_nowhere :
    Follows text (fun _ => (Subject.ofText text).nowhere) (fun _ _ => False) where
  length p _ := by simp [Subject.nowhere, length_gaps]
  has p _ j := by simp [Subject.nowhere, Places.Has, List.getElem?_replicate]
  forward _ _ := False.elim
  inside _ _ := False.elim

end Parts

/-- Moves that are cut short reach what any allowed number of matches leads to. -/
theorem follows_repeated {text : List Char} (least : Nat) (most : Option Nat) (isLazy : Bool)
    {inner : Expr} (along : Follows text (inner.reach (.ofText text)) (inner.links text)) :
    Follows text (Expr.reach (.ofText text) (.repeated least most isLazy inner))
      (Expr.links text (.repeated least most isLazy inner)) := by
  let enough := (Subject.ofText text).enough
  let more := match most with | some most => most - least | none => enough
  have moves := (along.iterate (min least enough)).comp
    ((Follows.stay.union along).iterate (min more enough))
  have cut : Expr.reach (.ofText text) (.repeated least most isLazy inner) = fun p =>
      (fun p => p.union (inner.reach (.ofText text) p))^[min more enough]
        ((inner.reach (.ofText text))^[min least enough] p) := by
    funext p
    rw [← moveUpTo_eq, ← moveTimes_eq]
    simp only [Expr.reach]
    rfl
  rw [cut]
  refine moves.congr (fun i k _ inText => ?_) ?_ ?_
  · have far : k < enough := Nat.lt_of_le_of_lt inText (Nat.lt_add_of_pos_right (by decide))
    refine Iff.trans ?_ (Steps.within_iff along.forward far)
    simp only [Steps.maybe_iff, Steps.add_iff]
    constructor
    · rintro ⟨j, front, m, fewer, back⟩
      exact ⟨m, fewer, j, front, back⟩
    · rintro ⟨m, fewer, j, front, back⟩
      exact ⟨j, front, m, fewer, back⟩
  · rintro i j ⟨n, -, -, steps⟩
    exact (along.iterate n).forward i j steps
  · rintro i j ⟨n, -, -, steps⟩
    exact (along.iterate n).inside i j steps

mutual

/-- The matcher moves places along the links of an expression. -/
theorem follows_reach (text : List Char) :
    ∀ e : Expr, Follows text (e.reach (.ofText text)) (e.links text)
  | .empty => .stay
  | .set s => follows_set text s
  | .look l => follows_look text l
  | .sequence parts => follows_reachAll text parts
  | .alternatives branches => follows_reachAny text branches
  | .group inner => follows_reach text inner
  | .repeated least most isLazy inner =>
      follows_repeated least most isLazy (follows_reach text inner)

theorem follows_reachAll (text : List Char) :
    ∀ parts : List Expr,
      Follows text (Expr.reachAll (.ofText text) parts) (Expr.linksAll text parts)
  | [] => .stay
  | part :: rest => (follows_reach text part).comp (follows_reachAll text rest)

theorem follows_reachAny (text : List Char) :
    ∀ branches : List Expr,
      Follows text (Expr.reachAny (.ofText text) branches) (Expr.linksAny text branches)
  | [] => follows_nowhere text
  | branch :: rest => (follows_reach text branch).union (follows_reachAny text rest)

end

/-- **A pattern is found in a text exactly if one of its matches is there.** -/
theorem Expr.matchesIn_iff (e : Expr) (text : List Char) :
    e.matchesIn text ↔ ∃ i j, i ≤ text.length ∧ e.links text i j := by
  have along := follows_reach text e
  have even : ((Subject.ofText text).everywhere).length = text.length + 1 := by
    simp [Subject.everywhere, length_gaps]
  have everywhere (i : Nat) : ((Subject.ofText text).everywhere).Has i ↔ i < text.length + 1 := by
    simp [Subject.everywhere, Places.Has, List.getElem?_replicate, length_gaps]
  rw [matchesIn, Places.any_iff]
  simp only [along.has _ even, everywhere, Nat.lt_succ_iff]
  exact exists_comm

/-! ## Matches of sets, by what is left of the text -/

section Left

variable {text : List Char} {s : CharSet}

theorem drop_add_of_append {i : Nat} {front back : List Char} (here : text.drop i = front ++ back) :
    text.drop (i + front.length) = back := by
  rw [← List.drop_drop, here, List.drop_left]

theorem drop_succ_of_cons {i : Nat} {c : Char} {back : List Char} (here : text.drop i = c :: back) :
    text.drop (i + 1) = back := by
  rw [← List.drop_drop, here]
  rfl

theorem links_set_iff {i j : Nat} :
    Expr.links text (.set s) i j ↔
      j = i + 1 ∧ ∃ c, text.drop i = c :: text.drop j ∧ s.contains c := by
  rw [Expr.links]
  refine and_congr_right fun next => exists_congr fun c => and_congr_left fun _ => ?_
  subst next
  constructor
  · intro here
    obtain ⟨inside, rfl⟩ := List.getElem?_eq_some_iff.1 here
    exact List.drop_eq_getElem_cons inside
  · intro here
    rw [← List.head?_drop, here]
    rfl

/-- So many members of a set, one after the other. -/
theorem steps_set_iff {n i j : Nat} :
    Steps (Expr.links text (.set s)) n i j ↔
      j = i + n ∧ ∃ front, front.length = n ∧ text.drop i = front ++ text.drop j ∧
        ∀ c ∈ front, s.contains c := by
  induction n generalizing i with
  | zero =>
      simp only [Steps, List.length_eq_zero_iff]
      constructor
      · rintro rfl
        exact ⟨rfl, [], rfl, rfl, by simp⟩
      · rintro ⟨same, -⟩
        exact same.symm
  | succ n ih =>
      simp only [Steps, links_set_iff, ih]
      constructor
      · rintro ⟨next, ⟨rfl, c, here, member⟩, rfl, front, rfl, rest, members⟩
        refine ⟨by omega, c :: front, rfl, ?_, ?_⟩
        · rw [here, rest, List.cons_append]
        · simpa using ⟨member, members⟩
      · rintro ⟨rfl, front, many, here, members⟩
        cases front with
        | nil => cases many
        | cons c front =>
            obtain ⟨member, members⟩ := List.forall_mem_cons.1 members
            have rest : text.drop (i + 1) = front ++ text.drop (i + (n + 1)) := by
              rw [← List.drop_drop, here]
              rfl
            refine ⟨i + 1, ⟨rfl, c, ?_, member⟩, by omega, front, Nat.succ.inj many, rest,
              members⟩
            rw [here, rest, List.cons_append]

/-- Any number of members of a set, one after the other. -/
theorem links_many_iff {i j : Nat} {isLazy : Bool} :
    Expr.links text (.repeated 0 none isLazy (.set s)) i j ↔
      ∃ front, j = i + front.length ∧ text.drop i = front ++ text.drop j ∧
        ∀ c ∈ front, s.contains c := by
  show (∃ n, 0 ≤ n ∧ (∀ m, none = some m → _) ∧ Steps (Expr.links text (.set s)) n i j) ↔ _
  simp only [steps_set_iff, Nat.zero_le, true_and, reduceCtorEq, false_implies, implies_true]
  constructor
  · rintro ⟨n, rfl, front, rfl, here, members⟩
    exact ⟨front, rfl, here, members⟩
  · rintro ⟨front, rfl, here, members⟩
    exact ⟨front.length, rfl, front, rfl, here, members⟩

/-- A given number of members of a set, one after the other. -/
theorem links_count_iff {n i j : Nat} {isLazy : Bool} :
    Expr.links text (.repeated n (some n) isLazy (.set s)) i j ↔
      j = i + n ∧ ∃ front, front.length = n ∧ text.drop i = front ++ text.drop j ∧
        ∀ c ∈ front, s.contains c := by
  rw [← steps_set_iff]
  constructor
  · rintro ⟨m, least, most, steps⟩
    rwa [Nat.le_antisymm (by simpa using most n rfl) least] at steps
  · intro steps
    exact ⟨n, Nat.le_refl n, fun m _ => Nat.le_max_left n m, steps⟩

end Left

theorem contains_single_iff {c d : Char} : (CharSet.single c).contains d ↔ d = c := by
  simp only [CharSet.contains, CharSet.single, Text.inRanges, List.any_cons, List.any_nil,
    Bool.or_false, Bool.and_eq_true, decide_eq_true_eq, ← Char.toNat_inj]
  omega

end ReleaseGate.Pattern
