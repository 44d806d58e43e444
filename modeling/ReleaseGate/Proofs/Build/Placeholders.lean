/-
# Proofs.Build.Placeholders — what is a placeholder

Two underscores, 36 characters of some, two underscores: forty characters of ASCII
(`IsPlaceholder`). The scan finds one exactly where it stands (`holdsPlaceholder_iff`),
and so does the pattern that tells what a placeholder is (`hasPlaceholders_iff`).
-/
import Mathlib
import ReleaseGate.Build.Linking
import ReleaseGate.Pattern
import ReleaseGate.Proofs.Pattern.Matching
import ReleaseGate.Proofs.Text.Bytes

namespace ReleaseGate.Build

set_option autoImplicit false

/-! ## Placeholders -/

/-- The characters that may stand inside a placeholder. -/
def InPlaceholder (c : Char) : Prop :=
  ('A' ≤ c ∧ c ≤ 'Z') ∨ ('a' ≤ c ∧ c ≤ 'z') ∨ ('0' ≤ c ∧ c ≤ '9') ∨
    c ∈ ['_', '$', '.', ':', '/', '-']

/-- Two underscores, 36 characters, two underscores. -/
def IsPlaceholder (marker : List Char) : Prop :=
  ∃ body, marker = '_' :: '_' :: (body ++ ['_', '_']) ∧ body.length = placeholderBody ∧
    ∀ c ∈ body, InPlaceholder c

theorem isPlaceholderChar_iff {c : Char} : isPlaceholderChar c ↔ InPlaceholder c := by
  simp [isPlaceholderChar, InPlaceholder, Char.isAlphanum, Char.isAlpha, Char.isUpper, Char.isLower,
    Char.isDigit, Char.le_def, or_assoc]

theorem IsPlaceholder.length {marker : List Char} (stands : IsPlaceholder marker) :
    marker.length = placeholderLength := by
  obtain ⟨body, rfl, length, -⟩ := stands
  simp [length, placeholderBody, placeholderLength]

theorem IsPlaceholder.starts {marker : List Char} (stands : IsPlaceholder marker)
    (rest : List Char) : startsPlaceholder (marker ++ rest) := by
  obtain ⟨body, rfl, length, allowed⟩ := stands
  have front : (body ++ '_' :: '_' :: rest).take placeholderBody = body := by
    rw [← length, List.take_left]
  have back : (body ++ '_' :: '_' :: rest).drop placeholderBody = '_' :: '_' :: rest := by
    rw [← length, List.drop_left]
  simp only [List.cons_append, List.append_assoc, List.nil_append, startsPlaceholder, front, back,
    length, Bool.and_eq_true, decide_true, List.all_eq_true, isPlaceholderChar_iff, true_and]
  exact ⟨allowed, rfl⟩

theorem exists_of_starts {text : List Char} (starts : startsPlaceholder text) :
    ∃ marker rest, text = marker ++ rest ∧ IsPlaceholder marker := by
  unfold startsPlaceholder at starts
  split at starts
  · next rest =>
      simp only [Bool.and_eq_true, decide_eq_true_eq, List.all_eq_true, isPlaceholderChar_iff,
        List.isPrefixOf_iff_prefix] at starts
      obtain ⟨⟨length, allowed⟩, after, closing⟩ := starts
      refine ⟨_, after, ?_, rest.take placeholderBody, rfl, length, allowed⟩
      simp only [List.cons_append, List.append_assoc, closing, List.take_append_drop]
  · cases starts

/-- A placeholder stands at the start of a text if the first forty characters are one. -/
theorem startsPlaceholder_iff {text : List Char} :
    startsPlaceholder text ↔ IsPlaceholder (text.take placeholderLength) := by
  constructor
  · intro starts
    obtain ⟨marker, rest, rfl, stands⟩ := exists_of_starts starts
    rwa [← stands.length, List.take_left]
  · intro stands
    rw [← List.take_append_drop placeholderLength text]
    exact stands.starts _

/-- A placeholder is held exactly if there is a place where one stands. -/
theorem holdsPlaceholder_iff {text : List Char} :
    holdsPlaceholder text ↔ ∃ i, IsPlaceholder ((text.drop i).take placeholderLength) := by
  induction text with
  | nil =>
      simp only [holdsPlaceholder, List.drop_nil, List.take_nil, Bool.false_eq_true, false_iff,
        exists_const]
      rintro ⟨body, impossible, -⟩
      cases impossible
  | cons c rest ih =>
      rw [holdsPlaceholder, Bool.or_eq_true, ih, startsPlaceholder_iff]
      constructor
      · rintro (here | ⟨i, later⟩)
        · exact ⟨0, here⟩
        · exact ⟨i + 1, later⟩
      · rintro ⟨_ | i, stands⟩
        · exact .inl stands
        · exact .inr ⟨i, stands⟩

/-- The characters of a placeholder are one byte each. -/
theorem IsPlaceholder.ascii {marker : List Char} (stands : IsPlaceholder marker) :
    ∀ c ∈ marker, c.toNat < 128 := by
  have inner {c : Char} (allowed : InPlaceholder c) : c.toNat < 128 := by
    rcases allowed with ⟨-, upper⟩ | ⟨-, lower⟩ | ⟨-, digit⟩ | member
    · exact Nat.lt_of_le_of_lt upper (by decide)
    · exact Nat.lt_of_le_of_lt lower (by decide)
    · exact Nat.lt_of_le_of_lt digit (by decide)
    · simp only [List.mem_cons, List.not_mem_nil, or_false] at member
      rcases member with rfl | rfl | rfl | rfl | rfl | rfl <;> decide
  obtain ⟨body, rfl, -, allowed⟩ := stands
  intro c member
  simp only [List.mem_cons, List.mem_append, List.not_mem_nil, or_false] at member
  rcases member with rfl | rfl | member | rfl | rfl
  · decide
  · decide
  · exact inner (allowed c member)
  · decide
  · decide

/-! ## Told by a pattern -/

section ByPattern

open Pattern (CharSet contains_single_iff drop_add_of_append drop_succ_of_cons)
open Pattern (links_count_iff links_set_iff)

/-- The pattern of placeholders. -/
def placeholderPattern : Pattern where
  expr := .sequence
    [.set (.single '_'), .set (.single '_'),
      .repeated placeholderBody (some placeholderBody) false
        (.set ⟨[(0x24, 0x24), (0x2d, 0x3a), (0x41, 0x5a), (0x5f, 0x5f), (0x61, 0x7a)]⟩),
      .set (.single '_'), .set (.single '_')]

theorem compile_placeholderPattern :
    Pattern.compile "__[A-Za-z0-9_$.:/-]\x7b36\x7d__" = .ok placeholderPattern := by cbv

theorem contains_body_iff {c : Char} :
    CharSet.contains ⟨[(0x24, 0x24), (0x2d, 0x3a), (0x41, 0x5a), (0x5f, 0x5f), (0x61, 0x7a)]⟩ c ↔
      InPlaceholder c := by
  simp [CharSet.contains, Text.inRanges, InPlaceholder, Text.le_iff_toNat, ← Char.toNat_inj]
  omega

/-- The pattern is found exactly where a placeholder stands. -/
theorem isIn_placeholderPattern_iff {text : String} :
    placeholderPattern.isIn text ↔
      ∃ i, IsPlaceholder ((text.toList.drop i).take placeholderLength) := by
  rw [Pattern.isIn, Pattern.Expr.matchesIn_iff]
  constructor
  · rintro ⟨i, j, -, _, first, _, second, _, inner, _, third, _, fourth, rfl⟩
    obtain ⟨rfl, _, first, isFirst⟩ := links_set_iff.1 first
    obtain ⟨rfl, _, second, isSecond⟩ := links_set_iff.1 second
    obtain ⟨rfl, body, length, inner, allowed⟩ := links_count_iff.1 inner
    obtain ⟨rfl, _, third, isThird⟩ := links_set_iff.1 third
    obtain ⟨rfl, _, fourth, isFourth⟩ := links_set_iff.1 fourth
    rw [contains_single_iff.1 isFirst] at first
    rw [contains_single_iff.1 isSecond] at second
    rw [contains_single_iff.1 isThird] at third
    rw [contains_single_iff.1 isFourth] at fourth
    have stands : IsPlaceholder ('_' :: '_' :: (body ++ ['_', '_'])) :=
      ⟨body, rfl, length, fun c member => contains_body_iff.1 (allowed c member)⟩
    have shape (rest : List Char) : '_' :: '_' :: (body ++ '_' :: '_' :: rest) =
        '_' :: '_' :: (body ++ ['_', '_']) ++ rest := by simp
    refine ⟨i, ?_⟩
    rwa [first, second, inner, third, fourth, shape, ← stands.length, List.take_left]
  · rintro ⟨i, body, shape, length, allowed⟩
    have here : text.toList.drop i =
        '_' :: '_' :: (body ++ '_' :: '_' :: text.toList.drop (i + placeholderLength)) := by
      rw [← List.take_append_drop placeholderLength (text.toList.drop i), shape, List.drop_drop]
      simp
    have second := drop_succ_of_cons here
    have inner := drop_succ_of_cons second
    have third := drop_add_of_append inner
    have fourth := drop_succ_of_cons third
    rw [length] at third fourth
    have inText : i ≤ text.toList.length := by
      by_contra beyond
      rw [List.drop_eq_nil_of_le (by omega)] at here
      cases here
    refine ⟨i, _, inText, i + 1, links_set_iff.2 ⟨rfl, '_', ?_, contains_single_iff.2 rfl⟩,
      i + 1 + 1, links_set_iff.2 ⟨rfl, '_', ?_, contains_single_iff.2 rfl⟩,
      i + 1 + 1 + placeholderBody, links_count_iff.2 ⟨rfl, body, length, ?_, fun c member =>
        contains_body_iff.2 (allowed c member)⟩,
      i + 1 + 1 + placeholderBody + 1, links_set_iff.2 ⟨rfl, '_', ?_, contains_single_iff.2 rfl⟩,
      i + placeholderLength, links_set_iff.2 ⟨rfl, '_', fourth, contains_single_iff.2 rfl⟩, rfl⟩
    · rw [here, second]
    · rw [second, inner]
    · rw [inner, third]
    · rw [third, fourth]

end ByPattern

/-- **A text holds a placeholder exactly if the pattern of placeholders is found in it.** -/
theorem hasPlaceholders_iff (text : String) :
    ∃ pattern, Pattern.compile "__[A-Za-z0-9_$.:/-]\x7b36\x7d__" = .ok pattern ∧
      (hasPlaceholders text ↔ pattern.isIn text) :=
  ⟨placeholderPattern, compile_placeholderPattern,
    holdsPlaceholder_iff.trans isIn_placeholderPattern_iff.symm⟩

end ReleaseGate.Build
