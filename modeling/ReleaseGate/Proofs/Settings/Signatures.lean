/-
# Proofs.Settings.Signatures — which function can be asked for

A signature is checked by going through its characters (`Settings.isSignature`).
It can as well be told by a pattern, anchored at both ends, and by its shape: one
character that names begin with, any number of characters of names, and an empty
pair of parentheses, with nothing before or after (`IsSignature`). All three are the
same for every text (`isSignature_iff`, `isIn_signaturePattern_iff`), a line break at
its end or a letter beyond ASCII included.
-/
import Mathlib
import ReleaseGate.Proofs.Pattern.Matching
import ReleaseGate.Proofs.Text.Bytes
import ReleaseGate.Settings.Check

namespace ReleaseGate

set_option autoImplicit false

namespace Settings

open Pattern (CharSet Expr Look contains_single_iff drop_add_of_append drop_succ_of_cons gapAt)
open Pattern (links_many_iff links_set_iff)

/-- The characters that names begin with. -/
def StartsName (c : Char) : Prop :=
  ('A' ≤ c ∧ c ≤ 'Z') ∨ ('a' ≤ c ∧ c ≤ 'z') ∨ c = '_' ∨ c = '$'

/-- The characters of names. -/
def InName (c : Char) : Prop := StartsName c ∨ ('0' ≤ c ∧ c ≤ '9')

/-- The texts that are a name and an empty pair of parentheses. -/
def IsSignature (text : String) : Prop :=
  ∃ first rest, text.toList = first :: (rest ++ ['(', ')']) ∧ StartsName first ∧
    ∀ c ∈ rest, InName c

/-! ## By going through the characters -/

theorem isNameStart_iff {c : Char} : isNameStart c ↔ StartsName c := by
  simp [isNameStart, StartsName, Char.isAlpha, Char.isUpper, Char.isLower, Char.le_def, or_assoc]

theorem isNameChar_iff {c : Char} : isNameChar c ↔ InName c := by
  simp [isNameChar, InName, StartsName, Char.isAlphanum, Char.isAlpha, Char.isUpper, Char.isLower,
    Char.isDigit, Char.le_def]
  tauto

theorem isSignature_iff {text : String} : isSignature text ↔ IsSignature text := by
  have name_ends : isNameChar '(' = false := by decide
  unfold isSignature IsSignature
  cases text.toList with
  | nil => simp
  | cons first rest =>
      simp only [Bool.and_eq_true, isNameStart_iff, beq_iff_eq, List.cons.injEq]
      constructor
      · rintro ⟨begins, left⟩
        refine ⟨first, rest.takeWhile isNameChar, ⟨rfl, ?_⟩, begins, fun c member => ?_⟩
        · rw [← left, List.takeWhile_append_dropWhile]
        · exact isNameChar_iff.1 (List.mem_takeWhile_imp member)
      · rintro ⟨_, name, ⟨rfl, rfl⟩, begins, inName⟩
        refine ⟨begins, ?_⟩
        rw [List.dropWhile_append_of_pos fun c member => isNameChar_iff.2 (inName c member),
          List.dropWhile_cons_of_neg (by simp [name_ends])]

/-! ## By a pattern -/

/-- The pattern of signatures. -/
def signaturePattern : Pattern where
  expr := .sequence
    [.look .textStart,
      .set ⟨[(0x24, 0x24), (0x41, 0x5a), (0x5f, 0x5f), (0x61, 0x7a)]⟩,
      .repeated 0 none false
        (.set ⟨[(0x24, 0x24), (0x30, 0x39), (0x41, 0x5a), (0x5f, 0x5f), (0x61, 0x7a)]⟩),
      .set (.single '('), .set (.single ')'), .look .textEnd]

theorem compile_signaturePattern :
    Pattern.compile "^[A-Za-z_$][A-Za-z0-9_$]*\\(\\)$" = .ok signaturePattern := by cbv

/-! The numbers of the pattern's ranges stand for the characters between them. -/

theorem contains_start_iff {c : Char} :
    CharSet.contains ⟨[(0x24, 0x24), (0x41, 0x5a), (0x5f, 0x5f), (0x61, 0x7a)]⟩ c ↔
      StartsName c := by
  simp [CharSet.contains, Text.inRanges, StartsName, Text.le_iff_toNat, ← Char.toNat_inj]
  omega

theorem contains_rest_iff {c : Char} :
    CharSet.contains ⟨[(0x24, 0x24), (0x30, 0x39), (0x41, 0x5a), (0x5f, 0x5f), (0x61, 0x7a)]⟩ c ↔
      InName c := by
  simp [CharSet.contains, Text.inRanges, InName, StartsName, Text.le_iff_toNat,
    ← Char.toNat_inj]
  omega

/-- The pattern finds a signature in a text only if the text is one. -/
theorem isIn_signaturePattern_iff {text : String} :
    signaturePattern.isIn text ↔ IsSignature text := by
  rw [Pattern.isIn, Expr.matchesIn_iff]
  constructor
  · rintro ⟨i, j, inText, _, ⟨rfl, -, start⟩, b, one, k, many, l, opening, m, closing, n,
      ⟨rfl, -, ends⟩, rfl⟩
    -- Both anchors hold at the rims of the text only.
    have first : i = 0 := by
      by_contra later
      have before : i - 1 < text.toList.length := by omega
      simp [Look.holds, gapAt, later, List.getElem?_eq_getElem before] at start
    have last : text.toList.drop m = [] := by
      simpa [Look.holds, gapAt] using ends
    subst first
    obtain ⟨rfl, c, text_eq, begins⟩ := links_set_iff.1 one
    obtain ⟨rest, rfl, rest_eq, inName⟩ := links_many_iff.1 many
    obtain ⟨rfl, o, open_eq, isOpen⟩ := links_set_iff.1 opening
    obtain ⟨rfl, e, close_eq, isClose⟩ := links_set_iff.1 closing
    rw [contains_single_iff.1 isOpen] at open_eq
    rw [contains_single_iff.1 isClose, last] at close_eq
    refine ⟨c, rest, ?_, contains_start_iff.1 begins, fun d member =>
      contains_rest_iff.1 (inName d member)⟩
    rw [← close_eq, ← open_eq, ← rest_eq, ← text_eq, List.drop_zero]
  · rintro ⟨first, rest, shape, begins, inName⟩
    have afterFirst : text.toList.drop 1 = rest ++ ['(', ')'] := by rw [shape]; rfl
    have afterName := drop_add_of_append afterFirst
    have afterOpening := drop_succ_of_cons afterName
    have afterClosing := drop_succ_of_cons afterOpening
    have length : 1 + rest.length + 1 + 1 = text.toList.length := by
      simp only [shape, List.length_cons, List.length_append, List.length_nil]
      omega
    refine ⟨0, _, Nat.zero_le _, 0, ⟨rfl, Nat.zero_le _, rfl⟩, 1, ?first, 1 + rest.length, ?rest,
      1 + rest.length + 1, ?opening, _, ?closing, _, ⟨rfl, Nat.le_of_eq length, ?ends⟩, rfl⟩
    case first =>
      refine links_set_iff.2 ⟨rfl, first, ?_, contains_start_iff.2 begins⟩
      rw [afterFirst, List.drop_zero, shape]
    case rest =>
      refine links_many_iff.2 ⟨rest, rfl, ?_, fun c member => contains_rest_iff.2 (inName c member)⟩
      rw [afterFirst, afterName]
    case opening =>
      refine links_set_iff.2 ⟨rfl, '(', ?_, contains_single_iff.2 rfl⟩
      rw [afterName, afterOpening]
    case closing =>
      refine links_set_iff.2 ⟨rfl, ')', ?_, contains_single_iff.2 rfl⟩
      rw [afterOpening, afterClosing]
    case ends =>
      simp [Look.holds, gapAt, List.getElem?_eq_none (Nat.le_of_eq length.symm)]

end Settings

end ReleaseGate
