/-
# Proofs.Json.Strings — a string reads back from its quotes

The writer does one of three things with a character (`escapeChar_escaped`): it puts a
backslash and a letter, a backslash and the four digits of a number below 32, or the
character itself. The reader goes over the inside of a string three times, to find
its end, to cut it into pieces, and to join them; each time one character of the
string is one step.

* `scanString_quote`: what is scanned is the string, whatever characters it holds.
-/
import ReleaseGate.Json.Draft

namespace ReleaseGate.Json

set_option autoImplicit false

/-! ## One character -/

/-- Whether a character neither ends a string nor begins an escape. -/
def IsInside (c : Char) : Prop := c ≠ '"' ∧ c ≠ '\\'

instance (c : Char) : Decidable (IsInside c) := instDecidableAnd

/-- How a character may be written: by a letter, by its number, or as it is. -/
inductive Escaped (c : Char) : List Char → Prop where
  | letter (letter : Char) (numbers : letter ≠ 'u') (short : shortEscape? letter = some c) :
      Escaped c ['\\', letter]
  | number (high low : Char) (below : c.toNat < 32)
      (digits : fourDigits '0' '0' high low = some c.toNat)
      (inside : IsInside high ∧ IsInside low) : Escaped c ['\\', 'u', '0', '0', high, low]
  | plain (inside : IsInside c) (shows : 32 ≤ c.toNat) : Escaped c [c]

theorem digits_control : ∀ n < 32,
    fourDigits '0' '0' (Text.hexDigit (n / 16)) (Text.hexDigit (n % 16)) = some n ∧
      IsInside (Text.hexDigit (n / 16)) ∧ IsInside (Text.hexDigit (n % 16)) := by
  decide

theorem escapeChar_escaped (c : Char) : Escaped c (escapeChar c) := by
  have numbered (n : Nat) (same : c.toNat = n) : some (Char.ofNat n) = some c := by
    rw [← same, Char.ofNat_toNat]
  unfold escapeChar
  split
  · next quote => exact .letter '"' (by decide) (by rw [quote]; rfl)
  split
  · next backslash => exact .letter '\\' (by decide) (by rw [backslash]; rfl)
  split
  · next backspace => exact .letter 'b' (by decide) (numbered 8 backspace)
  split
  · next formFeed => exact .letter 'f' (by decide) (numbered 12 formFeed)
  split
  · next lineFeed => exact .letter 'n' (by decide) (by rw [lineFeed]; rfl)
  split
  · next carriageReturn => exact .letter 'r' (by decide) (by rw [carriageReturn]; rfl)
  split
  · next tab => exact .letter 't' (by decide) (by rw [tab]; rfl)
  split
  · next below =>
      obtain ⟨digits, inside⟩ := digits_control c.toNat below
      exact .number _ _ below digits inside
  · next noQuote noBackslash _ _ _ _ _ shows =>
      exact .plain ⟨noQuote, noBackslash⟩ (Nat.le_of_not_lt shows)

/-! ## Whole strings -/

theorem untilQuote_cons {c : Char} (inside : IsInside c) {text before after : List Char}
    (found : untilQuote text = some (before, after)) :
    untilQuote (c :: text) = some (c :: before, after) := by
  simp [untilQuote, inside.1, inside.2, found]

theorem untilQuote_escape (c : Char) {text before after : List Char}
    (found : untilQuote text = some (before, after)) :
    untilQuote ('\\' :: c :: text) = some ('\\' :: c :: before, after) := by
  simp [untilQuote, found]

theorem pieces_cons {c : Char} (inside : IsInside c) (shows : 32 ≤ c.toNat) {text : List Char}
    {parts : List Piece} (cut : pieces text = some parts) :
    pieces (c :: text) = some (.char c :: parts) := by
  simp [pieces, inside.2, Nat.not_lt.2 shows, cut]

/-- A number below the surrogates is the character of that number. -/
theorem joinPieces_unit {n : Nat} (below : n < 0xd800) {parts : List Piece} {chars : List Char}
    (joined : joinPieces parts = some chars) :
    joinPieces (.unit n :: parts) = some (Char.ofNat n :: chars) := by
  have noHigh : ¬ 0xd800 ≤ n := Nat.not_le.2 below
  have noLow : ¬ 0xdc00 ≤ n := by omega
  match parts with
  | [] | .char _ :: _ | .unit _ :: _ =>
      rw [joinPieces]
      · simp [noHigh, noLow, joined]
      all_goals simp

/-- What is written of a string is found, cut and joined again. -/
theorem inside_read (cs rest : List Char) :
    untilQuote (cs.flatMap escapeChar ++ '"' :: rest) = some (cs.flatMap escapeChar, rest) ∧
      ∃ parts, pieces (cs.flatMap escapeChar) = some parts ∧ joinPieces parts = some cs := by
  induction cs with
  | nil => exact ⟨by simp [untilQuote], [], rfl, rfl⟩
  | cons c more ih =>
      obtain ⟨found, parts, cut, joined⟩ := ih
      have form := escapeChar_escaped c
      rw [List.flatMap_cons]
      generalize escapeChar c = written at form ⊢
      cases form with
      | letter letter numbers short =>
          refine ⟨untilQuote_escape letter found, .char c :: parts, ?_,
            by simp [joinPieces, joined]⟩
          simp [pieces, numbers, short, cut]
      | number high low below digits inside =>
          refine ⟨?_, .unit c.toNat :: parts, by simp [pieces, digits, cut], ?_⟩
          · have zero : IsInside '0' := by decide
            exact untilQuote_escape 'u' (untilQuote_cons zero (untilQuote_cons zero
              (untilQuote_cons inside.1 (untilQuote_cons inside.2 found))))
          · rw [joinPieces_unit (by omega) joined, Char.ofNat_toNat]
      | plain inside shows =>
          refine ⟨?_, .char c :: parts, ?_, by simp [joinPieces, joined]⟩
          · exact untilQuote_cons inside found
          · exact pieces_cons inside shows cut

/-- The characters of a string in quotes. -/
theorem toList_quote (s : String) :
    (quote s).toList = '"' :: (s.toList.flatMap escapeChar ++ ['"']) :=
  String.toList_ofList

/-- **A string reads back from its quotes.** -/
theorem scanString_quote (s : String) (rest : List Char) :
    scanString (s.toList.flatMap escapeChar ++ '"' :: rest) = some (some s, rest) := by
  obtain ⟨found, parts, cut, joined⟩ := inside_read s.toList rest
  simp [scanString, found, cut, joined]

end ReleaseGate.Json
