/-
# Proofs.Text.Runs — runs of characters, and the digits of a number

A reader that takes the longest run of some characters takes what a writer made of
them, if another character follows (`takeWhile_run`, `dropWhile_run`). Trimming takes
the white space around a text off it and nothing else (`trim_run`).

What the readers of numbers ask of the digits that a writer makes: they are
digits, there is one, none of them is a zero in front of another, and they spell
the number (`Nat.ofDigitChars_ten_toDigits` of core).
-/
import ReleaseGate.Text.Blank

namespace ReleaseGate.Text

set_option autoImplicit false

section Runs

variable {allowed : Char → Bool} {run rest : List Char}

theorem takeWhile_run (all : ∀ c ∈ run, allowed c) (ends : ∀ c ∈ rest.head?, allowed c = false) :
    (run ++ rest).takeWhile allowed = run := by
  rw [List.takeWhile_append_of_pos all]
  cases rest with
  | nil => simp
  | cons c more => simp [ends c rfl]

theorem dropWhile_run (all : ∀ c ∈ run, allowed c) (ends : ∀ c ∈ rest.head?, allowed c = false) :
    (run ++ rest).dropWhile allowed = rest := by
  rw [List.dropWhile_append_of_pos all]
  cases rest with
  | nil => rfl
  | cons c more => simp [ends c rfl]

theorem trim_run {before core after : List Char} (front : ∀ c ∈ before, isBlank c)
    (inner : ∀ c ∈ core, isBlank c = false) (back : ∀ c ∈ after, isBlank c) :
    trim (before ++ (core ++ after)) = core := by
  unfold trim trimStart
  cases core with
  | nil =>
      rw [List.nil_append, List.dropWhile_append_of_pos front, ← List.append_nil after,
        dropWhile_run back (by simp)]
      rfl
  | cons c more =>
      have backward : ∀ c ∈ after.reverse, isBlank c := fun c member =>
        back c (List.mem_reverse.1 member)
      have last : ∀ d ∈ (c :: more).reverse.head?, isBlank d = false := fun d ends =>
        inner d (List.mem_reverse.1 (List.mem_of_mem_head? ends))
      rw [dropWhile_run front (by simpa using inner c List.mem_cons_self), List.reverse_append,
        dropWhile_run backward last, List.reverse_reverse]

end Runs

/-! ## Digits -/

theorem ne_of_isDigit {c d : Char} (digit : c.isDigit) (other : d.isDigit = false := by decide) :
    c ≠ d := by
  rintro rfl
  rw [digit] at other
  cases other

theorem isDigit_of_mem_toDigits {n : Nat} {c : Char} (member : c ∈ Nat.toDigits 10 n) : c.isDigit :=
  Nat.isDigit_of_mem_toDigits (by decide) (by decide) member

/-- A number begins with a digit. -/
theorem exists_cons_toDigits (n : Nat) :
    ∃ c more, Nat.toDigits 10 n = c :: more ∧ c.isDigit := by
  obtain ⟨c, more, front⟩ := List.exists_cons_of_ne_nil (Nat.toDigits_ne_nil (n := n) (b := 10))
  exact ⟨c, more, front, isDigit_of_mem_toDigits (front ▸ List.mem_cons_self)⟩

/-- A zero in front is the only digit. -/
theorem toDigits_zero_cons {n : Nat} {rest : List Char} (zero : Nat.toDigits 10 n = '0' :: rest) :
    rest = [] := by
  induction n using Nat.strongRecOn generalizing rest with
  | ind n ih =>
      by_cases small : n < 10
      · rw [Nat.toDigits_of_lt_base small] at zero
        exact (List.cons.inj zero).2.symm
      · rw [Nat.toDigits_of_base_le (by decide) (by omega)] at zero
        obtain ⟨first, more, front⟩ :=
          List.exists_cons_of_ne_nil (Nat.toDigits_ne_nil (n := n / 10) (b := 10))
        rw [front, List.cons_append] at zero
        obtain ⟨rfl, -⟩ := List.cons.inj zero
        -- what stands before the last digit would be a zero, though it is not zero
        have alone : more = [] := ih (n / 10) (by omega) front
        rw [alone] at front
        have none_left : n / 10 = 0 := by
          rw [← Nat.ofDigitChars_ten_toDigits (n := n / 10), front]
          rfl
        omega

end ReleaseGate.Text
