/-
# Proofs.Toml.Numbers — a whole number reads back from its digits

The digits of a number could begin a date or a time of day, or be read in another
base; they are neither, because a moment needs more than digits and only letters
mark a base.

* `scalar?_toDigits`: digits are the whole number they spell.
-/
import Mathlib.Data.List.Basic
import ReleaseGate.Proofs.Text.Runs
import ReleaseGate.Toml.Reader

namespace ReleaseGate.Toml

set_option autoImplicit false

open Text (isDigit_of_mem_toDigits toDigits_zero_cons)

/-! ## Digits are no moment -/

/-- Digits in front leave only digits behind. -/
theorem digits_of_all {count n : Nat} {cs rest : List Char} (all : ∀ c ∈ cs, c.isDigit)
    (found : digits count cs = some (n, rest)) : ∀ c ∈ rest, c.isDigit := by
  simp only [digits] at found
  split at found
  · obtain ⟨-, rfl⟩ := Prod.mk.inj (Option.some.inj found)
    exact fun c member => all c (List.mem_of_mem_drop member)
  · cases found

theorem past_of_all (allowed : List Char) (marks : ∀ c ∈ allowed, c.isDigit = false)
    {cs : List Char} (all : ∀ c ∈ cs, c.isDigit) : past allowed cs = none := by
  cases cs with
  | nil => rfl
  | cons c rest =>
      have : c ∉ allowed := fun member => by
        simp [marks c member] at all
      simp [past, this]

theorem date_of_all {cs : List Char} (all : ∀ c ∈ cs, c.isDigit) : date cs = none := by
  unfold date
  cases found : digits 4 cs with
  | none => rfl
  | some year =>
      have stuck := past_of_all ['-'] (by simp) (digits_of_all all found)
      simp [stuck]

theorem timeOfDay_of_all {cs : List Char} (all : ∀ c ∈ cs, c.isDigit) : timeOfDay cs = none := by
  unfold timeOfDay
  cases found : digits 2 cs with
  | none => rfl
  | some hour =>
      have stuck := past_of_all [':'] (by simp) (digits_of_all all found)
      simp [stuck]

theorem isMoment_of_all {cs : List Char} (all : ∀ c ∈ cs, c.isDigit) : isMoment cs = false := by
  simp [isMoment, date_of_all all, timeOfDay_of_all all]

/-! ## Digits are a whole number -/

theorem ungrouped_of_all {cs : List Char} (used : cs ≠ []) (all : ∀ c ∈ cs, c.isDigit) :
    ungrouped Char.isDigit cs = some cs := by
  fun_induction ungrouped Char.isDigit cs with
  | case1 => exact absurd rfl used
  | case2 c digit => rfl
  | case3 c noDigit => exact absurd (all c (by simp)) noDigit
  | case4 c rest digit ih => exact absurd (all '_' (by simp)) (by decide)
  | case5 c rest noDigit => exact absurd (all c (by simp)) noDigit
  | case6 c rest notAlone notGrouped digit ih =>
      have := ih notAlone fun d member => all d (List.mem_cons_of_mem _ member)
      simp [this]
  | case7 c rest _ _ noDigit => exact absurd (all c (by simp)) noDigit

theorem hexValue?_of_isDigit {c : Char} (digit : c.isDigit) :
    Text.hexValue? c = some (c.toNat - 48) := by
  have bounds : 48 ≤ c.toNat ∧ c.toNat ≤ 57 := by
    simpa [Char.isDigit, UInt32.le_iff_toNat_le] using digit
  simp [Text.hexValue?, bounds]

/-- In base ten every reader spells digits alike. -/
theorem numberIn_of_all {cs : List Char} (all : ∀ c ∈ cs, c.isDigit) :
    numberIn 10 cs = Nat.ofDigitChars 10 cs 0 := by
  refine List.foldl_ext _ _ 0 fun n c member => ?_
  rw [hexValue?_of_isDigit (all c member)]
  rfl

theorem decimalDigits_toDigits (n : Nat) :
    decimalDigits (Nat.toDigits 10 n) = some (Nat.toDigits 10 n) := by
  have single : ¬ (1 < (Nat.toDigits 10 n).length ∧ (Nat.toDigits 10 n).head? = some '0') := by
    rintro ⟨several, zero⟩
    obtain ⟨rest, front⟩ := List.head?_eq_some_iff.1 zero
    rw [front, toDigits_zero_cons front] at several
    exact absurd several (by simp)
  simp [decimalDigits, ungrouped_of_all Nat.toDigits_ne_nil fun c => isDigit_of_mem_toDigits, single]

theorem signed_of_all {cs : List Char} (all : ∀ c ∈ cs, c.isDigit) : signed cs = (false, cs) := by
  unfold signed
  split
  · exact absurd (all '-' List.mem_cons_self) (by decide)
  · exact absurd (all '+' List.mem_cons_self) (by decide)
  · rfl

theorem integer?_toDigits {n : Nat} (fits : n < integerLimit) :
    integer? (Nat.toDigits 10 n) = some (Int.ofNat n) := by
  have magnitude := decimalDigits_toDigits n
  have all : ∀ c ∈ Nat.toDigits 10 n, c.isDigit := fun c => isDigit_of_mem_toDigits
  have unsigned := signed_of_all all
  have number : numberIn 10 (Nat.toDigits 10 n) = n := by
    rw [numberIn_of_all all, Nat.ofDigitChars_ten_toDigits]
  simp only [integer?, unsigned, magnitude]
  -- a zero in front is alone, so no letter of a base follows it
  split
  · next mark rest front => exact absurd (toDigits_zero_cons front) (List.cons_ne_nil _ _)
  · simp [number, fits]

/-- **A whole number reads back from its digits.** -/
theorem scalar?_toDigits {n : Nat} (fits : n < integerLimit) :
    scalar? (Nat.toDigits 10 n) = some (.integer n) := by
  have all : ∀ c ∈ Nat.toDigits 10 n, c.isDigit := fun c => isDigit_of_mem_toDigits
  have noWord (word : List Char) (letter : ∃ c ∈ word, c.isDigit = false) :
      Nat.toDigits 10 n ≠ word := by
    rintro rfl
    obtain ⟨c, member, noDigit⟩ := letter
    simp [all c member] at noDigit
  unfold scalar?
  rw [if_neg (noWord _ (by simp)), if_neg (noWord _ (by simp)),
    if_neg (by simp [isMoment_of_all all]), integer?_toDigits fits]
  rfl

end ReleaseGate.Toml
