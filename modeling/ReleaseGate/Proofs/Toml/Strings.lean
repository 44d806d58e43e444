/-
# Proofs.Toml.Strings — a text reads back from its quotes

The writer has five styles, but only four ways to end up with a text: with escapes
in one line (`basicRest_escapeText`), as it is in one line (`literalRest_append`),
and over several lines with or without escapes (`longBasicRest_escapeText`,
`longLiteralRest_append`).

Over several lines quotes of the text may stand right before the closing ones.
What decides is whether nothing but quotes is left of the written text: then the
reader is at its end, else it is not, since three quotes in a row are never
written where the reader looks for the end (`closing?_append`).

* `string?_writeChars`: whatever style the writer takes.
-/
import ReleaseGate.Toml.Strings
import ReleaseGate.Toml.Writer

namespace ReleaseGate.Toml

set_option autoImplicit false

/-! ## Escapes -/

/-- What an escape reads does not depend on what follows it. -/
theorem escaped?_append {cs after : List Char} {c : Char} (found : escaped? cs = some (c, after))
    (rest : List Char) : escaped? (cs ++ rest) = some (c, after ++ rest) := by
  cases cs with
  | nil => cases found
  | cons letter more =>
      rw [List.cons_append]
      unfold escaped? at found ⊢
      cases width : hexEscapes.lookup letter with
      | none =>
          simp only [width, Option.pure_def, Option.bind_eq_bind, Option.bind_eq_some_iff,
            Option.some.injEq, Prod.mk.injEq] at found ⊢
          obtain ⟨char, known, rfl, rfl⟩ := found
          exact ⟨char, known, rfl, rfl⟩
      | some count =>
          simp only [width] at found ⊢
          split at found
          · next whole =>
              have enough : count ≤ more.length := by
                rw [List.length_take] at whole
                omega
              rw [List.take_append_of_le_length enough, List.drop_append_of_le_length enough,
                if_pos whole]
              simp only [Option.pure_def, Option.bind_eq_bind, Option.bind_eq_some_iff,
                Option.some.injEq, Prod.mk.injEq] at found ⊢
              obtain ⟨char, known, rfl, rfl⟩ := found
              exact ⟨char, known, rfl, rfl⟩
          · cases found

/-- Whether a character ends no line, not even after blanks. -/
def isLetter (c : Char) : Bool := !isSpace c && c != '\n' && c != '\r'

theorem continued?_of_isLetter {c : Char} (letter : isLetter c) (rest : List Char) :
    continued? (c :: rest) = none := by
  simp only [isLetter, Bool.and_eq_true, Bool.not_eq_true', bne_iff_ne, ne_eq] at letter
  obtain ⟨⟨notSpace, notFeed⟩, notReturn⟩ := letter
  simp [continued?, notSpace, lineBreak?, notFeed, notReturn]

/-- Behind a backslash, `body` stands for a character and for no end of a line. -/
structure IsEscape (c : Char) (body : List Char) : Prop where
  read : ∀ rest, escaped? (body ++ rest) = some (c, rest)
  goesOn : ∀ rest, continued? (body ++ rest) = none

theorem IsEscape.of_alone {c : Char} {body : List Char} (alone : escaped? body = some (c, []))
    (letter : body.head?.all isLetter) : IsEscape c body where
  read rest := by simpa using escaped?_append alone rest
  goesOn rest := by
    cases body with
    | nil => cases alone
    | cons first more => exact continued?_of_isLetter (by simpa using letter) _

theorem isEscape_quote : IsEscape '"' ['"'] := .of_alone (by decide) (by decide)

theorem isEscape_backslash : IsEscape '\\' ['\\'] := .of_alone (by decide) (by decide)

theorem escapeControl_ascii : ∀ n < 128, isControl (Char.ofNat n) ∨ Char.ofNat n = '\n' →
    ∃ body, escapeControl (Char.ofNat n) = '\\' :: body ∧
      escaped? body = some (Char.ofNat n, []) ∧ body.head?.all isLetter := by
  have found : ∀ n < 128, isControl (Char.ofNat n) ∨ Char.ofNat n = '\n' →
      escapeControl (Char.ofNat n) = '\\' :: (escapeControl (Char.ofNat n)).drop 1 ∧
        escaped? ((escapeControl (Char.ofNat n)).drop 1) = some (Char.ofNat n, []) ∧
        ((escapeControl (Char.ofNat n)).drop 1).head?.all isLetter := by decide
  exact fun n small control => ⟨_, found n small control⟩

/-- A control reads back from its letter or from the digits of its number. -/
theorem isEscape_control {c : Char} (control : isControl c ∨ c = '\n') :
    ∃ body, escapeControl c = '\\' :: body ∧ IsEscape c body := by
  have small : c.toNat < 128 := by
    rcases control with control | rfl
    · simp only [isControl, Bool.or_eq_true, Bool.and_eq_true, decide_eq_true_eq] at control
      omega
    · decide
  have found := escapeControl_ascii c.toNat small
  rw [Char.ofNat_toNat] at found
  obtain ⟨body, written, alone, letter⟩ := found control
  exact ⟨body, written, .of_alone alone letter⟩

/-- What is no control can stand as itself in one line, the line feed aside. -/
theorem isPlain_of_not_isControl {c : Char} (calm : isControl c = false) (noFeed : c ≠ '\n') :
    isPlain c := by
  simp only [isControl, isPlain, Bool.or_eq_false_iff, Bool.and_eq_false_iff, bne_eq_false_iff_eq,
    decide_eq_false_iff_not, Bool.or_eq_true, Bool.and_eq_true, decide_eq_true_eq, bne_iff_ne]
    at calm ⊢
  obtain ⟨high | feed, noDelete⟩ := calm
  · exact .inr ⟨by omega, noDelete⟩
  · exact absurd feed noFeed

/-! ## Escaped texts -/

/-- What the writer of escaped texts does with one character: it writes an escape, or the
character as it is, which is then no backslash, and a quote only if few stand before it. -/
theorem escapeText_cons (isLong : Bool) (most run : Nat) (c : Char) (more : List Char) :
    (∃ body, escapeText isLong most run (c :: more) =
        '\\' :: (body ++ escapeText isLong most 0 more) ∧ IsEscape c body) ∨
      (c = '"' ∧ run < most ∧
        escapeText isLong most run (c :: more) = c :: escapeText isLong most (run + 1) more) ∨
      (c ≠ '"' ∧ c ≠ '\\' ∧ (isPlain c ∨ isLong ∧ c = '\n') ∧
        escapeText isLong most run (c :: more) = c :: escapeText isLong most 0 more) := by
  rw [escapeText]
  split
  · next quote =>
      split
      · next few => exact .inr (.inl ⟨quote, few, rfl⟩)
      · exact .inl ⟨['"'], by rw [quote]; rfl, quote ▸ isEscape_quote⟩
  · next noQuote =>
      split
      · next backslash => exact .inl ⟨['\\'], rfl, backslash ▸ isEscape_backslash⟩
      · next noBackslash =>
          split
          · next control =>
              have : isControl c ∨ c = '\n' := by
                simp only [Bool.or_eq_true, Bool.and_eq_true, decide_eq_true_eq] at control
                exact control.imp_right And.left
              obtain ⟨body, written, isEscape⟩ := isEscape_control this
              exact .inl ⟨body, by rw [written]; rfl, isEscape⟩
          · next calm =>
              rw [Bool.or_eq_true, not_or, Bool.not_eq_true] at calm
              refine .inr (.inr ⟨noQuote, noBackslash, ?_, rfl⟩)
              by_cases feed : c = '\n'
              · exact .inr ⟨by simpa [feed] using calm.2, feed⟩
              · exact .inl (isPlain_of_not_isControl calm.1 feed)

/-! ## One line -/

theorem basicRest_escapeText (cs rest : List Char) {fuel : Nat} (enough : cs.length < fuel) :
    basicRest fuel (escapeText false 0 0 cs ++ '"' :: rest) = some (cs, rest) := by
  induction cs generalizing fuel with
  | nil =>
      obtain ⟨fuel, rfl⟩ := Nat.exists_eq_add_one.2 (Nat.zero_lt_of_lt enough)
      simp [escapeText, basicRest]
  | cons c more ih =>
      obtain ⟨fuel, rfl⟩ := Nat.exists_eq_add_one.2 (Nat.zero_lt_of_lt enough)
      have next := ih (Nat.lt_of_succ_lt_succ enough)
      rcases escapeText_cons false 0 0 c more with
        ⟨body, written, isEscape⟩ | ⟨-, none_fit, -⟩ | ⟨noQuote, noBackslash, plain, written⟩
      · rw [written]
        simp [basicRest, isEscape.read, next]
      · exact absurd none_fit (Nat.lt_irrefl 0)
      · have plain : isPlain c := by simpa using plain
        rw [written]
        simp [basicRest, noQuote, noBackslash, plain, next]

/-- A text of plain characters without single quotes reads back as it is. -/
theorem literalRest_append {cs : List Char} (plain : ∀ c ∈ cs, isPlain c ∧ c ≠ '\'')
    (rest : List Char) : literalRest (cs ++ '\'' :: rest) = some (cs, rest) := by
  induction cs with
  | nil => simp [literalRest]
  | cons c more ih =>
      obtain ⟨here, noQuote⟩ := plain c List.mem_cons_self
      have next := ih fun d member => plain d (List.mem_cons_of_mem _ member)
      simp [literalRest, noQuote, here, next]

/-! ## Several lines -/

/-- Three quotes close a text if nothing but quotes stands before them. What
follows is no quote, and the text does not begin with three. -/
theorem closing?_append {quote : Char} {cs rest : List Char}
    (few : ¬ [quote, quote, quote] <+: cs) (outside : rest.head? ≠ some quote) :
    closing? quote (cs ++ (triple quote ++ rest)) =
      if cs.all (· = quote) then some (cs, rest) else none := by
  have ends (n : Nat) : (rest.take n).takeWhile (· = quote) = [] := by
    cases rest with
    | nil => simp
    | cons c more =>
        have differ : c ≠ quote := fun same => outside (by rw [same]; rfl)
        cases n <;> simp [differ]
  match cs with
  | [] => simp [closing?, triple, ends]
  | [a] =>
      by_cases ha : a = quote
      · simp [closing?, triple, ends, ha]
      · simp [closing?, triple, ha, Ne.symm ha]
  | [a, b] =>
      by_cases ha : a = quote
      · by_cases hb : b = quote
        · simp [closing?, triple, ha, hb]
        · simp [closing?, triple, hb, Ne.symm hb]
      · simp [closing?, triple, ha, Ne.symm ha]
  | a :: b :: c :: more =>
      simp only [List.cons_prefix_cons, List.nil_prefix, and_true, not_and] at few
      have noEnd : ¬ [quote, quote, quote].isPrefixOf
          ((a :: b :: c :: more) ++ (triple quote ++ rest)) := by
        simpa using few
      have mixed : ¬ (a :: b :: c :: more).all (· = quote) := by
        simp only [List.all_cons, Bool.and_eq_true, decide_eq_true_eq]
        rintro ⟨rfl, rfl, rfl, -⟩
        exact few rfl rfl rfl
      rw [closing?, if_neg noEnd, if_neg mixed]

/-- A text without three quotes in a row does not begin with them. -/
theorem not_prefix_of_hasTriple {quote c : Char} {more : List Char}
    (few : hasTriple quote (c :: more) = false) :
    ¬ [quote, quote, quote] <+: c :: more ∧ hasTriple quote more = false := by
  match more with
  | [] | [_] => simp [hasTriple]
  | a :: b :: rest =>
      simp only [hasTriple, Bool.or_eq_false_iff] at few
      refine ⟨?_, few.2⟩
      simp only [List.cons_prefix_cons, List.nil_prefix, and_true]
      rintro ⟨rfl, rfl, rfl⟩
      simp at few

theorem longLiteralRest_closes {cs : List Char} {found : List Char × List Char}
    (closes : closing? '\'' cs = some found) : longLiteralRest cs = some found := by
  cases cs with
  | nil => simp [closing?] at closes
  | cons c more => rw [longLiteralRest, closes]

/-- A text without three single quotes in a row reads back as it is. -/
theorem longLiteralRest_append {cs rest : List Char} (plain : ∀ c ∈ cs, isPlain c ∨ c = '\n')
    (few : hasTriple '\'' cs = false) (outside : rest.head? ≠ some '\'') :
    longLiteralRest (cs ++ (triple '\'' ++ rest)) = some (cs, rest) := by
  induction cs with
  | nil => exact longLiteralRest_closes (closing?_append (by simp) outside)
  | cons c more ih =>
      obtain ⟨noPrefix, few⟩ := not_prefix_of_hasTriple few
      have next := ih (fun d member => plain d (List.mem_cons_of_mem _ member)) few
      have closes := closing?_append noPrefix outside
      by_cases only : (c :: more).all (· = '\'')
      · rw [if_pos only] at closes
        exact longLiteralRest_closes closes
      · rw [if_neg only, List.cons_append] at closes
        have here : isPlain c || (lineBreak? (c :: (more ++ (triple '\'' ++ rest)))).isSome := by
          rcases plain c List.mem_cons_self with here | rfl
          · simp [here]
          · simp [lineBreak?]
        rw [List.cons_append, longLiteralRest, closes]
        simp [here, next]

/-- Where `run` quotes stand before an escaped text, it begins with so many at most that
there are two together. -/
theorem quotes_prefix_escapeText {k run : Nat} {cs : List Char} (few : run ≤ 2)
    (begins : List.replicate k '"' <+: escapeText true 2 run cs) : k + run ≤ 2 := by
  induction k generalizing run cs with
  | zero => simpa using few
  | succ k ih =>
      cases cs with
      | nil => simp [escapeText, List.replicate_succ] at begins
      | cons c more =>
          rcases escapeText_cons true 2 run c more with
            ⟨body, written, -⟩ | ⟨rfl, room, written⟩ | ⟨noQuote, -, -, written⟩
          · simp [written, List.replicate_succ] at begins
          · have begins : List.replicate k '"' <+: escapeText true 2 (run + 1) more := by
              simpa [written, List.replicate_succ] using begins
            have := ih room begins
            omega
          · simp [written, List.replicate_succ, Ne.symm noQuote] at begins

/-- Where only quotes are written, nothing is escaped. -/
theorem escapeText_of_all_quotes {isLong : Bool} {most run : Nat} {cs : List Char}
    (only : (escapeText isLong most run cs).all (· = '"')) :
    escapeText isLong most run cs = cs := by
  induction cs generalizing run with
  | nil => rfl
  | cons c more ih =>
      rcases escapeText_cons isLong most run c more with
        ⟨body, written, -⟩ | ⟨rfl, -, written⟩ | ⟨noQuote, -, -, written⟩
      · simp [written] at only
      · rw [written] at only ⊢
        rw [ih (by simpa using only)]
      · simp [written, noQuote] at only

theorem longBasicRest_closes {fuel : Nat} {cs : List Char} {found : List Char × List Char}
    (closes : closing? '"' cs = some found) : longBasicRest (fuel + 1) cs = some found := by
  cases cs with
  | nil => simp [closing?] at closes
  | cons c more => rw [longBasicRest, closes]

theorem longBasicRest_escape {fuel : Nat} {c : Char} {body rest : List Char}
    (isEscape : IsEscape c body) :
    longBasicRest (fuel + 1) ('\\' :: (body ++ rest)) =
      (longBasicRest fuel rest).map fun found => (c :: found.1, found.2) := by
  have noEnd : closing? '"' ('\\' :: (body ++ rest)) = none := by simp [closing?]
  simp only [longBasicRest, noEnd, isEscape.goesOn, isEscape.read, if_true, Option.bind_eq_bind,
    Option.bind_some]
  cases longBasicRest fuel rest <;> rfl

theorem longBasicRest_plain {fuel : Nat} {c : Char} {rest : List Char}
    (noEnd : closing? '"' (c :: rest) = none) (noBackslash : c ≠ '\\')
    (plain : isPlain c ∨ c = '\n') :
    longBasicRest (fuel + 1) (c :: rest) =
      (longBasicRest fuel rest).map fun found => (c :: found.1, found.2) := by
  have here : isPlain c || (lineBreak? (c :: rest)).isSome := by
    rcases plain with here | rfl
    · simp [here]
    · simp [lineBreak?]
  simp only [longBasicRest, noEnd, if_neg noBackslash, if_pos here]
  cases longBasicRest fuel rest <;> rfl

/-- An escaped text of several lines reads back, whatever quotes stand before it. -/
theorem longBasicRest_escapeText {cs rest : List Char} {fuel run : Nat} (few : run ≤ 2)
    (enough : cs.length < fuel) (outside : rest.head? ≠ some '"') :
    longBasicRest fuel (escapeText true 2 run cs ++ (triple '"' ++ rest)) = some (cs, rest) := by
  induction cs generalizing fuel run with
  | nil =>
      obtain ⟨fuel, rfl⟩ := Nat.exists_eq_add_one.2 (Nat.zero_lt_of_lt enough)
      exact longBasicRest_closes (closing?_append (by simp [escapeText]) outside)
  | cons c more ih =>
      obtain ⟨fuel, rfl⟩ := Nat.exists_eq_add_one.2 (Nat.zero_lt_of_lt enough)
      have room : more.length < fuel := Nat.lt_of_succ_lt_succ enough
      have noPrefix : ¬ ['"', '"', '"'] <+: escapeText true 2 run (c :: more) := fun begins => by
        have := quotes_prefix_escapeText (k := 3) few begins
        omega
      have closes := closing?_append noPrefix outside
      by_cases only : (escapeText true 2 run (c :: more)).all (· = '"')
      · rw [if_pos only] at closes
        rw [longBasicRest_closes closes, escapeText_of_all_quotes only]
      · rw [if_neg only] at closes
        rcases escapeText_cons true 2 run c more with
          ⟨body, written, isEscape⟩ | ⟨rfl, below, written⟩ | ⟨-, noBackslash, plain, written⟩
        · rw [written, List.cons_append, List.append_assoc, longBasicRest_escape isEscape,
            ih (Nat.zero_le 2) room]
          rfl
        · rw [written, List.cons_append] at closes ⊢
          rw [longBasicRest_plain closes (by decide) (.inl (by decide)), ih below room]
          rfl
        · rw [written, List.cons_append] at closes ⊢
          rw [longBasicRest_plain closes noBackslash (plain.imp_right And.right),
            ih (Nat.zero_le 2) room]
          rfl

/-! ## Texts in quotes -/

theorem length_le_escapeText (isLong : Bool) (most run : Nat) (cs : List Char) :
    cs.length ≤ (escapeText isLong most run cs).length := by
  induction cs generalizing run with
  | nil => exact Nat.zero_le _
  | cons c more ih =>
      rcases escapeText_cons isLong most run c more with
        ⟨body, written, -⟩ | ⟨-, -, written⟩ | ⟨-, -, -, written⟩
      · have := ih 0
        rw [written, List.length_cons, List.length_cons, List.length_append]
        omega
      · exact written ▸ Nat.succ_le_succ (ih _)
      · exact written ▸ Nat.succ_le_succ (ih _)

/-- Quotes that do not follow each other three at a time open a text of one line. -/
theorem string?_of_not_triple {quote : Char} {cs : List Char}
    (single : ∀ rest, cs ≠ quote :: quote :: rest) :
    string? (quote :: cs) = shortString? (quote :: cs) := by
  unfold string?
  split
  · next rest same =>
      obtain ⟨rfl, rfl⟩ := List.cons.inj same
      exact absurd rfl (single rest)
  · next rest same =>
      obtain ⟨rfl, rfl⟩ := List.cons.inj same
      exact absurd rfl (single rest)
  · rfl

/-- What follows a text on its line: anything but a quote. -/
def EndsText (rest : List Char) : Prop := rest.head? ≠ some '"' ∧ rest.head? ≠ some '\''

theorem string?_basic (cs : List Char) {rest : List Char} (ends : EndsText rest) :
    string? ('"' :: (escapeText false 0 0 cs ++ '"' :: rest)) = some (cs, rest) := by
  have single : ∀ more, escapeText false 0 0 cs ++ '"' :: rest ≠ '"' :: '"' :: more := by
    intro more same
    cases cs with
    | nil =>
        obtain ⟨-, same⟩ := List.cons.inj same
        exact ends.1 (by rw [same]; rfl)
    | cons c rest =>
        rcases escapeText_cons false 0 0 c rest with
          ⟨body, written, -⟩ | ⟨-, below, -⟩ | ⟨noQuote, -, -, written⟩
        · simp [written] at same
        · exact absurd below (Nat.lt_irrefl 0)
        · simp [written, noQuote] at same
  rw [string?_of_not_triple single, shortString?]
  refine basicRest_escapeText cs rest (Nat.lt_succ_of_le ?_)
  have := length_le_escapeText false 0 0 cs
  rw [List.length_append]
  omega

theorem string?_literal {cs rest : List Char} (plain : ∀ c ∈ cs, isPlain c ∧ c ≠ '\'')
    (ends : EndsText rest) : string? ('\'' :: (cs ++ '\'' :: rest)) = some (cs, rest) := by
  have single : ∀ more, cs ++ '\'' :: rest ≠ '\'' :: '\'' :: more := by
    intro more same
    cases cs with
    | nil =>
        obtain ⟨-, same⟩ := List.cons.inj same
        exact ends.2 (by rw [same]; rfl)
    | cons c rest =>
        obtain ⟨rfl, -⟩ := List.cons.inj same
        exact (plain _ List.mem_cons_self).2 rfl
  rw [string?_of_not_triple single, shortString?]
  exact literalRest_append plain rest

/-- Whether no line break stands in front. -/
def OpensLine (cs : List Char) : Prop := ∀ c ∈ cs.head?, c ≠ '\n' ∧ c ≠ '\r'

theorem pastLineBreak_of_opensLine {cs : List Char} (opens : OpensLine cs) :
    pastLineBreak cs = cs := by
  cases cs with
  | nil => rfl
  | cons c more =>
      obtain ⟨noFeed, noReturn⟩ := opens c rfl
      simp [pastLineBreak, lineBreak?, noFeed, noReturn]

theorem not_isBreak_of_isPlain {c : Char} (plain : isPlain c) : c ≠ '\n' ∧ c ≠ '\r' := by
  constructor <;> rintro rfl <;> exact absurd plain (by decide)

theorem opensLine_escapeText {cs : List Char} (single : '\n' ∉ cs) :
    OpensLine (escapeText true 2 0 cs) := by
  cases cs with
  | nil => simp [OpensLine, escapeText]
  | cons c more =>
      have noFeed : c ≠ '\n' := Ne.symm (List.ne_of_not_mem_cons single)
      rcases escapeText_cons true 2 0 c more with
        ⟨body, written, -⟩ | ⟨rfl, -, written⟩ | ⟨-, -, plain, written⟩
      · simp [OpensLine, written]
      · simp [OpensLine, written]
      · have plain : isPlain c := plain.resolve_right fun feed => noFeed feed.2
        simpa [OpensLine, written] using not_isBreak_of_isPlain plain

theorem opensLine_of_plain {cs : List Char} (plain : ∀ c ∈ cs, isPlain c ∨ c = '\n')
    (single : '\n' ∉ cs) : OpensLine cs := by
  intro c first
  have member : c ∈ cs := List.mem_of_mem_head? first
  exact not_isBreak_of_isPlain ((plain c member).resolve_right fun feed => single (feed ▸ member))

/-- The line break that opens a text of several lines is left out again; a text
without one opens with none. -/
theorem pastLineBreak_wrap {cs inner : List Char} (opens : '\n' ∉ cs → OpensLine inner)
    {quote : Char} (noBreak : quote ≠ '\n' ∧ quote ≠ '\r') (rest : List Char) :
    pastLineBreak ((if cs.contains '\n' then ['\n'] else []) ++ (inner ++ (triple quote ++ rest))) =
      inner ++ (triple quote ++ rest) := by
  by_cases several : '\n' ∈ cs
  · simp [several, pastLineBreak, lineBreak?]
  · have opensAll : OpensLine (inner ++ (triple quote ++ rest)) := by
      cases inner with
      | nil => simpa [OpensLine, triple] using noBreak
      | cons c more => simpa [OpensLine] using opens several
    simpa [several] using pastLineBreak_of_opensLine opensAll

theorem string?_triple_double (cs : List Char) :
    string? (triple '"' ++ cs) = longBasicRest (cs.length + 1) (pastLineBreak cs) := rfl

theorem string?_triple_single (cs : List Char) :
    string? (triple '\'' ++ cs) = longLiteralRest (pastLineBreak cs) := rfl

theorem string?_longBasic (cs : List Char) {rest : List Char} (ends : EndsText rest) :
    string? (wrap (triple '"') cs (escapeText true 2 0 cs) ++ rest) = some (cs, rest) := by
  have opened : pastLineBreak ((if cs.contains '\n' then ['\n'] else []) ++
      (escapeText true 2 0 cs ++ (triple '"' ++ rest))) = _ :=
    pastLineBreak_wrap opensLine_escapeText (by decide) rest
  simp only [wrap, List.append_assoc]
  rw [string?_triple_double, opened]
  refine longBasicRest_escapeText (Nat.zero_le 2) (Nat.lt_succ_of_le ?_) ends.1
  have := length_le_escapeText true 2 0 cs
  simp only [List.length_append]
  omega

theorem string?_longLiteral {cs rest : List Char} (plain : ∀ c ∈ cs, isPlain c ∨ c = '\n')
    (few : hasTriple '\'' cs = false) (ends : EndsText rest) :
    string? (wrap (triple '\'') cs cs ++ rest) = some (cs, rest) := by
  have opened : pastLineBreak ((if cs.contains '\n' then ['\n'] else []) ++
      (cs ++ (triple '\'' ++ rest))) = _ :=
    pastLineBreak_wrap (opensLine_of_plain plain) (by decide) rest
  simp only [wrap, List.append_assoc]
  rw [string?_triple_single, opened]
  exact longLiteralRest_append plain few ends.2

/-! ## The writer's choice -/

theorem isPlain_or_of_not_needsEscape {c : Char} (calm : needsEscape c = false) :
    isPlain c ∨ c = '\n' := by
  by_cases feed : c = '\n'
  · exact .inr feed
  · by_cases tab : c = '\t'
    · exact .inl (by rw [tab]; decide)
    · have : isControl c = false := by simpa [needsEscape, tab] using calm
      exact .inl (isPlain_of_not_isControl this feed)

/-- A text that is written as it is in one line has no line feed and no single quote. -/
theorem styleOf_literal {cs : List Char} (style : styleOf cs = .literal) :
    ∀ c ∈ cs, isPlain c ∧ c ≠ '\'' := by
  obtain ⟨calm, noQuote, noFeed⟩ :
      cs.any needsEscape = false ∧ '\'' ∉ cs ∧ '\n' ∉ cs := by
    grind [styleOf]
  intro c member
  have plain := isPlain_or_of_not_needsEscape (by simpa using List.any_eq_false.1 calm c member)
  exact ⟨plain.resolve_right fun feed => noFeed (feed ▸ member), fun quote =>
    noQuote (quote ▸ member)⟩

/-- A text that is written as it is over several lines has no three single quotes in a row. -/
theorem styleOf_longLiteral {cs : List Char} (style : styleOf cs = .longLiteral) :
    (∀ c ∈ cs, isPlain c ∨ c = '\n') ∧ hasTriple '\'' cs = false := by
  obtain ⟨calm, few⟩ : cs.any needsEscape = false ∧ hasTriple '\'' cs = false := by
    grind [styleOf]
  exact ⟨fun c member =>
    isPlain_or_of_not_needsEscape (by simpa using List.any_eq_false.1 calm c member), few⟩

/-- **A text reads back from its quotes**, whatever characters it holds and whatever
style it is written in, if no quote follows it. -/
theorem string?_writeChars (cs : List Char) {rest : List Char} (ends : EndsText rest) :
    string? (writeChars cs ++ rest) = some (cs, rest) := by
  have short : string? ('"' :: (escapeText false 0 0 cs ++ ['"']) ++ rest) = some (cs, rest) := by
    simpa using string?_basic cs ends
  unfold writeChars
  cases style : styleOf cs with
  | basic => exact short
  | literal => simpa using string?_literal (styleOf_literal style) ends
  | longBasic => exact string?_longBasic cs ends
  | longLiteral =>
      obtain ⟨plain, few⟩ := styleOf_longLiteral style
      exact string?_longLiteral plain few ends
  | escaped =>
      dsimp only
      split
      · exact string?_longBasic cs ends
      · exact short

end ReleaseGate.Toml
