/-
# Proofs.Build.CodeText — bytecode text is read as the code it denotes

Code is written as stretches of hex digits and placeholders (`Writes`), and such a
text may be dressed: marks before it, white space around it (`Denotes`). Each of the
four passes that read it takes off one layer. Filling turns a placeholder into the
forty digits of twenty zero bytes and touches nothing else, since only a placeholder
begins with an underscore (`Writes.fill_append`); what is left is digits of the code.
Then trimming, dropping marks and reading find just what the text was dressed with.

* `extract_denoted`: what a text denotes is what is called, and which texts are refused.
-/
import ReleaseGate.Build.Extraction
import ReleaseGate.Proofs.Build.Linking
import ReleaseGate.Proofs.Text.Hex
import ReleaseGate.Proofs.Text.Runs

namespace ReleaseGate.Build

set_option autoImplicit false

open Text (IsHexDigit IsHexText WritesBytes isBlank)

/-! ## Texts that denote code -/

/-- The bytes that stand for a library which is not linked. -/
def zeroAddress : List UInt8 := List.replicate 20 0

/-- Code written as stretches of digits and placeholders. -/
inductive Writes : List UInt8 → List Char → Prop
  | done : Writes [] []
  | digits {bytes code : List UInt8} {digits text : List Char} :
      WritesBytes bytes digits → Writes code text → Writes (bytes ++ code) (digits ++ text)
  | placeholder {code : List UInt8} {marker text : List Char} :
      IsPlaceholder marker → Writes code text → Writes (zeroAddress ++ code) (marker ++ text)

/-- Some marks, one after the other. -/
def marks (count : Nat) : List Char := (List.replicate count ['0', 'x']).flatten

/-- Whether a text is written code, with marks before it and white space around it. -/
def Denotes (text : String) (code : List UInt8) : Prop :=
  ∃ before count body after, text.toList = before ++ (marks count ++ body ++ after) ∧
    (∀ c ∈ before, isBlank c) ∧ (∀ c ∈ after, isBlank c) ∧ Writes code body

/-! ## Filling -/

theorem not_isPlaceholder_of_ne {c : Char} (other : c ≠ '_') (rest : List Char) :
    ¬ IsPlaceholder ((c :: rest).take placeholderLength) := by
  rintro ⟨body, shape, -⟩
  exact other (List.cons.inj shape).1

/-- Text without underscores stays. -/
theorem fill_append_of_plain {front : List Char} (plain : ∀ c ∈ front, c ≠ '_')
    (rest : List Char) : fill 0 (front ++ rest) = front ++ fill 0 rest := by
  induction front with
  | nil => rfl
  | cons c more ih =>
      rw [List.forall_mem_cons] at plain
      rw [List.cons_append, fill_cons (not_isPlaceholder_of_ne plain.1 _), ih plain.2]
      rfl

theorem fill_of_plain {text : List Char} (plain : ∀ c ∈ text, c ≠ '_') : fill 0 text = text := by
  have whole := fill_append_of_plain plain []
  rwa [List.append_nil, fill, List.append_nil] at whole

theorem ne_underscore_of_isHexDigit {c : Char} (digit : IsHexDigit c) : c ≠ '_' := by
  rintro rfl
  revert digit
  decide

theorem ne_underscore_of_isBlank {c : Char} (blank : isBlank c) : c ≠ '_' := by
  rintro rfl
  revert blank
  decide

theorem mem_marks {count : Nat} {c : Char} (member : c ∈ marks count) : c = '0' ∨ c = 'x' := by
  simp only [marks, List.mem_flatten, List.mem_replicate] at member
  obtain ⟨_, ⟨-, rfl⟩, member⟩ := member
  simpa using member

theorem ne_underscore_of_mem_marks {count : Nat} {c : Char} (member : c ∈ marks count) :
    c ≠ '_' := by
  rcases mem_marks member with rfl | rfl <;> decide

/-- The digits of zero bytes are zeros. -/
theorem writesBytes_zeros (n : Nat) :
    WritesBytes (List.replicate n 0) (List.replicate (2 * n) '0') := by
  induction n with
  | zero => exact .nil
  | succ n ih => exact .cons (.inl rfl) (.inl rfl) ih

/-- Written code becomes its digits, whatever follows. -/
theorem Writes.fill_append {code : List UInt8} {body : List Char} (writes : Writes code body)
    (rest : List Char) :
    ∃ digits, WritesBytes code digits ∧ fill 0 (body ++ rest) = digits ++ fill 0 rest := by
  induction writes with
  | done => exact ⟨[], .nil, rfl⟩
  | @digits bytes code front text written _ ih =>
      obtain ⟨digits, later, filled⟩ := ih
      refine ⟨front ++ digits, written.append later, ?_⟩
      have plain : ∀ c ∈ front, c ≠ '_' := fun c member =>
        ne_underscore_of_isHexDigit (written.isHexDigit c member)
      rw [List.append_assoc, fill_append_of_plain plain, filled, List.append_assoc]
  | @placeholder code marker text stands _ ih =>
      obtain ⟨digits, later, filled⟩ := ih
      refine ⟨filling ++ digits, (writesBytes_zeros 20).append later, ?_⟩
      rw [List.append_assoc, stands.fill_append, filled, List.append_assoc]

/-- Digits alone are written code. -/
theorem Writes.of_digits {code : List UInt8} {digits : List Char}
    (written : WritesBytes code digits) : Writes code digits := by
  simpa using Writes.digits written .done

/-! ## Marks and white space -/

theorem not_isBlank_of_isHexDigit {c : Char} (digit : IsHexDigit c) : isBlank c = false := by
  simp only [IsHexDigit, Text.le_iff_toNat, Char.reduceToNat] at digit
  simp only [isBlank, Text.blankRanges, Text.inRanges, List.any_cons, List.any_nil, Bool.or_false,
    Bool.or_eq_false_iff, Bool.and_eq_false_iff, decide_eq_false_iff_not]
  omega

theorem not_isBlank_of_mem_marks {count : Nat} {c : Char} (member : c ∈ marks count) :
    isBlank c = false := by
  rcases mem_marks member with rfl | rfl <;> decide

theorem dropMarks_of_not {text : List Char} (free : ¬ ['0', 'x'] <+: text) :
    dropMarks text = text := by
  unfold dropMarks
  split
  · simp at free
  · rfl

theorem dropMarks_marks (count : Nat) (text : List Char) :
    dropMarks (marks count ++ text) = dropMarks text := by
  induction count with
  | zero => rfl
  | succ n ih => exact ih

theorem dropMarks_of_writesBytes {bytes : List UInt8} {text : List Char}
    (writes : WritesBytes bytes text) : dropMarks text = text := by
  refine dropMarks_of_not ?_
  rintro ⟨rest, rfl⟩
  exact absurd (writes.isHexDigit 'x' (by simp)) (by decide)

/-- No mark is left. -/
theorem not_prefix_dropMarks (text : List Char) : ¬ ['0', 'x'] <+: dropMarks text := by
  fun_induction dropMarks text with
  | case1 rest ih => exact ih
  | case2 text free =>
      rintro ⟨rest, rfl⟩
      exact free rest rfl

/-- The text without one capital mark in front. -/
def dropCapitalMark : List Char → List Char
  | '0' :: 'X' :: rest => rest
  | text => text

theorem dropMark_of_not_lower {text : List Char} (lower : ¬ ['0', 'x'] <+: text) :
    Text.dropMark text = dropCapitalMark text := by
  unfold Text.dropMark dropCapitalMark
  split
  · simp at lower
  · rfl
  · split
    · next rest _ upper => exact absurd rfl (upper rest)
    · rfl

/-! ## Reading -/

theorem hexText_of_denotes {text : String} {code : List UInt8} (denotes : Denotes text code) :
    ∃ digits, WritesBytes code digits ∧ hexText text = String.ofList digits := by
  obtain ⟨before, count, body, after, shape, front, back, writes⟩ := denotes
  obtain ⟨digits, written, filled⟩ := writes.fill_append after
  refine ⟨digits, written, ?_⟩
  -- The pass reaches the code unchanged, since white space and marks have no underscores.
  have linked : fill 0 text.toList = before ++ (marks count ++ digits ++ after) := by
    rw [shape, fill_append_of_plain fun c member => ne_underscore_of_isBlank (front c member),
      List.append_assoc, fill_append_of_plain fun c member => ne_underscore_of_mem_marks member,
      filled, fill_of_plain fun c member => ne_underscore_of_isBlank (back c member),
      List.append_assoc]
  have inner : ∀ c ∈ marks count ++ digits, isBlank c = false :=
    List.forall_mem_append.2 ⟨fun c member => not_isBlank_of_mem_marks member,
      fun c member => not_isBlank_of_isHexDigit (written.isHexDigit c member)⟩
  rw [hexText, linked, Text.trim_run front inner back, dropMarks_marks,
    dropMarks_of_writesBytes written]

theorem readCode_of_denotes {text : String} {code : List UInt8} (denotes : Denotes text code) :
    readCode text = .ok code := by
  obtain ⟨digits, written, shape⟩ := hexText_of_denotes denotes
  rw [readCode, shape, Text.readHex_of_writes written]

/-- The text that is left to be digits: linked and trimmed, without all marks and then
one capital mark. -/
def bareText (text : String) : List Char :=
  dropCapitalMark (dropMarks (Text.trim (link text).toList))

theorem readCode_eq_ok_iff {text : String} :
    (∃ code, readCode text = .ok code) ↔ IsHexText (bareText text) := by
  rw [bareText, toList_link, ← dropMark_of_not_lower (not_prefix_dropMarks _)]
  exact Text.readHex_eq_ok_iff

/-! ## Calling -/

/-- The version that code tells. -/
def versionOf (builtIns : Evm.BuiltIns) (code : List UInt8) (settings : ProbeSettings) :
    Logged (Except Fault Version) := do
  match ← Probe.callWith builtIns code (selector settings.signature)
      settings.gasLimit.toNat with
  | .error fault => return .error (.probe fault)
  | .ok answer =>
      if answer.length = Version.bufferSize then
        return (settings.decoding.read answer).mapError .version
      else return .error (.answerLength answer.length)

theorem extract_of_reads {builtIns : Evm.BuiltIns} {text : String} {code : List UInt8}
    (reads : readCode text = .ok code) (settings : ProbeSettings) :
    extract text settings builtIns = versionOf builtIns code settings := by
  rw [extract, reads]
  rfl

/-- Code tells no version because its probe has no answer, or an answer of another length,
or one that is no version. -/
theorem fault_of_versionOf {builtIns : Evm.BuiltIns} {code : List UInt8}
    {settings : ProbeSettings} {fault : Fault}
    (failed : (versionOf builtIns code settings).value = .error fault) :
    (∃ why, fault = .probe why ∧
      (Probe.callWith builtIns code (selector settings.signature) settings.gasLimit.toNat).value =
        .error why) ∨
    (∃ length, fault = .answerLength length) ∨ ∃ why, fault = .version why := by
  rw [versionOf, Logged.value_bind] at failed
  split at failed
  · next why told =>
      cases failed
      exact .inl ⟨why, rfl, told⟩
  · next answer _ =>
      split at failed
      · rw [Logged.value_pure] at failed
        cases decoded : settings.decoding.read answer with
        | error why =>
            rw [decoded] at failed
            cases failed
            exact .inr (.inr ⟨why, rfl⟩)
        | ok version =>
            rw [decoded] at failed
            cases failed
      · cases failed
        exact .inr (.inl ⟨_, rfl⟩)

theorem value_versionOf_ne_hex (builtIns : Evm.BuiltIns) (code : List UInt8)
    (settings : ProbeSettings) (fault : Text.HexFault) :
    (versionOf builtIns code settings).value ≠ .error (.hex fault) := by
  intro refused
  rcases fault_of_versionOf refused with ⟨_, other, -⟩ | ⟨_, other⟩ | ⟨_, other⟩ <;> cases other

theorem extract_refused_iff {builtIns : Evm.BuiltIns} {text : String} {settings : ProbeSettings} :
    (∃ fault, (extract text settings builtIns).value = .error (.hex fault)) ↔
      ¬ IsHexText (bareText text) := by
  rw [← readCode_eq_ok_iff]
  cases reads : readCode text with
  | ok code =>
      simp [extract_of_reads reads, value_versionOf_ne_hex]
  | error fault =>
      simp [extract, reads]

/-- **The code that a text denotes is the code that is called.** Digits may be of either
case, placeholders may be any, there may be any number of marks in front, and any white
space around: what comes of the text depends on the code alone. A text is refused as
hex exactly if, linked and trimmed and without all marks and one capital mark, it is
not an even number of digits. -/
theorem extract_denoted (builtIns : Evm.BuiltIns) (settings : ProbeSettings) :
    (∀ text code, Denotes text code →
      readCode text = .ok code ∧
        extract text settings builtIns = versionOf builtIns code settings) ∧
    (∀ text text' code, Denotes text code → Denotes text' code →
      extract text settings builtIns = extract text' settings builtIns) ∧
    ∀ text, (∃ fault, (extract text settings builtIns).value = .error (.hex fault)) ↔
      ¬ IsHexText (bareText text) := by
  have called {text : String} {code : List UInt8} (denotes : Denotes text code) :
      extract text settings builtIns = versionOf builtIns code settings :=
    extract_of_reads (readCode_of_denotes denotes) settings
  refine ⟨fun text code denotes => ⟨readCode_of_denotes denotes, called denotes⟩, ?_,
    fun text => extract_refused_iff⟩
  intro text text' code denotes denotes'
  rw [called denotes, called denotes']

/-- Code with a library in it, in digits of both cases, with two marks and white space. -/
def dressedText : String := "\u00a0\t0x0x6aFf__$1234567890abcdef1234567890abcdef12$__0A \n"

/-- The same code in plain digits. -/
def plainText : String := "6aff00000000000000000000000000000000000000000a"

/-- The code of both. -/
def libraryCode : List UInt8 := [0x6a, 0xff] ++ (zeroAddress ++ [0x0a])

theorem denotes_dressedText : Denotes dressedText libraryCode := by
  have front : WritesBytes [0x6a, 0xff] ['6', 'a', 'F', 'f'] :=
    .cons (.inl rfl) (.inl rfl) (.cons (.inr rfl) (.inl rfl) .nil)
  have library :
      IsPlaceholder ("__$1234567890abcdef1234567890abcdef12$__".toList.take placeholderLength) :=
    startsPlaceholder_iff.1 (by decide +kernel)
  have back : WritesBytes [0x0a] ['0', 'A'] := .cons (.inl rfl) (.inr rfl) .nil
  have blank (text : List Char) (all : text.all isBlank) : ∀ c ∈ text, isBlank c :=
    List.all_eq_true.1 all
  exact ⟨['\u00a0', '\t'], 2, _, [' ', '\n'], by decide +kernel, blank _ (by decide),
    blank _ (by decide), .digits front (.placeholder library (.of_digits back))⟩

theorem denotes_plainText : Denotes plainText libraryCode := by
  have front : WritesBytes [0x6a, 0xff] ['6', 'a', 'f', 'f'] :=
    .cons (.inl rfl) (.inl rfl) (.cons (.inl rfl) (.inl rfl) .nil)
  have back : WritesBytes [0x0a] ['0', 'a'] := .cons (.inl rfl) (.inl rfl) .nil
  have whole : WritesBytes libraryCode _ := front.append ((writesBytes_zeros 20).append back)
  exact ⟨[], 0, _, [], by decide +kernel, by simp, by simp, .of_digits whole⟩

/-- Dressed or plain, the same is called; a text with two capital marks is refused. -/
theorem extract_denoted_library :
    Denotes dressedText libraryCode ∧ Denotes plainText libraryCode ∧
    readCode dressedText = .ok libraryCode ∧
    extract dressedText .default .basic = extract plainText .default .basic ∧
    ∃ fault, (extract "0x0X0X6aff" .default .basic).value = .error (.hex fault) := by
  obtain ⟨called, same, refused⟩ := extract_denoted .basic .default
  refine ⟨denotes_dressedText, denotes_plainText, (called _ _ denotes_dressedText).1,
    same _ _ _ denotes_dressedText denotes_plainText, (refused _).2 ?_⟩
  have bare : bareText "0x0X0X6aff" = ['0', 'X', '6', 'a', 'f', 'f'] := by decide +kernel
  rw [bare]
  rintro ⟨-, digits⟩
  exact absurd (digits 'X' (by simp)) (by decide)

end ReleaseGate.Build
