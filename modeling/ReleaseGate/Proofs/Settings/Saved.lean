/-
# Proofs.Settings.Saved — settings that are saved are loaded again

The text that settings are saved as is a plain document (`toText_of_fits`), and the
table it denotes shows every setting under its name (`readSettings_table`). So what
is loaded after saving is what was saved, up to the check that loading makes and
saving does not. Only a gas limit beyond the whole numbers of TOML cannot be
written down; nothing reaches the file then.

Where the file lies does not matter: a `FileSystem` is any way to read and write
files, and all that is asked of it is that it keeps what is written
(`FileSystem.Keeps`).
-/
import Mathlib
import ReleaseGate.Proofs.Files.Systems
import ReleaseGate.Proofs.Form.Records
import ReleaseGate.Proofs.Toml.Documents
import ReleaseGate.Settings.Store

namespace ReleaseGate

set_option autoImplicit false

namespace Settings

section Store

variable {σ : Type} (files : FileSystem σ) (root : Files.Path)

/-- Save settings in the file of a project. -/
def saveIn (s : Settings) : StateM σ (Except Trouble Unit) :=
  s.save fun text => files.write (root.child fileName) text.toUTF8

/-- Load the settings in the file of a project. -/
def loadIn (disk : σ) : Except Trouble Settings := load (files.read (root.child fileName) disk)

end Store

/-! ## The text of settings -/

open Toml (Assignment Scalar)

def excludeEntries (s : Settings) : List Assignment :=
  match s.exclude with
  | some pattern => [⟨"exclude", .text pattern, by decide⟩]
  | none => []

def probeEntries (s : ProbeSettings) : List Assignment :=
  [⟨"selector-signature", .text s.signature, by decide⟩,
    ⟨"gas-limit", .number s.gasLimit.toNat, by decide⟩,
    ⟨"default-version", .text s.fallback.toText, by decide⟩,
    ⟨"buffer-decoding", .text (Form.decodingName s.decoding), by decide⟩]

/-- The table that settings are saved as. -/
def table (s : Settings) : Toml :=
  .table .header (s.excludeEntries.map Assignment.field ++
    [("extractor", .table .header ((probeEntries s.probe).map Assignment.field))])

theorem toList_writeText (s : String) : (Toml.writeText s).toList = Toml.writeChars s.toList :=
  String.toList_ofList

theorem toList_probeText (s : ProbeSettings) :
    (probeText s).toList =
      '[' :: ("extractor".toList ++ ']' :: '\n' :: Toml.lines (probeEntries s)) := by
  have signature : "[extractor]\nselector-signature = ".toList =
      '[' :: ("extractor".toList ++ ']' :: '\n' :: ("selector-signature".toList ++ [' ', '=', ' '])) :=
    rfl
  have gasLimit : "\ngas-limit = ".toList = '\n' :: ("gas-limit".toList ++ [' ', '=', ' ']) := rfl
  have fallback :
      "\ndefault-version = ".toList = '\n' :: ("default-version".toList ++ [' ', '=', ' ']) := rfl
  have decoding :
      "\nbuffer-decoding = ".toList = '\n' :: ("buffer-decoding".toList ++ [' ', '=', ' ']) := rfl
  have feed : "\n".toList = ['\n'] := rfl
  have number (n : Nat) : (Nat.repr n).toList = Nat.toDigits 10 n := String.toList_ofList
  unfold probeText
  simp only [String.toList_append, signature, gasLimit, fallback, decoding, feed, number,
    toList_writeText, probeEntries, Toml.lines, List.flatMap_cons, List.flatMap_nil, Assignment.line,
    Scalar.write, List.append_assoc, List.cons_append, List.nil_append, List.append_nil]

/-- Settings are saved as a plain document. -/
theorem toText_of_fits {s : Settings} (fits : s.probe.gasLimit.toNat ≤ largestNumber) :
    s.toText = .ok (String.ofList
      (Toml.document s.excludeEntries "extractor" (probeEntries s.probe))) := by
  have exclude : "exclude = ".toList = "exclude".toList ++ [' ', '=', ' '] := rfl
  have feeds : "\n\n".toList = ['\n', '\n'] := rfl
  rw [toText, if_neg (Nat.not_lt.2 fits)]
  congr 1
  rw [← String.toList_inj, String.toList_ofList, String.toList_append, toList_probeText,
    Toml.document]
  congr 1
  cases given : s.exclude with
  | none =>
      simp only [excludeEntries, given]
      rfl
  | some pattern =>
      simp only [excludeEntries, given, String.toList_append, exclude, feeds, toList_writeText,
        Toml.lines, List.flatMap_cons, List.flatMap_nil, Assignment.line, Scalar.write,
        List.isEmpty_cons, List.append_assoc, List.cons_append, List.nil_append, List.append_nil]
      rfl

theorem excludeEntries_keys (s : Settings) :
    ((s.excludeEntries.map Assignment.key) ++ ["extractor"]).Nodup := by
  unfold excludeEntries
  cases s.exclude with
  | none => simp
  | some pattern => simp

theorem probeEntries_keys (s : ProbeSettings) : ((probeEntries s).map Assignment.key).Nodup := by
  simp [probeEntries]

theorem entries_fit {s : Settings} (fits : s.probe.gasLimit.toNat ≤ largestNumber) :
    ∀ e ∈ s.excludeEntries ++ probeEntries s.probe, e.scalar.Fits := by
  have below : s.probe.gasLimit.toNat < Toml.integerLimit := Nat.lt_succ_of_le fits
  intro e member
  rcases List.mem_append.1 member with front | back
  · unfold excludeEntries at front
    cases given : s.exclude with
    | none => simp [given] at front
    | some pattern =>
        rw [given] at front
        rw [List.mem_singleton.1 front]
        trivial
  · simp only [probeEntries, List.mem_cons, List.not_mem_nil, or_false] at back
    rcases back with rfl | rfl | rfl | rfl
    · trivial
    · exact below
    · trivial
    · trivial

/-- **What settings are saved as denotes their table.** -/
theorem ofText?_toText {s : Settings} (fits : s.probe.gasLimit.toNat ≤ largestNumber) :
    ∃ text, s.toText = .ok text ∧ Toml.ofText? text = some s.table :=
  ⟨_, toText_of_fits fits, Toml.ofText?_document (by decide) (entries_fit fits)
    (excludeEntries_keys s) (probeEntries_keys s.probe)⟩

/-! ## The settings of a table -/

open Record in
theorem readDecoding_name (d : Version.Decoding) :
    Form.readDecoding (Toml.text (Form.decodingName d)) = .ok d := by
  cases d with
  | hexDigits => exact readVariant_of_lookup rfl rfl
  | integer => exact readVariant_of_lookup rfl rfl

theorem readProbeSettings_table (s : ProbeSettings) :
    Form.readProbeSettings (Toml.table .header ((probeEntries s).map Assignment.field)) = .ok s := by
  have signature : Record.readText (Toml.text s.signature) = .ok s.signature :=
    Record.readText_of_shape rfl
  have gasLimit : Record.readUInt64 (Toml.integer s.gasLimit.toNat) = .ok s.gasLimit :=
    Record.readUInt64_of_shape rfl
  have fallback : Form.readVersion (Toml.text s.fallback.toText) = .ok s.fallback :=
    Form.readVersion_of_shape rfl
  have decoding := readDecoding_name s.decoding
  let layout : Record.Layout Toml Form.ProbeSoFar ProbeSettings := Form.probeLayout
  have filled : Record.readNamed layout.fields
      ((probeEntries s).map fun e => (some e.key, e.scalar.value)) layout.blank =
      .ok ⟨some s.signature, some s.gasLimit, some s.fallback, some s.decoding⟩ := by
    simp [layout, Form.probeLayout, Form.fieldOf, Record.readNamed, probeEntries, Scalar.value,
      signature, gasLimit, fallback, decoding, bind_ok, pure, Except.pure]
  show layout.read _ = .ok s
  exact Record.Layout.read_of_shape rfl filled rfl

/-- **The table of settings shows them.** -/
theorem readSettings_table (s : Settings) : Form.readSettings s.table = .ok s := by
  obtain ⟨exclude, probe⟩ := s
  let layout : Record.Layout Toml Form.SettingsSoFar Settings := Form.settingsLayout
  have readProbe := readProbeSettings_table probe
  cases exclude with
  | none =>
      have filled : Record.readNamed layout.fields
          [(some "extractor", .table .header ((probeEntries probe).map Assignment.field))] layout.blank =
          .ok ⟨none, some probe⟩ := by
        simp [layout, Form.settingsLayout, Form.fieldOf, Record.readNamed, readProbe, bind_ok, pure,
          Except.pure]
      show layout.read _ = .ok ⟨none, probe⟩
      exact Record.Layout.read_of_shape rfl filled rfl
  | some pattern =>
      have readExclude : Record.readOptionalText (Toml.text pattern) = .ok (some pattern) :=
        Record.readOptionalText_of_shape rfl
      have filled : Record.readNamed layout.fields
          [(some "exclude", .text pattern),
            (some "extractor", .table .header ((probeEntries probe).map Assignment.field))]
          layout.blank = .ok ⟨some (some pattern), some probe⟩ := by
        simp [layout, Form.settingsLayout, Form.fieldOf, Record.readNamed, readProbe, readExclude,
          bind_ok, pure, Except.pure]
      show layout.read _ = .ok ⟨some pattern, probe⟩
      exact Record.Layout.read_of_shape rfl filled rfl

/-! ## Saving and loading -/

/-- What is loaded from saved settings is what was saved, if it passes the check. -/
theorem ofText_saved (s : Settings) {text : String} (table : Toml.ofText? text = some s.table) :
    ofText text =
      match s.check with
      | .ok () => .ok s
      | .error flaw => .error (.unusable flaw) := by
  rw [ofText, table]
  simp only [readSettings_table]
  cases s.check <;> rfl

/-- **Settings that are saved are loaded again.** If the gas limit is a whole number of TOML, which
ends before two to the 63rd, saving succeeds on every file system that keeps what is written;
loading then gives the same settings if they can be used, and else says that they cannot. Any other
gas limit is refused before anything is written. -/
theorem loadIn_saveIn {σ : Type} (files : FileSystem σ) (root : Files.Path) (disk : σ)
    (s : Settings) :
    (files.Keeps (root.child fileName) disk → s.probe.gasLimit.toNat ≤ 9223372036854775807 →
      ∃ after, (saveIn files root s).run disk = (.ok (), after) ∧
        (s.check = .ok () → loadIn files root after = .ok s) ∧
        ∀ flaw, s.check = .error flaw →
          loadIn files root after = .error (.unusable flaw) ∧
          (Trouble.unusable flaw).account =
            flaw.account.within "Invalid .contract-semver.toml configuration") ∧
    (9223372036854775808 ≤ s.probe.gasLimit.toNat →
      (saveIn files root s).run disk = (.error .unwritable, disk)) := by
  constructor
  · intro keeps fits
    obtain ⟨text, written, table⟩ := ofText?_toText (s := s) fits
    obtain ⟨after, stored, kept⟩ := keeps text
    have loaded : loadIn files root after = ofText text := by
      rw [loadIn, kept, load]
    have saved := ofText_saved s table
    refine ⟨after, ?_, fun usable => ?_, fun flaw found => ⟨?_, ?_⟩⟩
    · rw [saveIn, save, written, StateT.run_bind, stored]
      rfl
    · rw [loaded, saved, usable]
    · rw [loaded, saved, found]
    · rfl
  · intro large
    have refused : s.toText = .error .unwritable := by
      rw [toText, if_pos (Nat.lt_of_lt_of_le (by decide) large)]
    rw [saveIn, save, refused]
    rfl

/-! ## Settings that take every style of quotes -/

/-- Three quotes of either kind in a row, line breaks, a control character and a letter beyond ASCII,
and the largest number in a version. -/
def quotedSettings : Settings where
  exclude := some "^\\.'''\"\"\"\n\r\t\x7f\u00e9"
  probe := { ProbeSettings.default with fallback := ⟨18446744073709551615, 0, 7, 1⟩ }

/-- The same settings with another gas limit. -/
def quotedWithin (gasLimit : UInt64) : Settings :=
  { quotedSettings with probe := { quotedSettings.probe with gasLimit } }

theorem check_quotedSettings : quotedSettings.check = .ok () := by cbv

theorem check_quotedWithin : (quotedWithin 21064).check = .error (.gasLimit 21064) := by cbv

/-- The directory of a project whose settings file holds something else. -/
def usedDisk : Files.Disk := ⟨some (.directory [(fileName, .file "exclude = 1".toUTF8)])⟩

/-- The path of the project's directory. -/
def hereRoot : Files.Path := ⟨""⟩

theorem leadsTo_fileName : Files.LeadsTo (hereRoot.child fileName) fileName where
  checked := by decide +kernel
  steps := by
    have unbroken : Files.Unbroken fileName 21 := by decide +kernel
    rw [Files.Path.steps, show (hereRoot.child fileName).written = fileName by decide +kernel,
      Files.splitOn_of_unbroken unbroken]
    decide +kernel
  file := by decide +kernel
  named := by decide +kernel
  short := by decide +kernel

/-- What the file held before is gone, and the settings come back as they were. Settings that starve
every call are saved but not loaded, and a gas limit that cannot be written leaves the file alone. -/
theorem loadIn_saveIn_quoted :
    FileSystem.inMemory.Keeps (hereRoot.child fileName) usedDisk ∧
      (∃ after, (saveIn .inMemory hereRoot quotedSettings).run usedDisk = (.ok (), after) ∧
        loadIn .inMemory hereRoot after = .ok quotedSettings) ∧
      (∃ after, (saveIn .inMemory hereRoot (quotedWithin 21064)).run usedDisk = (.ok (), after) ∧
        loadIn .inMemory hereRoot after = .error (.unusable (.gasLimit 21064))) ∧
      (saveIn .inMemory hereRoot (quotedWithin 9223372036854775808)).run usedDisk =
        (.error .unwritable, usedDisk) := by
  have keeps : FileSystem.inMemory.Keeps (hereRoot.child fileName) usedDisk :=
    FileSystem.inMemory_keeps leadsTo_fileName fun inner => by simp
  obtain ⟨back, -⟩ := loadIn_saveIn .inMemory hereRoot usedDisk quotedSettings
  obtain ⟨after, saved, loaded, -⟩ := back keeps (by decide)
  obtain ⟨kept, -⟩ := loadIn_saveIn .inMemory hereRoot usedDisk (quotedWithin 21064)
  obtain ⟨starved, stored, -, refused⟩ := kept keeps (by decide)
  obtain ⟨-, unwritten⟩ :=
    loadIn_saveIn .inMemory hereRoot usedDisk (quotedWithin 9223372036854775808)
  exact ⟨keeps, ⟨after, saved, loaded check_quotedSettings⟩,
    ⟨starved, stored, (refused _ check_quotedWithin).1⟩, unwritten (by decide)⟩

end Settings

end ReleaseGate
