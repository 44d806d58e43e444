/-
# Proofs.Files.Systems — file systems that keep what is written

A file system is any way to read and write files (`FileSystem`), and it keeps a file
if what is written there is read there again (`FileSystem.Keeps`). The disk in
memory is such a file system: a text that is written to a name of its root directory
is found by the same path (`inMemory_keeps`), whatever else the directory holds.
-/
import ReleaseGate.Files.Tree
import ReleaseGate.Proofs.Outcomes

namespace ReleaseGate

set_option autoImplicit false

/-- A way to read and write files, and what it remembers. -/
structure FileSystem (σ : Type) where
  read : Files.Path → σ → Files.Contents
  write : Files.Path → ByteArray → StateM σ (Except Files.Fault Unit)

namespace FileSystem

/-- Whether the file at a path can be written, and then holds what was written. -/
def Keeps {σ : Type} (files : FileSystem σ) (path : Files.Path) (disk : σ) : Prop :=
  ∀ text : String, ∃ after, (files.write path text.toUTF8).run disk = (.ok (), after) ∧
    files.read path after = .ok text

/-- Files and directories in memory. -/
def inMemory : FileSystem Files.Disk where
  read path disk := disk.read path
  write path bytes := (Files.Action.write path bytes).run

end FileSystem

namespace Files

/-! ## Actions link by link -/

namespace Action

variable {α β : Type}

theorem run_bind_of_ok {action : Action α} {next : α → Action β} {before between after : Disk}
    {a : α} {result : Except Fault β} (first : action.run.run before = (.ok a, between))
    (rest : (next a).run.run between = (result, after)) :
    (action >>= next).run.run before = (result, after) := by
  show (action.run >>= ExceptT.bindCont next).run before = _
  rw [StateT.run_bind, first]
  exact rest

theorem run_look (f : Disk → Except Fault α) (disk : Disk) :
    (look f).run.run disk = (f disk, disk) := rfl

theorem run_get (disk : Disk) : (get : Action Disk).run.run disk = (.ok disk, disk) := rfl

theorem run_replace (location : Location) (new : Option Tree) (disk : Disk) :
    (replace location new).run.run disk = (.ok (), disk.replace location new) := rfl

end Action

/-! ## Paths of one step -/

/-- The place behind the first characters of a text. -/
def placeAfter (s : String) : Nat → String.Pos.Raw
  | 0 => 0
  | count + 1 => (placeAfter s count).next s

/-- Whether a text has so many characters and no slash among them. -/
def Unbroken (s : String) (count : Nat) : Prop :=
  (∀ k < count, (placeAfter s k).atEnd s = false ∧ (placeAfter s k).get s ≠ '/') ∧
    (placeAfter s count).atEnd s

instance (s : String) (count : Nat) : Decidable (Unbroken s count) := instDecidableAnd

theorem splitOnAux_placeAfter {s : String} {count : Nat}
    (inside : ∀ k < count, (placeAfter s k).atEnd s = false ∧ (placeAfter s k).get s ≠ '/') :
    s.splitOnAux "/" 0 0 0 [] = s.splitOnAux "/" 0 (placeAfter s count) 0 [] := by
  induction count with
  | zero => rfl
  | succ count ih =>
      obtain ⟨goesOn, other⟩ := inside count (Nat.lt_succ_self count)
      have slash : String.Pos.Raw.get "/" 0 = '/' := by decide
      have noSlash : ((placeAfter s count).get s == String.Pos.Raw.get "/" 0) = false := by
        simpa [slash] using other
      rw [ih fun k below => inside k (Nat.lt_succ_of_lt below), String.splitOnAux,
        if_neg (by simp [goesOn]), if_neg (by simp [noSlash])]
      simp [String.Pos.Raw.unoffsetBy, placeAfter]

/-- A text without slashes is not split. -/
theorem splitOn_of_unbroken {s : String} {count : Nat} (unbroken : Unbroken s count) :
    s.splitOn "/" = [String.Pos.Raw.extract s 0 (placeAfter s count)] := by
  rw [String.splitOn, if_neg (by decide), splitOnAux_placeAfter unbroken.1, String.splitOnAux,
    if_pos unbroken.2]
  rfl

/-! ## Files of the root directory -/

theorem lookup_put (name : String) (tree : Tree) (entries : List (String × Tree)) :
    (Tree.put name tree entries).lookup name = some tree := by
  induction entries with
  | nil => simp [Tree.put]
  | cons entry rest ih =>
      obtain ⟨key, value⟩ := entry
      by_cases same : key = name
      · simp [Tree.put, same]
      · have : (name == key) = false := by simpa using Ne.symm same
        simp [Tree.put, same, List.lookup_cons, this, ih]

/-- A path to a file in the root directory. -/
structure LeadsTo (path : Path) (name : String) : Prop where
  checked : path.check = .ok ()
  steps : path.steps = [name]
  file : path.endsInSlash = false
  named : Path.isDots name = false
  short : name.utf8ByteSize ≤ nameLimit

theorem fromUTF8?_toUTF8 (text : String) : String.fromUTF8? text.toUTF8 = some text := by
  unfold String.fromUTF8?
  split
  · rfl
  · next invalid => exact absurd (by simpa using text.isValidUTF8) invalid

variable {path : Path} {name : String} {entries : List (String × Tree)}

theorem run_write (leads : LeadsTo path name)
    (free : ∀ inner, entries.lookup name ≠ some (.directory inner)) (bytes : ByteArray) :
    (Action.write path bytes).run.run ⟨some (.directory entries)⟩ =
      (.ok (), ⟨some (.directory (Tree.put name (.file bytes) entries))⟩) := by
  obtain ⟨checked, steps, file, named, short⟩ := leads
  have located : Disk.locateLast ⟨some (.directory entries)⟩ path = .ok [] := by
    simp [Disk.locateLast, checked, steps, Disk.entries, Disk.at?, Tree.at?, bind_ok, pure,
      Except.pure]
  have stored : (Disk.mk (some (.directory entries))).replace [name] (some (.file bytes)) =
      ⟨some (.directory (Tree.put name (.file bytes) entries))⟩ := by
    cases held : entries.lookup name with
    | none => simp [Disk.replace, Tree.replace, held]
    | some tree => simp [Disk.replace, Tree.replace, held]
  have last : path.steps.getLast? = some name := by rw [steps]; rfl
  simp only [Action.write, last]
  refine Action.run_bind_of_ok (a := ()) (by rw [Action.run_look, checked]) ?_
  refine Action.run_bind_of_ok (a := []) (by rw [Action.run_look, located]) ?_
  rw [named, file, Bool.or_false, if_neg (by decide), if_neg (by omega)]
  refine Action.run_bind_of_ok (Action.run_get _) ?_
  split
  · next inner held =>
      have : entries.lookup name = some (.directory inner) := by
        cases there : entries.lookup name with
        | none => simp [Disk.at?, Tree.at?, there] at held
        | some tree => simpa [Disk.at?, Tree.at?, there] using held
      exact absurd this (free inner)
  · rw [List.nil_append, Action.run_replace, stored]

theorem read_written (leads : LeadsTo path name) (text : String) :
    Disk.read ⟨some (.directory (Tree.put name (.file text.toUTF8) entries))⟩ path = .ok text := by
  obtain ⟨checked, steps, file, named, short⟩ := leads
  let entries' := Tree.put name (.file text.toUTF8) entries
  have held : entries'.lookup name = some (.file text.toUTF8) := lookup_put name _ entries
  have noDots : name ≠ "." ∧ name ≠ ".." := by simpa [Path.isDots] using named
  have located : Disk.locate ⟨some (.directory entries')⟩ path = .ok [name] := by
    simp [Disk.locate, checked, steps, Disk.enter, Disk.entries, Disk.at?, Tree.at?, noDots,
      Nat.not_lt.2 short, held, bind_ok, pure, Except.pure]
  have found : Disk.find ⟨some (.directory entries')⟩ path = .ok (.file text.toUTF8) := by
    simp [Disk.find, located, Disk.at?, Tree.at?, held, file, bind_ok, pure, Except.pure]
  simp only [Disk.read, entries', found, bind_ok, fromUTF8?_toUTF8]
  rfl

end Files

/-- **The disk in memory keeps the files of its root directory.** -/
theorem FileSystem.inMemory_keeps {path : Files.Path} {name : String}
    (leads : Files.LeadsTo path name) {entries : List (String × Files.Tree)}
    (free : ∀ inner, entries.lookup name ≠ some (.directory inner)) :
    FileSystem.inMemory.Keeps path ⟨some (.directory entries)⟩ :=
  fun text => ⟨_, Files.run_write leads free text.toUTF8, Files.read_written leads text⟩

end ReleaseGate
