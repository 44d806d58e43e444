/-
# Proofs.Build.Loading — what loading a directory comes to

The files of a directory that count are those named for JSON (`IsJsonName`), in the
order of their paths (`jsonPaths`). What one of them comes to is told by two relations on what
is read from it: it holds an artifact or is passed over (`Holds`), or it stops the loading with a
fault (`Stops`). Each file is in one of them, and in one way (`value_artifactIn_eq_ok_iff`,
`value_artifactIn_eq_error_iff`).

Loading goes through the files one by one, so a directory has the artifacts of all its
files, or the fault of the first file that stops it.

* `load_exact`: both, in whatever order the directory is listed.
-/
import Mathlib
import ReleaseGate.Build.Directory
import ReleaseGate.Proofs.Files.Names
import ReleaseGate.Proofs.Form.Artifacts

namespace ReleaseGate.Build

set_option autoImplicit false

open Files (join)
open Record (readText)

/-! ## Lists -/

section Lists

variable {α β : Type} {as : List α}

theorem reduceOption_cons (o : Option α) (more : List (Option α)) :
    (o :: more).reduceOption = o.toList ++ more.reduceOption := by
  cases o <;> rfl

theorem exists_forall₂_iff {related : α → β → Prop} :
    (∃ bs, List.Forall₂ related as bs) ↔ ∀ a ∈ as, ∃ b, related a b := by
  induction as with
  | nil => simp
  | cons a rest ih =>
      rw [List.forall_mem_cons, ← ih]
      simp only [List.forall₂_cons_left_iff]
      constructor
      · rintro ⟨_, b, bs, first, others, -⟩
        exact ⟨⟨b, first⟩, bs, others⟩
      · rintro ⟨⟨b, first⟩, bs, others⟩
        exact ⟨_, b, bs, first, others, rfl⟩

/-- In an ordered list, what stands before the first place of an item is what is smaller. -/
theorem exists_split_iff [LinearOrder α] (ascending : as.SortedLE) {holds stops : α → Prop} :
    (∃ front a back, as = front ++ a :: back ∧ (∀ earlier ∈ front, holds earlier) ∧ stops a) ↔
      ∃ a ∈ as, stops a ∧ ∀ other ∈ as, other < a → holds other := by
  constructor
  · rintro ⟨front, a, back, rfl, before, stopped⟩
    obtain ⟨-, above, -⟩ := List.pairwise_append.1 ascending.pairwise
    refine ⟨a, by simp, stopped, fun other member less => ?_⟩
    rcases List.mem_append.1 member with early | late
    · exact before other early
    · exfalso
      rcases List.mem_cons.1 late with rfl | late
      · exact lt_irrefl _ less
      · exact not_lt.2 (List.rel_of_pairwise_cons above late) less
  · rintro ⟨a, member, stopped, before⟩
    obtain ⟨front, back, rfl, new⟩ := List.eq_append_cons_of_mem member
    obtain ⟨-, -, below⟩ := List.pairwise_append.1 ascending.pairwise
    refine ⟨front, a, back, rfl, fun earlier early => ?_, stopped⟩
    have unlike : earlier ≠ a := fun same => new (same ▸ early)
    exact before earlier (List.mem_append_left _ early)
      (lt_of_le_of_ne (below earlier early a List.mem_cons_self) unlike)

theorem exists_split_map_iff {f : α → β} {holds stops : β → Prop} :
    (∃ front b back, as.map f = front ++ b :: back ∧ (∀ earlier ∈ front, holds earlier) ∧
      stops b) ↔
        ∃ front a back, as = front ++ a :: back ∧ (∀ earlier ∈ front, holds (f earlier)) ∧
          stops (f a) := by
  constructor
  · rintro ⟨_, _, _, split, before, stopped⟩
    obtain ⟨front, rest, whole, rfl, tail⟩ := List.map_eq_append_iff.1 split
    obtain ⟨a, back, rfl, rfl, rfl⟩ := List.map_eq_cons_iff.1 tail
    exact ⟨front, a, back, whole, List.forall_mem_map.1 before, stopped⟩
  · rintro ⟨front, a, back, rfl, before, stopped⟩
    exact ⟨front.map f, f a, back.map f, by rw [List.map_append, List.map_cons],
      List.forall_mem_map.2 before, stopped⟩

end Lists

/-! ## Files that count -/

/-- Whether a name ends in `.json` and does not begin there. -/
def IsJsonName (name : String) : Prop := ∃ stem, stem ≠ "" ∧ name = stem ++ ".json"

theorem hasExtension_json_iff {name : String} :
    Files.hasExtension "json" name ↔ IsJsonName name := by
  rw [Files.hasExtension_iff (by decide) (by decide)]
  simp only [IsJsonName, String.append_assoc]
  rfl

instance : DecidablePred IsJsonName := fun _ => decidable_of_iff _ hasExtension_json_iff

/-- The paths of the files named for JSON, in order. -/
def jsonPaths (directory : String) (names : List String) : List String :=
  ((names.filter (IsJsonName ·)).map (join directory)).mergeSort (· ≤ ·)

/-- The names of the files named for JSON, in order. -/
def jsonNames (names : List String) : List String :=
  (names.filter (IsJsonName ·)).mergeSort (· ≤ ·)

theorem jsonPaths_eq (directory : String) (names : List String) :
    jsonPaths directory names = (jsonNames names).map (join directory) := by
  refine (List.map_mergeSort fun a _ b _ => ?_).symm
  rw [decide_eq_decide, ← not_lt, ← not_lt, Files.join_lt_join_iff]

theorem jsonPaths_eq_of_perm {directory : String} {names paths : List String}
    (ascending : paths.Pairwise (· ≤ ·))
    (same : paths.Perm ((names.filter (IsJsonName ·)).map (join directory))) :
    jsonPaths directory names = paths :=
  List.Perm.eq_of_sortedLE List.sortedLE_mergeSort ascending.sortedLE
    ((List.mergeSort_perm _ _).trans same.symm)

theorem mem_jsonNames_iff {names : List String} {name : String} :
    name ∈ jsonNames names ↔ name ∈ names ∧ IsJsonName name := by
  simp [jsonNames]

theorem ascending_jsonNames (names : List String) : (jsonNames names).SortedLE :=
  List.sortedLE_mergeSort

theorem jsonNames_perm {names names' : List String}
    (same : (names.filter (IsJsonName ·)).Perm (names'.filter (IsJsonName ·))) :
    jsonNames names = jsonNames names' := by
  refine List.Perm.eq_of_sortedLE (ascending_jsonNames _) (ascending_jsonNames _) ?_
  exact (List.mergeSort_perm _ _).trans (same.trans (List.mergeSort_perm _ _).symm)

/-! ## Directories -/

/-- A file of a directory, where `read` says what reading a path comes to. -/
def fileAt (read : String → Files.Contents) (directory name : String) : Files.Item :=
  ⟨name, read (join directory name)⟩

/-- A directory of some names. -/
def listing (read : String → Files.Contents) (directory : String) (names : List String) :
    Files.Listing :=
  .ok (names.map (fileAt read directory))

theorem candidates_listing (read : String → Files.Contents) (directory : String)
    (names : List String) :
    candidates (names.map (fileAt read directory)) =
      (jsonNames names).map (fileAt read directory) := by
  have kept : (names.map (fileAt read directory)).filter
      (fun item => Files.hasExtension "json" item.name) =
        (names.filter (IsJsonName ·)).map (fileAt read directory) := by
    rw [List.filter_map]
    refine congrArg _ (List.filter_congr fun name _ => ?_)
    rw [Bool.eq_iff_iff, decide_eq_true_eq]
    exact hasExtension_json_iff
  rw [candidates, kept]
  refine (List.map_mergeSort fun a _ b _ => ?_).symm
  rw [← decide_not, decide_eq_decide, not_lt]
  rfl

/-! ## One file -/

/-- What a file holds that does not stop the loading: an artifact, or nothing if the file is
passed over. Without bytecode an artifact has the empty text. -/
inductive Holds : Files.Contents → Option Artifact → Prop where
  | nameless {text : String} {value : Json} (parsed : Json.ofText? text = some value)
      (unnamed : ∀ name, value.field? "contractName" ≠ some (.text name)) :
      Holds (.ok text) none
  | bare {text name : String} {value : Json} (parsed : Json.ofText? text = some value)
      (named : value.field? "contractName" = some (.text name))
      (noCode : value.field? "deployedBytecode" = none) : Holds (.ok text) (some ⟨name, ""⟩)
  | full {text name code : String} {value : Json} (parsed : Json.ofText? text = some value)
      (named : value.field? "contractName" = some (.text name))
      (told : value.field? "deployedBytecode" = some (.text code)) :
      Holds (.ok text) (some ⟨name, code⟩)

/-- With what fault a file stops the loading: it cannot be read, it is not JSON, or the bytecode
of the contract that it names is no text. -/
inductive Stops (path : String) : Files.Contents → LoadFault → Prop where
  | unreadable (fault : Files.Fault) : Stops path (.error fault) (.unreadable path fault)
  | malformed {text : String} (noJson : Json.ofText? text = none) :
      Stops path (.ok text) (.unparsable path none)
  | mistyped {text name : String} {value part : Json} {m : Record.Mismatch}
      (parsed : Json.ofText? text = some value)
      (named : value.field? "contractName" = some (.text name))
      (told : value.field? "deployedBytecode" = some part)
      (other : readText part = .error (.mismatch m)) :
      Stops path (.ok text) (.unparsable path (some m.message))

theorem namesContract_iff {value : Json} :
    namesContract value ↔ ∃ name, value.field? "contractName" = some (.text name) := by
  cases found : value.field? "contractName" with
  | none => simp [namesContract, found]
  | some part => cases part <;> simp [namesContract, found]

section Files

variable {path text : String} {contents : Files.Contents} {value : Json}

theorem value_artifactIn_of_name {name : String} (parsed : Json.ofText? text = some value)
    (named : value.field? "contractName" = some (.text name)) :
    (artifactIn path (.ok text)).value =
      ((Form.readBytecode (value.field? "deployedBytecode")).mapError (refusalFault path)).map
        fun code => some ⟨name, code.getD ""⟩ := by
  have read := Form.readArtifact_of_name (Json.distinct_of_ofText? parsed) named
  simp only [artifactIn, parsed, namesContract_iff.2 ⟨name, named⟩, if_true, Logged.value_pure, read]
  cases Form.readBytecode (value.field? "deployedBytecode") <;> rfl

theorem value_artifactIn_of_holds {found : Option Artifact} (holds : Holds contents found) :
    (artifactIn path contents).value = .ok found := by
  cases holds with
  | nameless parsed unnamed =>
      have other := Bool.eq_false_iff.2 fun names =>
        (namesContract_iff.1 names).elim unnamed
      simp [artifactIn, parsed, other]
  | bare parsed named noCode =>
      rw [value_artifactIn_of_name parsed named, noCode]
      rfl
  | full parsed named told =>
      rw [value_artifactIn_of_name parsed named, told]
      rfl

theorem value_artifactIn_of_stops {fault : LoadFault} (stops : Stops path contents fault) :
    (artifactIn path contents).value = .error fault := by
  cases stops with
  | unreadable fault => rfl
  | malformed noJson => simp [artifactIn, noJson]
  | mistyped parsed named told other =>
      rw [value_artifactIn_of_name parsed named, told, Form.readBytecode, other]
      rfl

/-- Nothing else can be read from a file. -/
theorem holds_or_stops (path : String) (contents : Files.Contents) :
    (∃ found, Holds contents found) ∨ ∃ fault, Stops path contents fault := by
  obtain fault | text := contents
  · exact .inr ⟨_, .unreadable fault⟩
  · cases parsed : Json.ofText? text with
    | none => exact .inr ⟨_, .malformed parsed⟩
    | some value =>
        by_cases names : ∃ name, value.field? "contractName" = some (.text name)
        · obtain ⟨name, named⟩ := names
          cases told : value.field? "deployedBytecode" with
          | none => exact .inl ⟨_, .bare parsed named told⟩
          | some part =>
              cases read : readText part with
              | ok code =>
                  rw [Form.readText_json_eq_ok_iff.1 read] at told
                  exact .inl ⟨_, .full parsed named told⟩
              | error refusal =>
                  obtain ⟨m, rfl⟩ := Form.exists_mismatch_of_readText read
                  exact .inr ⟨_, .mistyped parsed named told read⟩
        · exact .inl ⟨none, .nameless parsed fun name named => names ⟨name, named⟩⟩

theorem value_artifactIn_eq_ok_iff {found : Option Artifact} :
    (artifactIn path contents).value = .ok found ↔ Holds contents found := by
  refine ⟨fun done => ?_, value_artifactIn_of_holds⟩
  rcases holds_or_stops path contents with ⟨found', holds⟩ | ⟨fault, stops⟩
  · rw [value_artifactIn_of_holds holds] at done
    cases done
    exact holds
  · rw [value_artifactIn_of_stops stops] at done
    cases done

theorem value_artifactIn_eq_error_iff {fault : LoadFault} :
    (artifactIn path contents).value = .error fault ↔ Stops path contents fault := by
  refine ⟨fun done => ?_, value_artifactIn_of_stops⟩
  rcases holds_or_stops path contents with ⟨found, holds⟩ | ⟨fault', stops⟩
  · rw [value_artifactIn_of_holds holds] at done
    cases done
  · rw [value_artifactIn_of_stops stops] at done
    cases done
    exact stops

end Files

/-! ## One file after the other -/

section Items

variable {directory : String} {items : List Files.Item}

theorem value_artifactsIn_cons (item : Files.Item) (rest : List Files.Item) :
    (artifactsIn directory (item :: rest)).value =
      (artifactIn (join directory item.name) item.contents).value >>= fun found =>
        (artifactsIn directory rest).value.map (found.toList ++ ·) := by
  rw [artifactsIn, Logged.value_bind]
  cases (artifactIn (join directory item.name) item.contents).value <;> rfl

/-- Some files have artifacts if none of them stops. -/
theorem value_artifactsIn_eq_ok_iff {artifacts : List Artifact} :
    (artifactsIn directory items).value = .ok artifacts ↔
      ∃ founds, List.Forall₂ (fun item found => Holds item.contents found) items founds ∧
        artifacts = founds.reduceOption := by
  induction items generalizing artifacts with
  | nil => simp [artifactsIn, eq_comm, List.reduceOption]
  | cons item rest ih =>
      simp only [value_artifactsIn_cons, bind_eq_ok, map_eq_ok, value_artifactIn_eq_ok_iff, ih,
        List.forall₂_cons_left_iff]
      constructor
      · rintro ⟨found, holds, _, ⟨founds, others, rfl⟩, rfl⟩
        exact ⟨found :: founds, ⟨found, founds, holds, others, rfl⟩, (reduceOption_cons _ _).symm⟩
      · rintro ⟨_, ⟨found, founds, holds, others, rfl⟩, rfl⟩
        exact ⟨found, holds, _, ⟨founds, others, rfl⟩, (reduceOption_cons _ _).symm⟩

/-- Some files stop with the fault of the first one that does. -/
theorem value_artifactsIn_eq_error_iff {fault : LoadFault} :
    (artifactsIn directory items).value = .error fault ↔
      ∃ front item back, items = front ++ item :: back ∧
        (∀ earlier ∈ front, ∃ found, Holds earlier.contents found) ∧
          Stops (join directory item.name) item.contents fault := by
  induction items with
  | nil => simp [artifactsIn]
  | cons item rest ih =>
      simp only [value_artifactsIn_cons, bind_eq_error, map_eq_error, value_artifactIn_eq_ok_iff,
        value_artifactIn_eq_error_iff, ih]
      constructor
      · rintro (stops | ⟨found, holds, front, later, back, rfl, before, stops⟩)
        · exact ⟨[], item, rest, rfl, by simp, stops⟩
        · exact ⟨item :: front, later, back, rfl, List.forall_mem_cons.2 ⟨⟨found, holds⟩, before⟩,
            stops⟩
      · rintro ⟨_ | ⟨first, front⟩, later, back, same, before, stops⟩
        · cases same
          exact .inl stops
        · cases same
          obtain ⟨⟨found, holds⟩, before⟩ := List.forall_mem_cons.1 before
          exact .inr ⟨found, holds, front, later, back, rfl, before, stops⟩

end Items

/-! ## The whole directory -/

section Load

variable {read read' : String → Files.Contents} {directory : String} {names names' : List String}

theorem value_load_ok (items : List Files.Item) :
    (load directory (.ok items)).value = (artifactsIn directory (candidates items)).value := by
  rw [load, Logged.value_bind]
  cases (artifactsIn directory (candidates items)).value <;> rfl

theorem load_congr {items items' : List Files.Item} (same : candidates items = candidates items') :
    load directory (.ok items) = load directory (.ok items') := by
  rw [load, load, same]

/-- Loading sees the files named for JSON, and no other. -/
theorem load_listing_congr
    (same : (names.filter (IsJsonName ·)).Perm (names'.filter (IsJsonName ·)))
    (agree : ∀ name ∈ names, IsJsonName name →
      read (join directory name) = read' (join directory name)) :
    load directory (listing read directory names) =
      load directory (listing read' directory names') := by
  refine load_congr ?_
  rw [candidates_listing, candidates_listing, ← jsonNames_perm same]
  refine List.map_congr_left fun name member => ?_
  obtain ⟨isIn, counts⟩ := mem_jsonNames_iff.1 member
  rw [fileAt, fileAt, agree name isIn counts]

theorem value_load_eq_ok_iff {artifacts : List Artifact} :
    (load directory (listing read directory names)).value = .ok artifacts ↔
      ∃ founds, List.Forall₂ (fun path found => Holds (read path) found)
        (jsonPaths directory names) founds ∧ artifacts = founds.reduceOption := by
  rw [listing, value_load_ok, candidates_listing, value_artifactsIn_eq_ok_iff, jsonPaths_eq]
  simp only [List.forall₂_map_left_iff, fileAt]

theorem exists_value_load_eq_ok_iff :
    (∃ artifacts, (load directory (listing read directory names)).value = .ok artifacts) ↔
      ∀ name ∈ names, IsJsonName name → ∃ found, Holds (read (join directory name)) found := by
  have whole : (∃ artifacts,
      (load directory (listing read directory names)).value = .ok artifacts) ↔
        ∃ founds, List.Forall₂ (fun path found => Holds (read path) found)
          (jsonPaths directory names) founds := by
    simp only [value_load_eq_ok_iff]
    exact ⟨fun ⟨_, founds, each, _⟩ => ⟨founds, each⟩, fun ⟨founds, each⟩ => ⟨_, founds, each, rfl⟩⟩
  rw [whole, exists_forall₂_iff, jsonPaths_eq]
  simp only [List.forall_mem_map, mem_jsonNames_iff, and_imp]

theorem value_load_eq_error_iff {fault : LoadFault} :
    (load directory (listing read directory names)).value = .error fault ↔
      ∃ name ∈ names, IsJsonName name ∧
        Stops (join directory name) (read (join directory name)) fault ∧
        ∀ other ∈ names, IsJsonName other → join directory other < join directory name →
          ∃ found, Holds (read (join directory other)) found := by
  rw [listing, value_load_ok, candidates_listing, value_artifactsIn_eq_error_iff,
    exists_split_map_iff]
  simp only [fileAt]
  rw [exists_split_iff (ascending_jsonNames names)]
  simp only [mem_jsonNames_iff, and_assoc, and_imp, Files.join_lt_join_iff]

/-- **Loading a directory is exact, in whatever order it is listed.** The whole result, the
journal included, is the same for every order of the names, and for any two directories that
agree on the files named for JSON. Artifacts come back exactly if every one of these files
holds something: they are what the files hold, in the order of the paths, without those that
were passed over. A fault comes back exactly if it is that of a file which stops the loading
while all files before it in the order of the paths hold something. -/
theorem load_exact (read : String → Files.Contents) (directory : String) (names : List String) :
    (∀ names', names.Perm names' → load directory (listing read directory names) =
      load directory (listing read directory names')) ∧
    (∀ read' names', (names.filter (IsJsonName ·)).Perm (names'.filter (IsJsonName ·)) →
      (∀ name ∈ names, IsJsonName name →
        read (join directory name) = read' (join directory name)) →
          load directory (listing read directory names) =
            load directory (listing read' directory names')) ∧
    ((∃ artifacts, (load directory (listing read directory names)).value = .ok artifacts) ↔
      ∀ name ∈ names, IsJsonName name → ∃ found, Holds (read (join directory name)) found) ∧
    (∀ artifacts, (load directory (listing read directory names)).value = .ok artifacts ↔
      ∃ founds, List.Forall₂ (fun path found => Holds (read path) found)
        (jsonPaths directory names) founds ∧ artifacts = founds.reduceOption) ∧
    ∀ fault, (load directory (listing read directory names)).value = .error fault ↔
      ∃ name ∈ names, IsJsonName name ∧
        Stops (join directory name) (read (join directory name)) fault ∧
        ∀ other ∈ names, IsJsonName other → join directory other < join directory name →
          ∃ found, Holds (read (join directory other)) found := by
  refine ⟨?order, ?others, exists_value_load_eq_ok_iff, ?_, ?_⟩
  case order =>
    intro names' same
    exact load_listing_congr (same.filter _) fun _ _ _ => rfl
  case others =>
    intro read' names' same agree
    exact load_listing_congr same agree
  · intro artifacts
    exact value_load_eq_ok_iff
  · intro fault
    exact value_load_eq_error_iff

end Load

/-- A build with a contract that has no code, a file about something else, and a contract
whose code is a number; a file that is not named for JSON cannot be read. -/
def smallBuild (path : String) : Files.Contents :=
  if path = "build/Vault.json" then .ok "\x7b\"contractName\": \"Vault\"\x7d"
  else if path = "build/Meta.json" then .ok "\x7b\"network\": \"mainnet\"\x7d"
  else if path = "build/Token.json" then
    .ok "\x7b\"contractName\": \"Token\", \"deployedBytecode\": 7\x7d"
  else .error .notText

theorem holds_vault : Holds (smallBuild "build/Vault.json") (some ⟨"Vault", ""⟩) := by
  have parsed : Json.ofText? "\x7b\"contractName\": \"Vault\"\x7d" =
      some (.object [("contractName", .text "Vault")]) := by cbv
  exact .bare parsed rfl rfl

theorem holds_meta : Holds (smallBuild "build/Meta.json") none := by
  have parsed : Json.ofText? "\x7b\"network\": \"mainnet\"\x7d" =
      some (.object [("network", .text "mainnet")]) := by cbv
  refine .nameless parsed ?_
  intro name named
  cases named

theorem stops_token : Stops "build/Token.json" (smallBuild "build/Token.json")
    (.unparsable "build/Token.json" (some "invalid type: integer `7`, expected a string")) := by
  have parsed : Json.ofText? "\x7b\"contractName\": \"Token\", \"deployedBytecode\": 7\x7d" =
      some (.object [("contractName", .text "Token"),
        ("deployedBytecode", .number (.integer 7 (by decide) (by decide)))]) := by cbv
  exact .mistyped parsed rfl rfl rfl

/-- The vault is loaded beside a file that does not count, in either order; with the token beside
it the code of the token stops the loading. -/
theorem load_exact_small :
    (load "build" (listing smallBuild "build" ["Vault.json", "README.md", "Meta.json"])).value =
      .ok [⟨"Vault", ""⟩] ∧
    ["Vault.json", "README.md", "Meta.json"].Perm ["Meta.json", "Vault.json", "README.md"] ∧
    load "build" (listing smallBuild "build" ["Vault.json", "README.md", "Meta.json"]) =
      load "build" (listing smallBuild "build" ["Meta.json", "Vault.json", "README.md"]) ∧
    (load "build" (listing smallBuild "build" ["Vault.json", "Token.json", "Meta.json"])).value =
      .error (.unparsable "build/Token.json"
        (some "invalid type: integer `7`, expected a string")) := by
  have vault : join "build" "Vault.json" = "build/Vault.json" := by cbv
  have network : join "build" "Meta.json" = "build/Meta.json" := by cbv
  have token : join "build" "Token.json" = "build/Token.json" := by cbv
  have order : ["Vault.json", "README.md", "Meta.json"].Perm
      ["Meta.json", "Vault.json", "README.md"] := by decide
  have kept : ["Vault.json", "README.md", "Meta.json"].filter (IsJsonName ·) =
      ["Vault.json", "Meta.json"] := by decide
  have paths : jsonPaths "build" ["Vault.json", "README.md", "Meta.json"] =
      ["build/Meta.json", "build/Vault.json"] := by
    refine jsonPaths_eq_of_perm (by decide) ?_
    rw [kept, List.map_cons, List.map_cons, List.map_nil, vault, network]
    exact .swap _ _ _
  obtain ⟨permuted, -, -, loaded, -⟩ :=
    load_exact smallBuild "build" ["Vault.json", "README.md", "Meta.json"]
  obtain ⟨-, -, -, -, refused⟩ :=
    load_exact smallBuild "build" ["Vault.json", "Token.json", "Meta.json"]
  refine ⟨(loaded _).2 ⟨[none, some ⟨"Vault", ""⟩], ?_, rfl⟩, order, permuted _ order,
    (refused _).2 ⟨"Token.json", by decide, by decide, token ▸ stops_token, ?_⟩⟩
  · rw [paths]
    exact .cons holds_meta (.cons holds_vault .nil)
  · intro other member _ less
    rcases (by simpa using member : other = "Vault.json" ∨ other = "Token.json" ∨
      other = "Meta.json") with rfl | rfl | rfl
    · exact ⟨_, vault ▸ holds_vault⟩
    · exact absurd less (lt_irrefl _)
    · exact ⟨_, network ▸ holds_meta⟩

end ReleaseGate.Build
