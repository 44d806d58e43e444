/-
# Form.Version — versions and bumps in documents

A version is its text; a delta and a way to decode a buffer are names; a bump
is a record of four deltas.
-/
import ReleaseGate.Json.Place
import ReleaseGate.Version.Buffer
import ReleaseGate.Version.Bump

namespace ReleaseGate.Form

set_option autoImplicit false

open Record

variable {ν : Type} [Source ν]

/-- A field that goes to an optional place of the record read so far. -/
def fieldOf {σ β : Type} (name : String) (get : σ → Option β) (set : σ → β → σ)
    (read : ν → Except Refusal β) : Field ν σ where
  name := name
  isSet s := (get s).isSome
  read part s := do return set s (← read part)

/-- A field that must not be missing. -/
def need {β : Type} (name : String) (place : Nat) : Option β → Except Absent β
  | some value => .ok value
  | none => .error ⟨name, place⟩

def readVersion (part : ν) : Except Refusal Version := do
  match Version.ofText (← readText part) with
  | .ok version => return version
  | .error fault => throw (.mismatch (.stated fault.message))

def versionJson (v : Version) : Json := .text v.toText

/-- The names of the deltas. -/
def deltaNames : List (String × Version.Delta) :=
  [("none", .keep), ("increment", .increment), ("reset", .reset)]

def readDelta (part : ν) : Except Refusal Version.Delta := readVariant deltaNames part

def deltaName : Version.Delta → String
  | .keep => "none"
  | .increment => "increment"
  | .reset => "reset"

/-- The names of the ways to decode a buffer. -/
def decodingNames : List (String × Version.Decoding) :=
  [("hex-digits", .hexDigits), ("integer", .integer)]

def readDecoding (part : ν) : Except Refusal Version.Decoding := readVariant decodingNames part

def decodingName : Version.Decoding → String
  | .hexDigits => "hex-digits"
  | .integer => "integer"

/-- A bump while it is read. -/
structure BumpSoFar where
  storage : Option Version.Delta := none
  major : Option Version.Delta := none
  minor : Option Version.Delta := none
  patch : Option Version.Delta := none

def bumpLayout : Layout ν BumpSoFar Version.Bump where
  name := "ContractVersionDelta"
  fields :=
    [fieldOf "storage" (·.storage) (fun s d => { s with storage := some d }) readDelta,
      fieldOf "major" (·.major) (fun s d => { s with major := some d }) readDelta,
      fieldOf "minor" (·.minor) (fun s d => { s with minor := some d }) readDelta,
      fieldOf "patch" (·.patch) (fun s d => { s with patch := some d }) readDelta]
  blank := {}
  finish _ s := do
    return ⟨← need "storage" 0 s.storage, ← need "major" 1 s.major, ← need "minor" 2 s.minor,
      ← need "patch" 3 s.patch⟩

def readBump (part : ν) : Except Refusal Version.Bump := bumpLayout.read part

def bumpJson (b : Version.Bump) : Json :=
  .object
    [("storage", .text (deltaName b.storage)), ("major", .text (deltaName b.major)),
      ("minor", .text (deltaName b.minor)), ("patch", .text (deltaName b.patch))]

end ReleaseGate.Form
