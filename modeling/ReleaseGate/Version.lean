/-
# Version — four-part contract versions

A contract version is `storage.major.minor.patch`. The storage part stands
above the major part because a layout break cannot be repaired by redeploying
behind the same proxy. Versions are ordered part by part, the most severe part
first (`Version.compare`).

Reading accepts four decimal parts of 64 bits, joined by points, each with at
most one leading plus sign and any number of leading zeros; writing gives the
one text without either.
-/
namespace ReleaseGate

set_option autoImplicit false

/-- Version of a contract. -/
structure Version where
  storage : UInt64
  major : UInt64
  minor : UInt64
  patch : UInt64
  deriving DecidableEq, Repr

namespace Version

/-- The four parts of a version, most severe first. -/
inductive Part where
  | storage
  | major
  | minor
  | patch
  deriving DecidableEq, Repr

/-- The part's name. -/
def Part.name : Part → String
  | .storage => "storage"
  | .major => "major"
  | .minor => "minor"
  | .patch => "patch"

/-- The version of a contract that does not tell its own. -/
def initial : Version := ⟨1, 0, 0, 0⟩

/-- One part of a version. -/
def part (v : Version) : Part → UInt64
  | .storage => v.storage
  | .major => v.major
  | .minor => v.minor
  | .patch => v.patch

/-- The parts from the most severe to the least. -/
def parts (v : Version) : List UInt64 := [v.storage, v.major, v.minor, v.patch]

/-- Order by the first part that differs. -/
def compare (v w : Version) : Ordering :=
  (Ord.compare v.storage w.storage).then <|
    (Ord.compare v.major w.major).then <|
      (Ord.compare v.minor w.minor).then (Ord.compare v.patch w.patch)

/-- Whether `v` comes no later than `w`. -/
def atMost (v w : Version) : Bool := (v.compare w).isLE

/-- Versions from the oldest to the newest. -/
def sort (versions : List Version) : List Version := versions.mergeSort atMost

/-! ## What can be wrong with a version -/

/-- Why a part of a text is no number of 64 bits. -/
inductive PartFault where
  | empty
  | badDigit
  | tooLarge
  deriving DecidableEq, Repr

def PartFault.message : PartFault → String
  | .empty => "cannot parse integer from empty string"
  | .badDigit => "invalid digit found in string"
  | .tooLarge => "number too large to fit in target type"

/-- Why a version could not be read or moved on. -/
inductive Fault where
  /-- The text is not four numeric parts. -/
  | malformed (text : String)
  /-- A part of the text cannot be read. -/
  | badPart (part text : String) (why : PartFault)
  /-- The buffer has `length` bytes. -/
  | bufferLength (length : Nat)
  /-- The word at `index` needs more than 64 bits. -/
  | wideWord (index : Nat)
  /-- A format fault told in the caller's own words. -/
  | format (detail : String)
  /-- The part holds the largest number and cannot grow. -/
  | exhausted (part : UInt64)
  /-- An invariant fault told in the caller's own words. -/
  | invariant (detail : String)
  deriving DecidableEq, Repr

namespace Fault

/-- Whether the fault lies in the form of the input, not in the arithmetic. -/
def isFormat : Fault → Bool
  | .malformed _ | .badPart _ _ _ | .bufferLength _ | .wideWord _ | .format _ => true
  | .exhausted _ | .invariant _ => false

/-- What went wrong. -/
def detail : Fault → String
  | .malformed text =>
      s!"'{text}' is not a valid version: expected 4 numeric components separated by '.'"
  | .badPart part text why =>
      let why := why.message
      s!"'{part}' in '{text}': {why}"
  | .bufferLength length => s!"version buffer must be 128 bytes, got {length}"
  | .wideWord index => s!"version word {index} does not fit in 64 bits"
  | .format detail => detail
  | .exhausted part => s!"cannot increment version component {part}"
  | .invariant detail => detail

def message (fault : Fault) : String :=
  (if fault.isFormat then "Invalid version format: " else "Version invariant violated: ") ++
    fault.detail

end Fault

/-! ## Text -/

/-- The stretches of `text` between the separators, one more than there are separators. -/
def fields (separator : Char) : List Char → List (List Char)
  | [] => [[]]
  | c :: rest =>
      if c = separator then [] :: fields separator rest
      else
        match fields separator rest with
        | [] => [[c]]
        | field :: more => (c :: field) :: more

/-- Go on with the number `n` of the digits read so far, up to the first character that
is no digit or one digit too many. -/
def readDigits (n : Nat) : List Char → Except PartFault UInt64
  | [] => .ok (UInt64.ofNat n)
  | c :: rest =>
      if c.isDigit then
        let n := 10 * n + (c.toNat - '0'.toNat)
        if n < UInt64.size then readDigits n rest else .error .tooLarge
      else .error .badDigit

/-- A part is an optional plus sign and decimal digits for a 64-bit number. -/
def readPart : List Char → Except PartFault UInt64
  | [] => .error .empty
  | ['+'] => .error .badDigit
  | '+' :: digits => readDigits 0 digits
  | digits => readDigits 0 digits

/-- Whether `text` denotes a version: four parts, each of which can be read. -/
def isValid (text : String) : Bool :=
  let parts := fields '.' text.toList
  parts.length == 4 && parts.all fun part => (readPart part).isOk

/-- The number of the part at `index`; a part that is not there counts as zero. -/
def numberAt (text : String) (index : Nat) : Except Fault UInt64 :=
  match (fields '.' text.toList)[index]? with
  | none => .ok 0
  | some part => (readPart part).mapError (.badPart (String.ofList part) text)

/-- Read `storage.major.minor.patch`: the text as a whole is checked first, then its parts
are read one after the other. -/
def ofText (text : String) : Except Fault Version :=
  if isValid text then do
    return ⟨← numberAt text 0, ← numberAt text 1, ← numberAt text 2, ← numberAt text 3⟩
  else .error (.malformed text)

/-- The decimal text of a part, without superfluous zeros. -/
def partText (n : UInt64) : String := Nat.repr n.toNat

/-- The parts joined by points. -/
def toText (v : Version) : String :=
  partText v.storage ++ "." ++ partText v.major ++ "." ++ partText v.minor ++ "." ++
    partText v.patch

instance : ToString Version := ⟨toText⟩

end Version

end ReleaseGate
