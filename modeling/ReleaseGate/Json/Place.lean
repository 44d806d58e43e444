/-
# Json.Place — JSON documents as a source of records

A place in a document is a draft together with the number of containers that
may still be opened inside it. A variant is its name, or an object with that
one key and null under it.

Finished values are a source as well. They have no malformed parts: what is
malformed in a document is a mismatch there.
-/
import ReleaseGate.Json.Draft
import ReleaseGate.Record

namespace ReleaseGate.Json

set_option autoImplicit false

open Record

/-- A place in a scanned document. -/
structure Place where
  draft : Draft
  depth : Nat

namespace Place

/-- A document's outermost place. -/
def root (draft : Draft) : Place := ⟨draft, depthLimit⟩

/-- What stands in the place. -/
def shape (place : Place) : Shape Place :=
  match place.draft with
  | .null => .null
  | .bool b => .boolean b
  | .number (.integer n _ _) => .integer n
  | .number (.real x) => .real (realStyle.write x)
  | .text s => .text s
  | .list items closed =>
      match place.depth with
      | 0 => .malformed
      | depth + 1 => .list (items.map fun item => ⟨item, depth⟩) closed
  | .object fields closed =>
      match place.depth with
      | 0 => .malformed
      | depth + 1 => .map (fields.map fun field => (field.1, ⟨field.2, depth⟩)) closed
  | .unreadable | .broken => .malformed

/-- The name of a variant. -/
def variant (known : List String) (place : Place) : Except Refusal String :=
  match place.shape with
  | .text name =>
      if known.contains name then .ok name else .error (.mismatch (.unknownVariant name known))
  | .map ((some name, value) :: rest) closed =>
      if known.contains name then
        match value.shape with
        | .null => if rest.isEmpty ∧ closed then .ok name else .error .malformed
        | shape => .error (shape.refuse "unit")
      else .error (.mismatch (.unknownVariant name known))
  | _ => .error .malformed

/-- The value in the place. -/
def toJson? (place : Place) : Option Json := place.draft.toJson? place.depth

instance : Source Place where
  shape := shape
  skips place := place.draft.isWhole
  variant := variant
  overlong _ := .error .malformed

end Place

/-! ## Finished values -/

/-- What a value looks like. -/
def shape : Json → Shape Json
  | .null => .null
  | .bool b => .boolean b
  | .number (.integer n _ _) => .integer n
  | .number (.real x) => .real (realStyle.write x)
  | .text s => .text s
  | .list items => .list items true
  | .object fields => .map (fields.map fun field => (some field.1, field.2)) true

/-- The name of a variant. -/
def variant (known : List String) : Json → Except Refusal String
  | .text name =>
      if known.contains name then .ok name else .error (.mismatch (.unknownVariant name known))
  | .object [(name, value)] =>
      if known.contains name then
        match value.shape with
        | .null => .ok name
        | shape => .error (shape.refuse "unit")
      else .error (.mismatch (.unknownVariant name known))
  | .object _ => .error (.mismatch (.wrongValue .map "map with a single key"))
  | value => .error (value.shape.refuse "string or map")

instance : Source Json where
  shape := shape
  skips _ := true
  variant := variant
  overlong length := .error (.mismatch (.overlong length))

/-! ## Parts as values -/

/-- A source whose parts can be taken as values. -/
class ValueSource (ν : Type) extends Source ν where
  toJson? : ν → Option Json

instance : ValueSource Place where
  toJson? := Place.toJson?

instance : ValueSource Json where
  toJson? := some

/-- Read a whole text as a record: first the value, then the end of the text. -/
def Document.read {α : Type} (document : Document) (read : Place → Except Refusal α) :
    Except Refusal α := do
  let value ← read (Place.root document.root)
  if document.ended then .ok value else .error .malformed

end ReleaseGate.Json
