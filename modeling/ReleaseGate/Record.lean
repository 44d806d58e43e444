/-
# Record — reading values and records out of a document

A document in some notation (a `Source`) offers its parts as `Shape`s. The
readers here turn a part into a text, a number, a list, or a record with named
fields, from left to right, and stop at the first part they cannot take. Why
they stop is a `Refusal`: either the document is malformed at that place, or it
is well-formed and a `Mismatch` says what was found instead.

A record may be written with its field names, in any order and beside names it
does not know, or as the bare list of its fields in their own order.
-/
import ReleaseGate.Text.Quoted

namespace ReleaseGate.Record

set_option autoImplicit false

/-- What stands in a place where something else was wanted. -/
inductive Found where
  | integer (n : Int)
  /-- A number with a fraction, as its notation shows it. -/
  | real (shown : String)
  | boolean (b : Bool)
  | text (s : String)
  | null
  | list
  | map
  deriving DecidableEq, Repr

def Found.toText : Found → String
  | .integer n => s!"integer `{n}`"
  | .real shown => s!"floating point `{shown}`"
  | .boolean b => s!"boolean `{b}`"
  | .text s => "string " ++ Text.quoted s
  | .null => "null"
  | .list => "sequence"
  | .map => "map"

/-- Why a well-formed document is not what was asked for. -/
inductive Mismatch where
  | wrongType (found : Found) (wanted : String)
  | wrongValue (found : Found) (wanted : String)
  | missing (field : String)
  | repeated (field : String)
  /-- A bare list ended after `length` fields of a record. -/
  | wrongLength (length : Nat) (record : String) (size : Nat)
  /-- A bare list of `length` items goes on after the last field of a record. -/
  | overlong (length : Nat)
  | unknownVariant (name : String) (known : List String)
  /-- A fault found by what the value was read for. -/
  | stated (detail : String)
  deriving DecidableEq, Repr

/-- The names between backquotes. -/
def backquoted (names : List String) : List String := names.map fun name => s!"`{name}`"

/-- Two alternatives are joined by `or`, more are listed. -/
def alternatives (names : List String) : String :=
  match backquoted names with
  | [a, b] => s!"{a} or {b}"
  | shown => "one of " ++ String.intercalate ", " shown

def Mismatch.message : Mismatch → String
  | .wrongType found wanted => "invalid type: " ++ found.toText ++ ", expected " ++ wanted
  | .wrongValue found wanted => "invalid value: " ++ found.toText ++ ", expected " ++ wanted
  | .missing field => s!"missing field `{field}`"
  | .repeated field => s!"duplicate field `{field}`"
  | .wrongLength length record size =>
      s!"invalid length {length}, expected struct {record} with {size} elements"
  | .overlong length => s!"invalid length {length}, expected fewer elements in array"
  | .unknownVariant name known => s!"unknown variant `{name}`, expected " ++ alternatives known
  | .stated detail => detail

/-- Why reading stopped. -/
inductive Refusal where
  | malformed
  | mismatch (m : Mismatch)
  deriving DecidableEq, Repr

/-- What a part of a document looks like. A key that is no text is `none`; a
list or map that is not `closed` ends where the document is malformed. -/
inductive Shape (ν : Type) where
  | null
  | boolean (b : Bool)
  | integer (n : Int)
  | real (shown : String)
  | text (s : String)
  | list (items : List ν) (closed : Bool)
  | map (fields : List (Option String × ν)) (closed : Bool)
  | malformed

/-- A notation whose parts can be looked at. -/
class Source (ν : Type) where
  shape : ν → Shape ν
  /-- Whether a part can be passed over unread. -/
  skips : ν → Bool
  /-- The name of a variant, which is one of the given ones. -/
  variant : List String → ν → Except Refusal String
  /-- What becomes of a bare list of so many items that goes on after the last
  field of a record; it may be fine. -/
  overlong : Nat → Except Refusal Unit

variable {ν α σ : Type} [Source ν]

/-- The refusal of a part whose shape is not the wanted one. -/
def Shape.refuse (shape : Shape ν) (wanted : String) : Refusal :=
  let wrong (found : Found) : Refusal := .mismatch (.wrongType found wanted)
  match shape with
  | .null => wrong .null
  | .boolean b => wrong (.boolean b)
  | .integer n => wrong (.integer n)
  | .real shown => wrong (.real shown)
  | .text s => wrong (.text s)
  | .list _ _ => wrong .list
  | .map _ _ => wrong .map
  | .malformed => .malformed

def readText (part : ν) : Except Refusal String :=
  match Source.shape part with
  | .text s => .ok s
  | shape => .error (shape.refuse "a string")

def readBoolean (part : ν) : Except Refusal Bool :=
  match Source.shape part with
  | .boolean b => .ok b
  | shape => .error (shape.refuse "a boolean")

/-- A whole number of 64 bits without a sign. -/
def readUInt64 (part : ν) : Except Refusal UInt64 :=
  match Source.shape part with
  | .integer n =>
      if 0 ≤ n ∧ n < UInt64.size then .ok (UInt64.ofNat n.toNat)
      else .error (.mismatch (.wrongValue (.integer n) "u64"))
  | shape => .error (shape.refuse "u64")

/-- A text, or nothing where null stands. -/
def readOptionalText (part : ν) : Except Refusal (Option String) :=
  match Source.shape part with
  | .null => .ok none
  | .text s => .ok (some s)
  | shape => .error (shape.refuse "a string")

/-- One of a few names. -/
def readVariant (variants : List (String × α)) (part : ν) : Except Refusal α := do
  let known := variants.map (·.1)
  let name ← Source.variant known part
  match variants.lookup name with
  | some value => .ok value
  | none => .error (.mismatch (.unknownVariant name known))

/-- Items in order; then the list has to be closed. -/
def readItems (read : ν → Except Refusal α) : List ν → Except Refusal (List α)
  | [] => .ok []
  | item :: rest => do return (← read item) :: (← readItems read rest)

def readList (read : ν → Except Refusal α) (part : ν) : Except Refusal (List α) :=
  match Source.shape part with
  | .list items closed => do
      let values ← readItems read items
      if closed then .ok values else .error .malformed
  | shape => .error (shape.refuse "a sequence")

/-- Keys and values in order. -/
def readEntries (read : ν → Except Refusal α) :
    List (Option String × ν) → Except Refusal (List (String × α))
  | [] => .ok []
  | (none, _) :: _ => .error .malformed
  | (some key, part) :: rest => do
      let value ← read part
      return (key, value) :: (← readEntries read rest)

def readMap (read : ν → Except Refusal α) (part : ν) : Except Refusal (List (String × α)) :=
  match Source.shape part with
  | .map fields closed => do
      let entries ← readEntries read fields
      if closed then .ok entries else .error .malformed
  | shape => .error (shape.refuse "a map")

/-! ## Records -/

/-- A field of a record while the record is being read into a `σ`. -/
structure Field (ν σ : Type) where
  name : String
  isSet : σ → Bool
  read : ν → σ → Except Refusal σ

/-- A field that is not there and has no default. -/
structure Absent where
  name : String
  place : Nat

/-- A record type: its fields in their own order, and how to finish one. -/
structure Layout (ν σ α : Type) where
  name : String
  fields : List (Field ν σ)
  blank : σ
  /-- The record, or the first field that must not be missing; a record with
  field names may leave out more than a bare list. -/
  finish : (named : Bool) → σ → Except Absent α

/-- Read named fields in the order of the document. -/
def readNamed (fields : List (Field ν σ)) :
    List (Option String × ν) → σ → Except Refusal σ
  | [], state => .ok state
  | (none, _) :: _, _ => .error .malformed
  | (some key, part) :: rest, state =>
      match fields.find? (·.name == key) with
      | some field =>
          if field.isSet state then .error (.mismatch (.repeated key))
          else do readNamed fields rest (← field.read part state)
      | none => if Source.skips part then readNamed fields rest state else .error .malformed

/-- Read fields by their places; the answer also holds what is left of the list. -/
def readPlaced : List (Field ν σ) → List ν → σ → Except Refusal (σ × List ν)
  | [], items, state => .ok (state, items)
  | _ :: _, [], state => .ok (state, [])
  | field :: fields, item :: items, state => do readPlaced fields items (← field.read item state)

/-- Read a record. -/
def Layout.read (layout : Layout ν σ α) (part : ν) : Except Refusal α :=
  match Source.shape part with
  | .map fields closed => do
      let state ← readNamed layout.fields fields layout.blank
      if closed then
        match layout.finish true state with
        | .ok record => .ok record
        | .error absent => .error (.mismatch (.missing absent.name))
      else .error .malformed
  | .list items closed => do
      let (state, left) ← readPlaced layout.fields items layout.blank
      let size := layout.fields.length
      if items.length < size ∧ !closed then .error .malformed
      else
        match layout.finish false state with
        | .ok record => do
            if !left.isEmpty then Source.overlong ν items.length
            if closed then .ok record else .error .malformed
        | .error absent => .error (.mismatch (.wrongLength absent.place layout.name size))
  | shape => .error (shape.refuse s!"struct {layout.name}")

end ReleaseGate.Record
