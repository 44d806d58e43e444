/-
# Toml.Value — TOML values and tables

Tables keep the order in which their keys were put in. A table remembers how it
came about, because that decides what may still be added to it:

* a table with a header of its own is finished when the next header begins;
* a table that was only passed through on the way to another is open to a header;
* a table made by a dotted key is open to further dotted keys;
* a table in braces is finished.
-/
import ReleaseGate.Decimal.Shortest
import ReleaseGate.Record

namespace ReleaseGate

set_option autoImplicit false

namespace Toml

/-- How a table came about. -/
inductive Origin where
  | header
  | passedThrough
  | dotted
  | braces
  deriving DecidableEq, Repr

/-- A number with a fraction, or one of the three that have none. -/
inductive Real where
  | finite (x : Binary64)
  | infinite (negative : Bool)
  | notANumber
  deriving DecidableEq, Repr

end Toml

/-- A TOML value. -/
inductive Toml where
  | text (s : String)
  | integer (n : Int)
  | real (x : Toml.Real)
  | boolean (b : Bool)
  /-- A date, a time of day, or both. -/
  | moment (s : String)
  | list (items : List Toml)
  | table (origin : Toml.Origin) (fields : List (String × Toml))
  /-- Tables that share one header; the last one is under construction. -/
  | tables (items : List (List (String × Toml)))

namespace Toml

/-- Keys and values in the order they were put in. -/
abbrev Fields := List (String × Toml)

/-- Replace the value of a key that is there. -/
def Fields.replace (fields : Fields) (key : String) (value : Toml) : Fields :=
  fields.map fun field => if field.1 = key then (key, value) else field

/-- Fields without a key. -/
def Fields.without (fields : Fields) (key : String) : Fields :=
  fields.filter fun field => field.1 ≠ key

/-- Put in a value under a new key. -/
def Fields.add (fields : Fields) (key : String) (value : Toml) : Option Fields :=
  if (fields.lookup key).isSome then none else some (fields ++ [(key, value)])

/-- Change the last of some. -/
def changeLast {α : Type} (f : α → Option α) : List α → Option (List α)
  | [] => none
  | [last] => do return [← f last]
  | first :: rest => do return first :: (← changeLast f rest)

/-- Put in a value under a dotted key: the tables on the way are made, have been made
without a header of their own, or are the last that share one; the last on the way comes from a
dotted key. -/
def Fields.addUnder (fields : Fields) : List String → String → Toml → Option Fields
  | [], key, value => fields.add key value
  | step :: path, key, value =>
      match fields.lookup step with
      | none => do
          let inner ← addUnder [] path key value
          return fields ++ [(step, .table .dotted inner)]
      | some (.table .dotted inner) => do
          return fields.replace step (.table .dotted (← addUnder inner path key value))
      | some (.table .passedThrough inner) =>
          if path.isEmpty then none
          else do
            return fields.replace step (.table .passedThrough (← addUnder inner path key value))
      | some (.tables items) =>
          if path.isEmpty then none
          else do
            let items ← changeLast (fun inner => addUnder inner path key value) items
            return fields.replace step (.tables items)
      | some _ => none

/-- Change the table that a header's path leads to; tables on the way are made. -/
def Fields.atPath (change : Fields → Option Fields) : List String → Fields → Option Fields
  | [], fields => change fields
  | step :: path, fields =>
      match fields.lookup step with
      | none => do
          let inner ← atPath change path []
          return fields ++ [(step, .table .passedThrough inner)]
      | some (.table .braces _) => none
      | some (.table origin inner) => do
          return fields.replace step (.table origin (← atPath change path inner))
      | some (.tables items) => do
          return fields.replace step (.tables (← changeLast (atPath change path) items))
      | some _ => none

/-! ## Values as a source of records -/

/-- Numbers with a fraction are shown positionally. -/
def realStyle : Decimal.RealStyle where
  isPositional _ := true
  plus := ""

def Real.shown : Real → String
  | .finite x => realStyle.write x
  | .infinite negative => if negative then "-inf" else "inf"
  | .notANumber => "NaN"

/-- What a value looks like; a moment has no fields that could be asked for. -/
def shape : Toml → Record.Shape Toml
  | .text s => .text s
  | .integer n => .integer n
  | .real x => .real x.shown
  | .boolean b => .boolean b
  | .moment _ => .map [] true
  | .list items => .list items true
  | .table _ fields => .map (fields.map fun field => (some field.1, field.2)) true
  | .tables items => .list (items.map (.table .header)) true

/-- The kind of a value that is neither a table nor a list. -/
def kindName : Toml → String
  | .text _ => "string"
  | .integer _ => "integer"
  | .real _ => "float"
  | .boolean _ => "boolean"
  | .moment _ => "datetime"
  | .list _ => "array"
  | .table _ _ => "table"
  | .tables _ => "array of tables"

/-- Refuse in so many words. -/
def refuse {α : Type} (detail : String) : Except Record.Refusal α :=
  .error (.mismatch (.stated detail))

/-- What stands under the name of a variant is empty. -/
def checkEmpty : Toml → Except Record.Refusal Unit
  | .list items => if items.isEmpty then .ok () else refuse "expected empty table"
  | .tables items => if items.isEmpty then .ok () else refuse "expected empty array"
  | .table _ fields => if fields.isEmpty then .ok () else refuse "expected empty table"
  | value => refuse ("expected table, found " ++ value.kindName)

/-- The name of a variant: a text, or the only key of a table. -/
def variant (known : List String) (value : Toml) : Except Record.Refusal String :=
  let check (name : String) : Except Record.Refusal Unit :=
    if known.contains name then .ok () else .error (.mismatch (.unknownVariant name known))
  match value with
  | .text name => do
      check name
      return name
  | .table _ [] => refuse "wanted exactly 1 element, found 0 elements"
  | .table _ [(name, inner)] => do
      check name
      checkEmpty inner
      return name
  | .table _ _ => refuse "wanted exactly 1 element, more than 1 element"
  | _ => refuse "wanted string or table"

instance : Record.Source Toml where
  shape := shape
  skips _ := true
  variant := variant
  overlong _ := .ok ()

end Toml

end ReleaseGate
