/-
# Json.Value — JSON values and their compact text

Objects are lists of pairs, so the order of their keys is part of the value. A
number is a whole number of at most 64 bits, signed or not, or a double.

Text is written without blanks. Strings escape the quote, the backslash and
the control characters; doubles are written with the fewest digits that read
back, positionally from `1e-5` up to `1e16` and with an exponent elsewhere.
-/
import ReleaseGate.Decimal.Shortest
import ReleaseGate.Text.Hex

namespace ReleaseGate

set_option autoImplicit false

namespace Json

/-- The smallest whole number, that of 64 bits with a sign. -/
def leastInteger : Int := -9223372036854775808

/-- The first whole number beyond the largest, that of 64 bits without a sign. -/
def integerLimit : Int := 18446744073709551616

/-- A JSON number. -/
inductive Number where
  | integer (n : Int) (least : leastInteger ≤ n) (below : n < integerLimit)
  | real (x : Binary64)
  deriving DecidableEq

end Json

/-- A JSON value. -/
inductive Json where
  | null
  | bool (b : Bool)
  | number (n : Json.Number)
  | text (s : String)
  | list (items : List Json)
  | object (fields : List (String × Json))
  deriving BEq

namespace Json

/-- A number of 64 bits as a JSON number. -/
def Number.ofUInt64 (n : UInt64) : Number :=
  .integer (Int.ofNat n.toNat) (Int.le_trans (by decide) (Int.natCast_nonneg _)) (by
    have := n.toNat_lt
    simp only [integerLimit, Int.ofNat_eq_natCast]
    omega)

/-- A number of 64 bits as a value. -/
def ofUInt64 (n : UInt64) : Json := .number (.ofUInt64 n)

/-- How doubles are written in JSON. -/
def realStyle : Decimal.RealStyle where
  isPositional power := -5 ≤ power && power < 16
  plus := "+"

/-- A character inside a quoted string. -/
def escapeChar (c : Char) : List Char :=
  if c = '"' then ['\\', '"']
  else if c = '\\' then ['\\', '\\']
  else if c.toNat = 8 then ['\\', 'b']
  else if c.toNat = 12 then ['\\', 'f']
  else if c = '\n' then ['\\', 'n']
  else if c = '\r' then ['\\', 'r']
  else if c = '\t' then ['\\', 't']
  else if c.toNat < 32 then
    ['\\', 'u', '0', '0', Text.hexDigit (c.toNat / 16), Text.hexDigit (c.toNat % 16)]
  else [c]

/-- A string in quotes. -/
def quote (s : String) : String := String.ofList ('"' :: (s.toList.flatMap escapeChar ++ ['"']))

/-- The text of a number. -/
def Number.write : Number → String
  | .integer (.ofNat n) _ _ => Nat.repr n
  | .integer (.negSucc n) _ _ => "-" ++ Nat.repr (n + 1)
  | .real x => realStyle.write x

mutual

/-- The compact text of a value. -/
def write : Json → String
  | .null => "null"
  | .bool true => "true"
  | .bool false => "false"
  | .number n => n.write
  | .text s => quote s
  | .list items => "[" ++ writeItems items ++ "]"
  | .object fields => "\x7b" ++ writeFields fields ++ "\x7d"

/-- Values with commas between them. -/
def writeItems : List Json → String
  | [] => ""
  | [item] => write item
  | item :: rest => write item ++ "," ++ writeItems rest

/-- Keys and values with commas between the pairs. -/
def writeFields : List (String × Json) → String
  | [] => ""
  | [(key, value)] => quote key ++ ":" ++ write value
  | (key, value) :: rest => quote key ++ ":" ++ write value ++ "," ++ writeFields rest

end

/-- Set a key of an object's fields: the key keeps its place, a new one goes last. -/
def setField (key : String) (value : Json) : List (String × Json) → List (String × Json)
  | [] => [(key, value)]
  | (k, v) :: rest => if k = key then (k, value) :: rest else (k, v) :: setField key value rest

/-- The value under a key of an object. -/
def field? (key : String) : Json → Option Json
  | .object fields => fields.lookup key
  | _ => none

end Json

end ReleaseGate
