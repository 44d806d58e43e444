/-
# Json.Draft — a JSON text as far as it is one

A reader of records looks at a text from left to right and stops at the first
thing it cannot take: that may be a value of the wrong kind long before the
place where the text stops being JSON. A `Draft` therefore keeps the part of
the document before such a place: a list or an object says whether it was
closed, and the value that could not be scanned is `broken`.

Two kinds of value can be passed over but not read: a number beyond the
doubles and a string whose escapes name no character. They are `unreadable`.
-/
import ReleaseGate.Json.Value

namespace ReleaseGate.Json

set_option autoImplicit false

/-- A scanned value. A key that names no character is `none`. -/
inductive Draft where
  | null
  | bool (b : Bool)
  | number (n : Number)
  | text (s : String)
  | list (items : List Draft) (closed : Bool)
  | object (fields : List (Option String × Draft)) (closed : Bool)
  | unreadable
  | broken

/-- A scanned text: its value, and whether nothing but blanks follows it. -/
structure Document where
  root : Draft
  ended : Bool

/-- The four blanks of JSON. -/
def isBlank (c : Char) : Bool := c = ' ' || c = '\n' || c = '\t' || c = '\r'

/-- The text after its leading blanks. -/
def skipBlanks (text : List Char) : List Char := text.dropWhile isBlank

/-! ## Strings -/

/-- What stands between the quotes, and the text after the closing one. -/
def untilQuote : List Char → Option (List Char × List Char)
  | [] => none
  | '"' :: rest => some ([], rest)
  | '\\' :: c :: rest => do
      let (inside, after) ← untilQuote rest
      return ('\\' :: c :: inside, after)
  | c :: rest => do
      let (inside, after) ← untilQuote rest
      return (c :: inside, after)

/-- A character of a string, or a code unit written as four hex digits. -/
inductive Piece where
  | char (c : Char)
  | unit (n : Nat)

/-- The number of four hex digits. -/
def fourDigits (a b c d : Char) : Option Nat := do
  return (((← Text.hexValue? a) * 16 + (← Text.hexValue? b)) * 16 + (← Text.hexValue? c)) * 16 +
    (← Text.hexValue? d)

/-- The character that a short escape stands for. -/
def shortEscape? : Char → Option Char
  | '"' => some '"'
  | '\\' => some '\\'
  | '/' => some '/'
  | 'b' => some (Char.ofNat 8)
  | 'f' => some (Char.ofNat 12)
  | 'n' => some '\n'
  | 'r' => some '\r'
  | 't' => some '\t'
  | _ => none

/-- The pieces of a string's inside; none if an escape is malformed or a
control character stands unescaped. -/
def pieces : List Char → Option (List Piece)
  | [] => some []
  | '\\' :: 'u' :: a :: b :: c :: d :: rest => do
      return .unit (← fourDigits a b c d) :: (← pieces rest)
  | '\\' :: c :: rest => do
      return .char (← shortEscape? c) :: (← pieces rest)
  | c :: rest => if c.toNat < 32 ∨ c = '\\' then none else do return .char c :: (← pieces rest)

/-- The characters that pieces stand for; none if a surrogate stands alone. -/
def joinPieces : List Piece → Option (List Char)
  | [] => some []
  | .char c :: rest => do return c :: (← joinPieces rest)
  | .unit high :: .unit low :: rest =>
      if 0xd800 ≤ high ∧ high < 0xdc00 then
        if 0xdc00 ≤ low ∧ low < 0xe000 then do
          return Char.ofNat (0x10000 + (high - 0xd800) * 0x400 + (low - 0xdc00)) ::
            (← joinPieces rest)
        else none
      else if 0xdc00 ≤ high ∧ high < 0xe000 then none
      else do return Char.ofNat high :: (← joinPieces (.unit low :: rest))
  | .unit n :: rest =>
      if 0xd800 ≤ n ∧ n < 0xe000 then none else do return Char.ofNat n :: (← joinPieces rest)

/-- A scanned string: its text if it names characters, and what follows it. -/
def scanString (text : List Char) : Option (Option String × List Char) := do
  let (inside, after) ← untilQuote text
  let parts ← pieces inside
  return ((joinPieces parts).map String.ofList, after)

/-! ## Numbers -/

/-- The longest run of digits in front. -/
def digitRun (text : List Char) : List Char × List Char :=
  (text.takeWhile Char.isDigit, text.dropWhile Char.isDigit)

/-- The number that decimal digits spell. -/
def digitsValue (digits : List Char) : Nat := Nat.ofDigitChars 10 digits 0

/-- Digits are gathered while they fit in 64 bits: the gathered number and how
many digits are left over. -/
def gather (n : Nat) : List Char → Nat × Nat
  | [] => (n, 0)
  | d :: rest =>
      let more := 10 * n + (d.toNat - 48)
      if more < UInt64.size then gather more rest else (n, rest.length + 1)

/-- The exponents up to which a power of ten is taken seriously. -/
def exponentLimit : Nat := 2147483647

/-- The double of a decimal with whole digits, fraction digits and an exponent
part. Digits beyond 64 bits only count by their place, fraction digits after
the first such not at all. -/
def readReal (whole fraction : List Char) (negativePower : Bool) (power : Nat) : Option Binary64 :=
  let (head, dropped) := gather 0 whole
  let (n, left) := gather head fraction
  let kept := fraction.length - left
  if exponentLimit < power then
    if n ≠ 0 ∧ !negativePower then none else some (.zero false)
  else
    let shift : Int := Int.ofNat dropped - Int.ofNat kept
    Binary64.scaled n (if negativePower then shift - power else shift + power)

/-- A whole number, or the double next to it if it has more than 64 bits. -/
def readInteger (negative : Bool) (digits : List Char) : Draft :=
  let n := digitsValue digits
  let value : Int := if negative then - Int.ofNat n else Int.ofNat n
  if h : leastInteger ≤ value ∧ value < integerLimit ∧ ¬ (negative = true ∧ n = 0) then
    .number (.integer value h.1 h.2.1)
  else
    match readReal digits [] false 0 with
    | some x => .number (.real (if negative then x.negate else x))
    | none => .unreadable

/-- A number that has a fraction or an exponent. -/
def readDecimal (negative : Bool) (whole fraction : List Char) (negativePower : Bool)
    (power : List Char) : Draft :=
  match readReal whole fraction negativePower (digitsValue power) with
  | some x => .number (.real (if negative then x.negate else x))
  | none => .unreadable

/-- The sign of an exponent, and the text after it. -/
def exponentSign : List Char → Bool × List Char
  | '+' :: rest => (false, rest)
  | '-' :: rest => (true, rest)
  | chars => (false, chars)

/-- The rest of a number after its fraction. -/
def scanExponent (negative : Bool) (whole fraction : List Char) (text : List Char) :
    Draft × List Char :=
  let scan (text : List Char) : Draft × List Char :=
    let (negativePower, text) := exponentSign text
    match digitRun text with
    | ([], _) => (.broken, [])
    | (power, rest) => (readDecimal negative whole fraction negativePower power, rest)
  match text with
  | 'e' :: rest => scan rest
  | 'E' :: rest => scan rest
  | _ =>
      if fraction = [] then (readInteger negative whole, text)
      else (readDecimal negative whole fraction false ['0'], text)

/-- A number without its minus sign. -/
def scanMagnitude (negative : Bool) (text : List Char) : Draft × List Char :=
  match digitRun text with
  | ([], _) => (.broken, [])
  | ('0' :: _ :: _, _) => (.broken, [])
  | (whole, '.' :: rest) =>
      match digitRun rest with
      | ([], _) => (.broken, [])
      | (fraction, rest) => scanExponent negative whole fraction rest
  | (whole, rest) => scanExponent negative whole [] rest

/-! ## Values -/

/-- A literal in front of the text. -/
def scanLiteral (value : Draft) (literal text : List Char) : Draft × List Char :=
  if literal.isPrefixOf text then (value, text.drop literal.length) else (.broken, [])

mutual

/-- Scan one value; what is left of the text has no meaning after a broken one. -/
def scanValue (fuel : Nat) (text : List Char) : Draft × List Char :=
  match fuel with
  | 0 => (.broken, [])
  | fuel + 1 =>
      match skipBlanks text with
      | '"' :: rest =>
          match scanString rest with
          | some (some s, after) => (.text s, after)
          | some (none, after) => (.unreadable, after)
          | none => (.broken, [])
      | '[' :: rest =>
          match skipBlanks rest with
          | ']' :: after => (.list [] true, after)
          | rest =>
              let (items, closed, after) := scanItems fuel rest
              (.list items closed, after)
      | '\x7b' :: rest =>
          match skipBlanks rest with
          | '\x7d' :: after => (.object [] true, after)
          | rest =>
              let (fields, closed, after) := scanFields fuel rest
              (.object fields closed, after)
      | '-' :: rest => scanMagnitude true rest
      | 'n' :: rest => scanLiteral .null ['u', 'l', 'l'] rest
      | 't' :: rest => scanLiteral (.bool true) ['r', 'u', 'e'] rest
      | 'f' :: rest => scanLiteral (.bool false) ['a', 'l', 's', 'e'] rest
      | rest => scanMagnitude false rest

/-- Scan values up to a closing bracket. -/
def scanItems (fuel : Nat) (text : List Char) : List Draft × Bool × List Char :=
  match fuel with
  | 0 => ([], false, [])
  | fuel + 1 =>
      match scanValue fuel text with
      | (.broken, _) => ([.broken], false, [])
      | (item, rest) =>
          match skipBlanks rest with
          | ']' :: after => ([item], true, after)
          | ',' :: rest =>
              match skipBlanks rest with
              | ']' :: _ => ([item], false, [])
              | rest =>
                  let (items, closed, after) := scanItems fuel rest
                  (item :: items, closed, after)
          | _ => ([item], false, [])

/-- Scan keys and values up to a closing brace. -/
def scanFields (fuel : Nat) (text : List Char) : List (Option String × Draft) × Bool × List Char :=
  match fuel with
  | 0 => ([], false, [])
  | fuel + 1 =>
      match text with
      | '"' :: rest =>
          match scanString rest with
          | none => ([], false, [])
          | some (key, rest) =>
              match skipBlanks rest with
              | ':' :: rest =>
                  match scanValue fuel rest with
                  | (.broken, _) => ([(key, .broken)], false, [])
                  | (value, rest) =>
                      match skipBlanks rest with
                      | '\x7d' :: after => ([(key, value)], true, after)
                      | ',' :: rest =>
                          let (fields, closed, after) := scanFields fuel (skipBlanks rest)
                          ((key, value) :: fields, closed, after)
                      | _ => ([(key, value)], false, [])
              | _ => ([(key, .broken)], false, [])
      | _ => ([], false, [])

end

/-- Scan a whole text. -/
def Document.ofText (text : String) : Document :=
  let chars := text.toList
  let (root, rest) := scanValue (2 * chars.length + 2) chars
  { root := root, ended := (skipBlanks rest).isEmpty }

/-! ## Drafts as values -/

mutual

/-- Whether a value can be passed over: nothing in it is broken. -/
def Draft.isWhole : Draft → Bool
  | .null | .bool _ | .number _ | .text _ | .unreadable => true
  | .list items closed => closed && allWhole items
  | .object fields closed => closed && fieldsWhole fields
  | .broken => false

/-- Whether all of some values can be passed over. -/
def allWhole : List Draft → Bool
  | [] => true
  | item :: rest => item.isWhole && allWhole rest

/-- Whether the values of all fields can be passed over. -/
def fieldsWhole : List (Option String × Draft) → Bool
  | [] => true
  | (_, value) :: rest => value.isWhole && fieldsWhole rest

end

/-- How deep lists and objects may stand in each other in a value that is read. -/
def depthLimit : Nat := 127

mutual

/-- The value of a draft whose containers nest at most `depth` deep. A repeated
key keeps its first place and takes its last value. -/
def Draft.toJson? (depth : Nat) : Draft → Option Json
  | .null => some .null
  | .bool b => some (.bool b)
  | .number n => some (.number n)
  | .text s => some (.text s)
  | .list items closed =>
      match depth with
      | 0 => none
      | depth + 1 => do
          let values ← itemsToJson? depth items
          if closed then some (.list values) else none
  | .object fields closed =>
      match depth with
      | 0 => none
      | depth + 1 => do
          let values ← fieldsToJson? depth [] fields
          if closed then some (.object values) else none
  | .unreadable | .broken => none

def itemsToJson? (depth : Nat) : List Draft → Option (List Json)
  | [] => some []
  | item :: rest => do return (← item.toJson? depth) :: (← itemsToJson? depth rest)

def fieldsToJson? (depth : Nat) (done : List (String × Json)) :
    List (Option String × Draft) → Option (List (String × Json))
  | [] => some done
  | (some key, value) :: rest => do
      fieldsToJson? depth (setField key (← value.toJson? depth) done) rest
  | (none, _) :: _ => none

end

/-- The value of a whole text, if it is well-formed JSON that can be read. -/
def ofText? (text : String) : Option Json :=
  let document := Document.ofText text
  if document.ended then document.root.toJson? depthLimit else none

end ReleaseGate.Json
