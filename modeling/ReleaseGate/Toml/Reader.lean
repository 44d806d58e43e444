/-
# Toml.Reader — from text to tables

A document is a list of sections. A section has a header, except the first one,
and below it keys with values; its table is put into the whole when the next
header begins. What is wrong with a text that is no document is not told.
-/
import ReleaseGate.Toml.Moment
import ReleaseGate.Toml.Number
import ReleaseGate.Toml.Strings

namespace ReleaseGate.Toml

set_option autoImplicit false

/-! ## Blanks -/

/-- Past blanks, line breaks and comments; `comment` tells whether one has begun. -/
def pastTrivia (comment : Bool) : List Char → Option (List Char)
  | [] => some []
  | '\n' :: rest => pastTrivia false rest
  | '\r' :: '\n' :: rest => pastTrivia false rest
  | c :: rest =>
      if comment then if isPlain c then pastTrivia true rest else none
      else if c = '#' then pastTrivia true rest
      else if isSpace c then pastTrivia false rest
      else some (c :: rest)

/-- Past a comment, if one stands here. -/
def pastComment : List Char → List Char
  | '#' :: rest => rest.dropWhile isPlain
  | cs => cs

/-- Past the end of a line, or at the end of the text. -/
def lineEnd? (cs : List Char) : Option (List Char) :=
  match pastComment (cs.dropWhile isSpace) with
  | [] => some []
  | cs => lineBreak? cs

/-! ## Keys -/

/-- The characters of keys without quotes. -/
def isBare (c : Char) : Bool := c.isAlphanum || c = '-' || c = '_'

/-- One part of a key. -/
def keyPart? (cs : List Char) : Option (String × List Char) :=
  match shortString? cs with
  | some (name, rest) => some (String.ofList name, rest)
  | none =>
      let name := cs.takeWhile isBare
      if name.isEmpty then none else some (String.ofList name, cs.dropWhile isBare)

/-- How many parts a key may have, and how deep brackets and braces may be nested. -/
def nestingLimit : Nat := 80

/-- A key of at most `most` parts: its parts but the last, and the last. -/
def keyUpTo? : (most : Nat) → List Char → Option (List String × String × List Char)
  | 0, _ => none
  | most + 1, cs => do
      let (name, rest) ← keyPart? (cs.dropWhile isSpace)
      match rest.dropWhile isSpace with
      | '.' :: rest => do
          let (path, last, rest) ← keyUpTo? most rest
          return (name :: path, last, rest)
      | rest => return ([], name, rest)

/-- A key: its parts but the last, and the last. -/
def key? (cs : List Char) : Option (List String × String × List Char) :=
  keyUpTo? nestingLimit cs

/-! ## Values -/

/-- The characters of values without quotes or brackets. -/
def isScalarChar (c : Char) : Bool :=
  c.isAlphanum || c = '+' || c = '-' || c = '_' || c = '.' || c = ':'

/-- The characters of a value without quotes or brackets: a time of day may follow a
date after one blank. -/
def scalarChars (cs : List Char) : List Char × List Char :=
  let first := cs.takeWhile isScalarChar
  let rest := cs.dropWhile isScalarChar
  match rest with
  | ' ' :: digit :: more =>
      if date first = some [] ∧ digit.isDigit then
        (first ++ ' ' :: (digit :: more).takeWhile isScalarChar,
          (digit :: more).dropWhile isScalarChar)
      else (first, rest)
  | _ => (first, rest)

/-- A value without quotes or brackets. -/
def scalar? (cs : List Char) : Option Toml :=
  if cs = ['t', 'r', 'u', 'e'] then some (.boolean true)
  else if cs = ['f', 'a', 'l', 's', 'e'] then some (.boolean false)
  else if isMoment cs then some (.moment (String.ofList cs))
  else ((integer? cs).map .integer).or ((real? cs).map .real)

mutual

/-- A value whose brackets and braces are nested at most `depth` deep. -/
def value? : (fuel depth : Nat) → List Char → Option (Toml × List Char)
  | 0, _, _ => none
  | fuel + 1, depth, cs =>
      match cs with
      | '[' :: rest =>
          match depth with
          | 0 => none
          | depth + 1 => do
              let (items, rest) ← items? fuel depth rest
              return (.list items, rest)
      | '\x7b' :: rest =>
          match depth with
          | 0 => none
          | depth + 1 => do
              let (fields, rest) ← fields? fuel depth [] rest
              return (.table .braces fields, rest)
      | c :: _ =>
          if c = '"' ∨ c = '\'' then do
            let (chars, rest) ← string? cs
            return (.text (String.ofList chars), rest)
          else do
            let (chars, rest) := scalarChars cs
            return (← scalar? chars, rest)
      | [] => none

/-- Values up to the closing bracket; a comma may follow the last. -/
def items? : (fuel depth : Nat) → List Char → Option (List Toml × List Char)
  | 0, _, _ => none
  | fuel + 1, depth, cs => do
      match ← pastTrivia false cs with
      | ']' :: rest => return ([], rest)
      | cs =>
          let (item, rest) ← value? fuel depth cs
          match ← pastTrivia false rest with
          | ']' :: rest => return ([item], rest)
          | ',' :: rest => do
              let (items, rest) ← items? fuel depth rest
              return (item :: items, rest)
          | _ => none

/-- Keys and values up to the closing brace; a comma may follow the last. -/
def fields? : (fuel depth : Nat) → Fields → List Char → Option (Fields × List Char)
  | 0, _, _, _ => none
  | fuel + 1, depth, fields, cs => do
      match ← pastTrivia false cs with
      | '\x7d' :: rest => return (fields, rest)
      | cs =>
          let (path, key, rest) ← key? cs
          match rest with
          | '=' :: rest => do
              let (value, rest) ← value? fuel depth (rest.dropWhile isSpace)
              let fields ← fields.addUnder path key value
              match ← pastTrivia false rest with
              | '\x7d' :: rest => return (fields, rest)
              | ',' :: rest => fields? fuel depth fields rest
              | _ => none
          | _ => none

end

/-! ## Documents -/

/-- A header in brackets: the path to a table and the table's key. -/
structure Header where
  path : List String
  key : String
  /-- Whether the header begins one more table under a shared key. -/
  isShared : Bool

/-- A document as far as it has been read. -/
structure Sections where
  /-- The finished sections. -/
  whole : Fields := []
  /-- The header of the section under construction; the first has none. -/
  header : Option Header := none
  /-- The section under construction. -/
  current : Fields := []

/-- Put a finished table under a header's key. -/
def settle (key : String) (isShared : Bool) (table : Fields) (fields : Fields) : Option Fields :=
  if isShared then
    match fields.lookup key with
    | none => some (fields ++ [(key, .tables [table])])
    | some (.tables items) => some (fields.replace key (.tables (items ++ [table])))
    | some _ => none
  else fields.add key (.table .header table)

/-- The whole with the section under construction. -/
def Sections.finish (s : Sections) : Option Fields :=
  match s.header with
  | none => some s.current
  | some header => s.whole.atPath (settle header.key header.isShared s.current) header.path

/-- The table that is open to a header's key; none may be there yet, or it was passed through. -/
def openTable (fields : Fields) (key : String) : Option Fields :=
  match fields.lookup key with
  | none => some []
  | some (.table .passedThrough inner) => some inner
  | some _ => none

/-- The table that a path leads to, or an empty one if it leads to none. -/
def tableAt : Fields → List String → Fields
  | fields, [] => fields
  | fields, step :: path =>
      match fields.lookup step with
      | some (.table _ inner) => tableAt inner path
      | some (.tables items) => tableAt (items.getLast?.getD []) path
      | _ => []

/-- Finish a section and begin another. -/
def Sections.begin (s : Sections) (header : Header) : Option Sections := do
  let whole ← s.finish
  if header.isShared then
    let check (fields : Fields) : Option Fields :=
      match fields.lookup header.key with
      | none | some (.tables _) => some fields
      | some _ => none
    return { whole := ← whole.atPath check header.path, header := some header }
  else
    let current ← openTable (tableAt whole header.path) header.key
    let whole ← whole.atPath (fun fields => some (fields.without header.key)) header.path
    return { whole, header := some header, current }

/-- A header; the text stands behind its first bracket. -/
def header? (cs : List Char) : Option (Header × List Char) := do
  match cs with
  | '[' :: rest => do
      let (path, key, rest) ← key? rest
      match rest with
      | ']' :: ']' :: rest => return ({ path, key, isShared := true }, rest)
      | _ => none
  | rest => do
      let (path, key, rest) ← key? rest
      match rest with
      | ']' :: rest => return ({ path, key, isShared := false }, rest)
      | _ => none

/-- A key and its value. -/
def assignment? (cs : List Char) : Option (List String × String × Toml × List Char) := do
  let (path, key, rest) ← key? cs
  match rest with
  | '=' :: rest => do
      let (value, rest) ← value? (2 * rest.length + 2) nestingLimit (rest.dropWhile isSpace)
      return (path, key, value, rest)
  | _ => none

/-- Read headers and assignments up to the end. -/
def sections? : (fuel : Nat) → Sections → List Char → Option Sections
  | 0, _, _ => none
  | fuel + 1, s, cs => do
      match ← pastTrivia false cs with
      | [] => return s
      | '[' :: rest => do
          let (header, rest) ← header? rest
          let s ← s.begin header
          sections? fuel s (← lineEnd? rest)
      | cs => do
          let (path, key, value, rest) ← assignment? cs
          let current ← s.current.addUnder path key value
          sections? fuel { s with current } (← lineEnd? rest)

/-- Past the mark that may stand at the start of a text. -/
def pastByteOrderMark : List Char → List Char
  | '\ufeff' :: rest => rest
  | cs => cs

/-- The table that a document denotes. -/
def ofText? (document : String) : Option Toml := do
  let cs := pastByteOrderMark document.toList
  let s ← sections? (cs.length + 1) {} cs
  return .table .header (← s.finish)

end ReleaseGate.Toml
