/-
# Toml.Strings — quoted texts

A text stands between double quotes, with escapes, or between single quotes, as
it is; between three quotes of a kind it may go over several lines, and a line
break right after the opening quotes is left out. Up to two quotes may stand
right before three closing ones. Controls other than the tab are refused.
-/
import ReleaseGate.Text.Hex

namespace ReleaseGate.Toml

set_option autoImplicit false

/-- Whether a character may stand as itself in a text of one line, or in a comment. -/
def isPlain (c : Char) : Bool := c = '\t' || (31 < c.toNat && c.toNat != 127)

/-- A blank inside a line. -/
def isSpace (c : Char) : Bool := c = ' ' || c = '\t'

/-- Past a line break. -/
def lineBreak? : List Char → Option (List Char)
  | '\n' :: rest => some rest
  | '\r' :: '\n' :: rest => some rest
  | _ => none

/-- Past a line break, if one stands here. -/
def pastLineBreak (cs : List Char) : List Char := (lineBreak? cs).getD cs

/-- The character whose number is written in hex. -/
def hexChar? (digits : List Char) : Option Char :=
  if digits.all fun c => (Text.hexValue? c).isSome then
    let n := digits.foldl (fun n c => 16 * n + (Text.hexValue? c).getD 0) 0
    if h : n.isValidChar then some (Char.ofNatAux n h) else none
  else none

/-- The characters that a letter after a backslash stands for. -/
def escapes : List (Char × Char) :=
  [('b', '\x08'), ('e', '\x1b'), ('f', '\x0c'), ('n', '\n'), ('r', '\r'), ('t', '\t'), ('"', '"'),
    ('\\', '\\')]

/-- How many hex digits follow a letter after a backslash. -/
def hexEscapes : List (Char × Nat) := [('x', 2), ('u', 4), ('U', 8)]

/-- What stands after a backslash: a character, and the rest. -/
def escaped? : List Char → Option (Char × List Char)
  | [] => none
  | c :: rest =>
      match hexEscapes.lookup c with
      | some count =>
          if (rest.take count).length = count then do
            return (← hexChar? (rest.take count), rest.drop count)
          else none
      | none => do return (← escapes.lookup c, rest)

/-- The rest of a text of one line in double quotes. -/
def basicRest : (fuel : Nat) → List Char → Option (List Char × List Char)
  | 0, _ => none
  | _, [] => none
  | fuel + 1, c :: rest =>
      if c = '"' then some ([], rest)
      else if c = '\\' then do
        let (char, rest) ← escaped? rest
        let (more, after) ← basicRest fuel rest
        return (char :: more, after)
      else if isPlain c then do
        let (more, after) ← basicRest fuel rest
        return (c :: more, after)
      else none

/-- The rest of a text of one line in single quotes. -/
def literalRest : List Char → Option (List Char × List Char)
  | [] => none
  | c :: rest =>
      if c = '\'' then some ([], rest)
      else if isPlain c then do
        let (more, after) ← literalRest rest
        return (c :: more, after)
      else none

/-- Past blanks and line breaks. -/
def pastBlankLines : List Char → List Char
  | '\n' :: rest => pastBlankLines rest
  | '\r' :: '\n' :: rest => pastBlankLines rest
  | c :: rest => if isSpace c then pastBlankLines rest else c :: rest
  | [] => []

/-- Past a line that ends here, blanks aside, and the blank lines after it. -/
def continued? (cs : List Char) : Option (List Char) := do
  let rest ← lineBreak? (cs.dropWhile isSpace)
  return pastBlankLines rest

/-- The quotes that close a text of several lines, and up to two that belong to it. -/
def closing? (quote : Char) (cs : List Char) : Option (List Char × List Char) :=
  if [quote, quote, quote].isPrefixOf cs then
    let inside := ((cs.drop 3).take 2).takeWhile (· = quote)
    some (inside, cs.drop (3 + inside.length))
  else none

/-- The rest of a text of several lines in double quotes. -/
def longBasicRest : (fuel : Nat) → List Char → Option (List Char × List Char)
  | 0, _ => none
  | _, [] => none
  | fuel + 1, c :: rest =>
      match closing? '"' (c :: rest) with
      | some (inside, after) => some (inside, after)
      | none =>
          if c = '\\' then
            match continued? rest with
            | some rest => longBasicRest fuel rest
            | none => do
                let (char, rest) ← escaped? rest
                let (more, after) ← longBasicRest fuel rest
                return (char :: more, after)
          else if isPlain c || (lineBreak? (c :: rest)).isSome then do
            let (more, after) ← longBasicRest fuel rest
            return (c :: more, after)
          else none

/-- The rest of a text of several lines in single quotes. -/
def longLiteralRest : List Char → Option (List Char × List Char)
  | [] => none
  | c :: rest =>
      match closing? '\'' (c :: rest) with
      | some (inside, after) => some (inside, after)
      | none =>
          if isPlain c || (lineBreak? (c :: rest)).isSome then do
            let (more, after) ← longLiteralRest rest
            return (c :: more, after)
          else none

/-- A text of one line; the cursor stands before its quote. -/
def shortString? : List Char → Option (List Char × List Char)
  | '"' :: rest => basicRest (rest.length + 1) rest
  | '\'' :: rest => literalRest rest
  | _ => none

/-- A text in quotes of any kind. -/
def string? : List Char → Option (List Char × List Char)
  | '"' :: '"' :: '"' :: rest => longBasicRest (rest.length + 1) (pastLineBreak rest)
  | '\'' :: '\'' :: '\'' :: rest => longLiteralRest (pastLineBreak rest)
  | cs => shortString? cs

end ReleaseGate.Toml
