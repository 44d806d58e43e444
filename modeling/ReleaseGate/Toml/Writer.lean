/-
# Toml.Writer — texts written as TOML

A text is written in the plainest style that can hold it: between double quotes
with no escape but that of the tab, then between single quotes, then over
several lines between three quotes of either kind, and with escapes as a last
resort. Styles of several lines begin with a line break of their own only if the
text has one.
-/
import ReleaseGate.Text.Hex

namespace ReleaseGate.Toml

set_option autoImplicit false

/-- Whether a character is a control; the line feed is none, since it can stand in a text
of several lines. -/
def isControl (c : Char) : Bool := (c.toNat < 32 && c != '\n') || c.toNat = 127

/-- Whether a character can only be written by an escape; a tab can stand between single
quotes. -/
def needsEscape (c : Char) : Bool := isControl c && c != '\t'

/-- Whether three of a character stand in a row. -/
def hasTriple (quote : Char) : List Char → Bool
  | a :: b :: c :: rest =>
      (a = quote && b = quote && c = quote) || hasTriple quote (b :: c :: rest)
  | _ => false

inductive Style where
  | basic
  | literal
  | longBasic
  | longLiteral
  | escaped
  deriving DecidableEq, Repr

/-- The plainest style that can hold a text. -/
def styleOf (cs : List Char) : Style :=
  if cs.any needsEscape then .escaped
  else if !cs.contains '\\' && !cs.contains '"' && !cs.contains '\n' then .basic
  else if !cs.contains '\'' && !cs.contains '\n' then .literal
  else if !cs.contains '\\' && !hasTriple '"' cs then .longBasic
  else if !hasTriple '\'' cs then .longLiteral
  else .escaped

/-- A control character as an escape. -/
def escapeControl (c : Char) : List Char :=
  match [('\x08', 'b'), ('\t', 't'), ('\n', 'n'), ('\x0c', 'f'), ('\r', 'r')].lookup c with
  | some letter => ['\\', letter]
  | none =>
      let digit (n : Nat) : Char := (Text.hexDigit n).toUpper
      ['\\', 'u', '0', '0', digit (c.toNat / 16), digit (c.toNat % 16)]

/-- A text with escapes: up to `most` quotes in a row stand as they are, and line
feeds if `isLong`; `run` quotes stand before the text. -/
def escapeText (isLong : Bool) (most run : Nat) : List Char → List Char
  | [] => []
  | c :: rest =>
      if c = '"' then
        if run < most then c :: escapeText isLong most (run + 1) rest
        else '\\' :: c :: escapeText isLong most 0 rest
      else if c = '\\' then '\\' :: '\\' :: escapeText isLong most 0 rest
      else if isControl c || (c = '\n' && !isLong) then
        escapeControl c ++ escapeText isLong most 0 rest
      else c :: escapeText isLong most 0 rest

/-- Quotes around a text, and a line break first if it has several lines. -/
def wrap (quote : List Char) (cs inner : List Char) : List Char :=
  quote ++ (if cs.contains '\n' then ['\n'] else []) ++ inner ++ quote

/-- Three of a quote. -/
def triple (quote : Char) : List Char := [quote, quote, quote]

/-- A text as TOML. -/
def writeChars (cs : List Char) : List Char :=
  match styleOf cs with
  | .basic => '"' :: (escapeText false 0 0 cs ++ ['"'])
  | .literal => '\'' :: (cs ++ ['\''])
  | .longBasic => wrap (triple '"') cs (escapeText true 2 0 cs)
  | .longLiteral => wrap (triple '\'') cs cs
  | .escaped =>
      if cs.contains '\n' then wrap (triple '"') cs (escapeText true 2 0 cs)
      else '"' :: (escapeText false 0 0 cs ++ ['"'])

/-- A string as TOML. -/
def writeText (s : String) : String := String.ofList (writeChars s.toList)

end ReleaseGate.Toml
