/-
# Text.Quoted — text shown in quotes so that every character can be seen

The backslash, the quote in use and the usual controls have short escapes; a
character that is hidden, or drawn onto the one before it, is written by its
number.
-/
import ReleaseGate.Text.Printable

namespace ReleaseGate.Text

set_option autoImplicit false

/-- A character by its number in hex. -/
def numbered (c : Char) : List Char :=
  ['\\', 'u', '\x7b'] ++ Nat.toDigits 16 c.toNat ++ ['\x7d']

/-- A character between quotes of the given kind. -/
def shown (mark : Char) (c : Char) : List Char :=
  if c.toNat = 0 then ['\\', '0']
  else if c = '\t' then ['\\', 't']
  else if c = '\r' then ['\\', 'r']
  else if c = '\n' then ['\\', 'n']
  else if c = '\\' ∨ c = mark then ['\\', c]
  else if isExtending c ∨ !isPrintable c then numbered c
  else [c]

/-- A text in double quotes. -/
def quoted (text : String) : String :=
  String.ofList ('"' :: (text.toList.flatMap (shown '"') ++ ['"']))

/-- A character in single quotes. -/
def quotedChar (c : Char) : String := String.ofList ('\'' :: (shown '\'' c ++ ['\'']))

end ReleaseGate.Text
