/-
# Build.Linking — placeholders for library addresses

Bytecode that has not been linked holds markers of forty characters where
library addresses go: two underscores, 36 characters from a small alphabet,
two underscores. Filling each with zeros, from left to right, makes the code
executable on its own.
-/
namespace ReleaseGate.Build

set_option autoImplicit false

/-- Characters of a placeholder. -/
def placeholderLength : Nat := 40

/-- Characters between the underscores of a placeholder. -/
def placeholderBody : Nat := 36

/-- The characters that may stand in a placeholder. -/
def isPlaceholderChar (c : Char) : Bool :=
  c.isAlphanum || c = '_' || c = '$' || c = '.' || c = ':' || c = '/' || c = '-'

/-- Whether a placeholder stands at the start of the text. -/
def startsPlaceholder : List Char → Bool
  | '_' :: '_' :: rest =>
      let body := rest.take placeholderBody
      body.length = placeholderBody && body.all isPlaceholderChar &&
        ['_', '_'].isPrefixOf (rest.drop placeholderBody)
  | _ => false

/-- Whether a placeholder stands anywhere in the text. -/
def holdsPlaceholder : List Char → Bool
  | [] => false
  | c :: rest => startsPlaceholder (c :: rest) || holdsPlaceholder rest

/-- Fill placeholders with zeros; `inside` characters of one are still to come. -/
def fill (inside : Nat) : List Char → List Char
  | [] => []
  | c :: rest =>
      match inside with
      | inside + 1 => '0' :: fill inside rest
      | 0 =>
          if startsPlaceholder (c :: rest) then '0' :: fill (placeholderLength - 1) rest
          else c :: fill 0 rest

/-- Whether bytecode text has placeholders. -/
def hasPlaceholders (bytecode : String) : Bool := holdsPlaceholder bytecode.toList

/-- Bytecode text with its placeholders filled. -/
def link (bytecode : String) : String := String.ofList (fill 0 bytecode.toList)

end ReleaseGate.Build
