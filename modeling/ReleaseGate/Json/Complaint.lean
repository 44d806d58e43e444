/-
# Json.Complaint — what is said about a JSON text, and where

A complaint may name the line and the column it is about at the end of its text.
Both are plain numbers, and a complaint about line zero names no place.
-/
namespace ReleaseGate.Json

set_option autoImplicit false

/-- A complaint, and the place it is about. -/
structure Complaint where
  text : String
  line : Nat
  column : Nat
  deriving DecidableEq, Repr

namespace Complaint

def lineMark : List Char := " at line ".toList

def columnMark : List Char := " column ".toList

/-- What stands before and after the last mark in a text. -/
def splitAtLast? (mark : List Char) : List Char → Option (List Char × List Char)
  | [] => none
  | c :: rest =>
      match splitAtLast? mark rest with
      | some (before, after) => some (c :: before, after)
      | none =>
          if mark.isPrefixOf (c :: rest) then some ([], (c :: rest).drop mark.length) else none

/-- The number that some digits spell, if 64 bits hold it. -/
def number? (digits : List Char) : Option Nat :=
  let n := Nat.ofDigitChars 10 digits 0
  if digits.isEmpty || Nat.pow 2 64 ≤ n then none else some n

/-- The line and the column that stand before the end of a text. -/
def place? (chars : List Char) : Option (Nat × Nat) := do
  let lineDigits := chars.takeWhile Char.isDigit
  let rest := chars.dropWhile Char.isDigit
  if columnMark.isPrefixOf rest then
    let columnDigits := rest.drop columnMark.length
    if columnDigits.all Char.isDigit then return (← number? lineDigits, ← number? columnDigits)
    else none
  else none

def ofText (text : String) : Complaint :=
  let placed : Option Complaint := do
    let (before, after) ← splitAtLast? lineMark text.toList
    let (line, column) ← place? after
    return ⟨String.ofList before, line, column⟩
  placed.getD ⟨text, 0, 0⟩

def message (c : Complaint) : String :=
  if c.line = 0 then c.text
  else c.text ++ String.ofList lineMark ++ Nat.repr c.line ++ String.ofList columnMark ++
    Nat.repr c.column

end Complaint

end ReleaseGate.Json
