/-
# Toml.Number — numbers

Whole numbers have 64 bits with a sign and may be written in four bases, in a
base other than ten without a sign. Single underscores may stand between
digits; decimal numbers have no leading zeros. A number with a fraction or an
exponent is the nearest double, which must be finite.
-/
import ReleaseGate.Text.Hex
import ReleaseGate.Toml.Value

namespace ReleaseGate.Toml

set_option autoImplicit false

/-- The digits of a number: underscores stand alone and between digits. -/
def ungrouped (isDigit : Char → Bool) : List Char → Option (List Char)
  | [] => none
  | [c] => if isDigit c then some [c] else none
  | c :: '_' :: rest =>
      if isDigit c then do return c :: (← ungrouped isDigit rest) else none
  | c :: rest => if isDigit c then do return c :: (← ungrouped isDigit rest) else none

/-- The number that digits write in a base. -/
def numberIn (base : Nat) (digits : List Char) : Nat :=
  digits.foldl (fun n c => base * n + (Text.hexValue? c).getD 0) 0

/-- The bases that are marked, and their marks. -/
def bases : List (Char × Nat) := [('x', 16), ('o', 8), ('b', 2)]

/-- Whether a character is a digit of a base. -/
def isDigitOf (base : Nat) (c : Char) : Bool := (Text.hexValue? c).any (· < base)

/-- The first number beyond the positive whole numbers. -/
def integerLimit : Nat := 9223372036854775808

/-- Digits without a leading zero, unless they are a zero. -/
def decimalDigits (chars : List Char) : Option (List Char) := do
  let digits ← ungrouped Char.isDigit chars
  if 1 < digits.length ∧ digits.head? = some '0' then none else some digits

/-- A sign, if there is one; says whether it is a minus. -/
def signed : List Char → Bool × List Char
  | '-' :: rest => (true, rest)
  | '+' :: rest => (false, rest)
  | chars => (false, chars)

/-- A whole number. -/
def integer? (chars : List Char) : Option Int := do
  match chars with
  | '0' :: mark :: rest =>
      if let some base := bases.lookup mark then
        let n := numberIn base (← ungrouped (isDigitOf base) rest)
        return ← if n < integerLimit then some (Int.ofNat n) else none
  | _ => pure ()
  let (negative, magnitude) := signed chars
  let n := numberIn 10 (← decimalDigits magnitude)
  if negative then
    if n ≤ integerLimit then return -Int.ofNat n else none
  else if n < integerLimit then return Int.ofNat n
  else none

/-- More decimal places than any double needs. -/
def placesLimit : Nat := 400

/-- The double nearest to `digits · 10 ^ power`. -/
def nearestScaled (digits : List Char) (power : Int) : Option Binary64 :=
  let n := numberIn 10 digits
  let magnitude := power + (digits.dropWhile (· = '0')).length
  if n = 0 then some (Binary64.zero false)
  else if placesLimit < magnitude then none
  else if magnitude < -placesLimit then some (Binary64.zero false)
  else
    match power with
    | .ofNat up => Binary64.nearest (n * Nat.pow 10 up) 1
    | .negSucc down => Binary64.nearest n (Nat.pow 10 (down + 1))

/-- An exponent, if there is one. -/
def exponent? : List Char → Option Int
  | [] => some 0
  | c :: rest =>
      if c = 'e' ∨ c = 'E' then do
        let (negative, magnitude) := signed rest
        let n := numberIn 10 (← ungrouped Char.isDigit magnitude)
        return if negative then -Int.ofNat n else Int.ofNat n
      else none

/-- Digits and underscores at the start of a text, and the rest. -/
def splitDigits (chars : List Char) : List Char × List Char :=
  let isPart (c : Char) : Bool := c.isDigit || c = '_'
  (chars.takeWhile isPart, chars.dropWhile isPart)

/-- A number with a fraction or an exponent; the answer is its magnitude. -/
def magnitude? (chars : List Char) : Option Binary64 := do
  let (whole, rest) := splitDigits chars
  let whole ← decimalDigits whole
  let (places, rest) ← match rest with
    | '.' :: rest => do
        let (places, rest) := splitDigits rest
        pure (← ungrouped Char.isDigit places, rest)
    | [] => none
    | rest => pure ([], rest)
  nearestScaled (whole ++ places) ((← exponent? rest) - places.length)

/-- A number with a fraction, or one that has none. -/
def real? (chars : List Char) : Option Real := do
  let (negative, magnitude) := signed chars
  if magnitude = ['i', 'n', 'f'] then return .infinite negative
  else if magnitude = ['n', 'a', 'n'] then return .notANumber
  else do
    let x ← magnitude? magnitude
    return .finite (if negative then x.negate else x)

end ReleaseGate.Toml
