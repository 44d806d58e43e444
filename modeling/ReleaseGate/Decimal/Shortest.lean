/-
# Decimal.Shortest — the fewest digits that name a double

A double is written with the fewest decimal digits that read back as it; among
those the nearest, and of two equally near the even one. The search is over
decimal grids of one, two, … seventeen digits: the first grid that has a point
between the double's two rounding borders wins.

`RealStyle` holds what a written format decides beyond the digits.
-/
import ReleaseGate.Decimal.Binary64

namespace ReleaseGate.Decimal

set_option autoImplicit false

/-- `digits · 10 ^ exponent`. -/
structure Scientific where
  digits : Nat
  exponent : Int
  deriving DecidableEq, Repr

/-- A positive quotient of whole numbers. -/
structure Ratio where
  num : Nat
  den : Nat

/-- `r · 10 ^ n`. -/
def Ratio.timesPower (r : Ratio) (n : Int) : Ratio :=
  match n with
  | .ofNat n => ⟨r.num * Nat.pow 10 n, r.den⟩
  | .negSucc n => ⟨r.num, r.den * Nat.pow 10 (n + 1)⟩

/-- The decimal place of the leading digit of a positive ratio below one: the
least `n` with `r · 10 ^ n ≥ 1`. -/
def leadingZeros (fuel : Nat) (num den : Nat) : Nat :=
  match fuel with
  | 0 => 0
  | fuel + 1 => if den ≤ num then 0 else leadingZeros fuel (num * 10) den + 1

/-- The power of ten of the leading digit. -/
def Ratio.magnitude (r : Ratio) : Int :=
  if r.den ≤ r.num then Int.ofNat (Nat.toDigits 10 (r.num / r.den)).length - 1
  else - Int.ofNat (leadingZeros 400 r.num r.den)

/-- The borders between which every number rounds to one double. -/
structure Borders where
  lower : Ratio
  upper : Ratio
  /-- Whether the borders themselves round to it. -/
  inclusive : Bool

/-- The rounding borders of a positive finite double. -/
def borders (x : Binary64) : Borders :=
  let unit := 1 <<< x.exponent
  let den := 4 * Binary64.denominator
  let below := if x.fraction = 0 ∧ 1 < x.exponentField then unit else 2 * unit
  { lower := ⟨4 * x.numerator - below, den⟩
    upper := ⟨4 * x.numerator + 2 * unit, den⟩
    inclusive := x.mantissa % 2 = 0 }

/-- Whether `n / 10 ^ power` lies between the borders. -/
def Borders.holds (b : Borders) (n : Nat) (power : Int) : Bool :=
  let lower := b.lower.timesPower power
  let upper := b.upper.timesPower power
  if b.inclusive then lower.num ≤ n * lower.den && n * upper.den ≤ upper.num
  else lower.num < n * lower.den && n * upper.den < upper.num

/-- The point of the grid `1 / 10 ^ power` that names the double, if one does. -/
def onGrid (x : Ratio) (b : Borders) (power : Int) : Option Nat :=
  let point := x.timesPower power
  let low := point.num / point.den
  match b.holds low power, b.holds (low + 1) power with
  | true, false => some low
  | false, true => some (low + 1)
  | true, true =>
      let twice := 2 * (point.num % point.den)
      if twice < point.den then some low
      else if point.den < twice then some (low + 1)
      else some (low + low % 2)
  | false, false => none

/-- Leave out zeros at the end of the digits. -/
def trimZeros (fuel : Nat) (digits : Nat) (exponent : Int) : Scientific :=
  match fuel with
  | 0 => ⟨digits, exponent⟩
  | fuel + 1 =>
      if digits % 10 = 0 ∧ digits ≠ 0 then trimZeros fuel (digits / 10) (exponent + 1)
      else ⟨digits, exponent⟩

/-- Try grids with `count` digits and more, `tries` of them. -/
def searchGrids (x : Ratio) (b : Borders) (magnitude : Int) (count tries : Nat) : Scientific :=
  match tries with
  | 0 => ⟨0, 0⟩
  | tries + 1 =>
      let power : Int := Int.ofNat count - 1 - magnitude
      match onGrid x b power with
      | some digits => trimZeros 20 digits (-power)
      | none => searchGrids x b magnitude (count + 1) tries

/-- The shortest decimal of a finite double's magnitude. -/
def shortest (x : Binary64) : Scientific :=
  if x.unsigned = 0 then ⟨0, 0⟩
  else
    let r : Ratio := ⟨x.numerator, Binary64.denominator⟩
    searchGrids r (borders x) r.magnitude 1 17

/-- What a written format decides beyond the digits. -/
structure RealStyle where
  /-- Numbers whose leading digit stands at one of these powers of ten are written positionally. -/
  isPositional : Int → Bool
  /-- What stands before a positive exponent. -/
  plus : String

/-- `n` zeros. -/
def zeros (n : Nat) : List Char := List.replicate n '0'

/-- Digits with the point where it belongs, at least one digit on each side of it. -/
def positional (digits : List Char) (exponent : Int) : List Char :=
  match exponent with
  | .ofNat n => digits ++ zeros n ++ ['.', '0']
  | .negSucc n =>
      let places := n + 1
      if places < digits.length then
        digits.take (digits.length - places) ++ '.' :: digits.drop (digits.length - places)
      else '0' :: '.' :: (zeros (places - digits.length) ++ digits)

/-- Digits with the point after the first one and the power of ten behind. -/
def exponential (plus : String) (digits : List Char) (exponent : Int) : List Char :=
  let power := exponent + (digits.length - 1)
  let mantissa := match digits with
    | [] => ['0']
    | [d] => [d]
    | d :: rest => d :: '.' :: rest
  let sign := if power < 0 then "-" else plus
  mantissa ++ 'e' :: (sign.toList ++ Nat.toDigits 10 power.natAbs)

/-- The text of a finite double in a style. -/
def RealStyle.write (style : RealStyle) (x : Binary64) : String :=
  let s := shortest x
  let digits := Nat.toDigits 10 s.digits
  let body :=
    if s.digits = 0 then ['0', '.', '0']
    else if style.isPositional (s.exponent + (digits.length - 1)) then
      positional digits s.exponent
    else exponential style.plus digits s.exponent
  String.ofList (if x.isNegative then '-' :: body else body)

end ReleaseGate.Decimal
