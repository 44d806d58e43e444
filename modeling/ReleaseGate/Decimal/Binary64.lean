/-
# Decimal.Binary64 — doubles as exact numbers

A double is kept as its 64 bits and computed with in whole numbers, so every
rounding is in the open. `Binary64.nearest` rounds a quotient to the nearest
double, ties to the even one; `Binary64.scaled` reads a decimal in two steps,
first its digits and then its power of ten, each rounded that way.
-/
namespace ReleaseGate

set_option autoImplicit false

/-- A double, as its bits: sign, eleven exponent bits, 52 fraction bits. -/
structure Binary64 where
  bits : UInt64
  deriving DecidableEq, Repr

namespace Binary64

/-- The bit of the sign. -/
def signBit : Nat := 0x8000000000000000

/-- One more than the largest fraction. -/
def fractionLimit : Nat := 0x10000000000000

/-- The exponent field of infinities and of what is no number. -/
def specialExponent : Nat := 2047

def isNegative (x : Binary64) : Bool := signBit ≤ x.bits.toNat

/-- The bits without the sign. -/
def unsigned (x : Binary64) : Nat := x.bits.toNat % signBit

def exponentField (x : Binary64) : Nat := x.unsigned / fractionLimit

def fraction (x : Binary64) : Nat := x.unsigned % fractionLimit

def isFinite (x : Binary64) : Bool := x.exponentField < specialExponent

/-- Zero with the given sign. -/
def zero (negative : Bool) : Binary64 := ⟨if negative then 0x8000000000000000 else 0⟩

/-- Infinity with the given sign. -/
def infinity (negative : Bool) : Binary64 :=
  ⟨if negative then 0xfff0000000000000 else 0x7ff0000000000000⟩

/-- The double that is no number. -/
def nan : Binary64 := ⟨0x7ff8000000000000⟩

/-- The magnitude of a finite double is `mantissa · 2 ^ (exponent - 1074)`. -/
def mantissa (x : Binary64) : Nat :=
  if x.exponentField = 0 then x.fraction else fractionLimit + x.fraction

def exponent (x : Binary64) : Nat := x.exponentField - 1

/-- The magnitude of a finite double as a numerator over `2 ^ 1074`. -/
def numerator (x : Binary64) : Nat := x.mantissa <<< x.exponent

/-- The denominator of every magnitude. -/
def denominator : Nat := 1 <<< 1074

/-- `numerator / denominator` rounded to a whole number, ties to even. -/
def roundHalfEven (num den : Nat) : Nat :=
  let quotient := num / den
  let twice := 2 * (num % den)
  if twice < den then quotient
  else if den < twice then quotient + 1
  else quotient + quotient % 2

/-- The double nearest to `num / den`, ties to the even mantissa; none beyond
the largest double. -/
def nearest (num den : Nat) : Option Binary64 :=
  if num = 0 then some (zero false)
  else
    -- `num · 2 ^ 1074 / den` has its highest bit at `top` or one above it
    let scaled := num <<< 1074
    let top := scaled.log2 - den.log2 - 1
    let shift := top - 52
    let shift := if scaled / (den <<< shift) < 2 * fractionLimit then shift else shift + 1
    let m := roundHalfEven scaled (den <<< shift)
    let bits := if m < fractionLimit then m else (shift + 1) * fractionLimit + (m - fractionLimit)
    if bits < specialExponent * fractionLimit then some ⟨UInt64.ofNat bits⟩ else none

/-- The double with the sign turned over. -/
def negate (x : Binary64) : Binary64 :=
  ⟨UInt64.ofNat (if x.isNegative then x.unsigned else x.unsigned + signBit)⟩

/-- The power of ten with a natural exponent, rounded to a double. -/
def powerOfTen (n : Nat) : Option Binary64 := nearest (Nat.pow 10 n) 1

/-- The product of two magnitudes, rounded. -/
def times (x y : Binary64) : Option Binary64 :=
  nearest (x.numerator * y.numerator) (denominator * denominator)

/-- The quotient of two magnitudes, rounded; the divisor is not zero. -/
def dividedBy (x y : Binary64) : Option Binary64 := nearest x.numerator y.numerator

/-- The largest power of ten that is a double. -/
def largestPower : Nat := 308

/-- Scale by a negative power of ten in steps of at most `largestPower`. -/
def scaleDown (steps : Nat) (x : Binary64) (n : Nat) : Option Binary64 :=
  match steps with
  | 0 => some (zero false)
  | steps + 1 =>
      if n ≤ largestPower then do x.dividedBy (← powerOfTen n)
      else if x.unsigned = 0 then some x
      else do
        let smaller ← x.dividedBy (← powerOfTen largestPower)
        scaleDown steps smaller (n - largestPower)

/-- The double read from `digits · 10 ^ power`: digits and power are rounded
one after the other. None if the number is beyond the largest double. -/
def scaled (digits : Nat) (power : Int) : Option Binary64 := do
  let x ← nearest digits 1
  match power with
  | .ofNat n =>
      if n ≤ largestPower then x.times (← powerOfTen n)
      else if x.unsigned = 0 then some x else none
  | .negSucc n => scaleDown 8 x (n + 1)

end Binary64

end ReleaseGate
