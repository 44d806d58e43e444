/-
# Toml.Moment — dates and times of day

A moment is a date, a time of day, or both with a `T` or a blank between them;
then it may say how far its clock is off. Seconds may be left out. Days count
up to the end of their month.
-/
namespace ReleaseGate.Toml

set_option autoImplicit false

/-- Read `count` decimal digits as a number. -/
def digits (count : Nat) (chars : List Char) : Option (Nat × List Char) :=
  let taken := chars.take count
  if taken.length = count ∧ taken.all Char.isDigit then
    some (taken.foldl (fun n c => 10 * n + (c.toNat - 48)) 0, chars.drop count)
  else none

/-- Past one of some characters. -/
def past (allowed : List Char) : List Char → Option (List Char)
  | c :: rest => if allowed.contains c then some rest else none
  | [] => none

def isLeapYear (year : Nat) : Bool :=
  year % 4 == 0 && (year % 100 != 0 || year % 400 == 0)

def daysInMonth (year month : Nat) : Nat :=
  if month = 2 then if isLeapYear year then 29 else 28
  else if [4, 6, 9, 11].contains month then 30
  else 31

/-- Past a date. -/
def date (chars : List Char) : Option (List Char) := do
  let (year, chars) ← digits 4 chars
  let (month, chars) ← digits 2 (← past ['-'] chars)
  let (day, chars) ← digits 2 (← past ['-'] chars)
  if 1 ≤ month ∧ month ≤ 12 ∧ 1 ≤ day ∧ day ≤ daysInMonth year month then some chars else none

/-- Past a fraction of a second, if there is one. -/
def fraction : List Char → Option (List Char)
  | '.' :: rest =>
      if (rest.takeWhile Char.isDigit).isEmpty then none else some (rest.dropWhile Char.isDigit)
  | chars => some chars

/-- Past a time of day. -/
def timeOfDay (chars : List Char) : Option (List Char) := do
  let (hour, chars) ← digits 2 chars
  let (minute, chars) ← digits 2 (← past [':'] chars)
  if 23 < hour ∨ 59 < minute then none
  else
    match chars with
    | ':' :: chars => do
        let (second, chars) ← digits 2 chars
        if 60 < second then none else fraction chars
    | chars => some chars

/-- Past how far the clock is off, if that is told. -/
def offset : List Char → Option (List Char)
  | [] => some []
  | c :: chars => do
      if c = 'Z' ∨ c = 'z' then some chars
      else if c = '+' ∨ c = '-' then
        let (hours, chars) ← digits 2 chars
        let (minutes, chars) ← digits 2 (← past [':'] chars)
        if 23 < hours ∨ 59 < minutes then none else some chars
      else none

/-- Whether a text is a moment. -/
def isMoment (chars : List Char) : Bool :=
  match date chars with
  | some [] => true
  | some (mark :: rest) =>
      ['T', 't', ' '].contains mark &&
        (match timeOfDay rest with
        | some rest => offset rest == some []
        | none => false)
  | none => timeOfDay chars == some []

end ReleaseGate.Toml
