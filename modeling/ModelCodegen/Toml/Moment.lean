import ModelCodegen.Json.Tree

/-!
# Dates and times

A moment is a day, a time of day, or both with perhaps an offset from universal time.  It is read
from fixed fields of digits, and a field beyond its range makes it no moment.  `Moment.text` is its
normal form: a `T` between day and time, no zeros at the end of a fraction.
-/

namespace ModelCodegen.Toml

/-- A day of the calendar. -/
structure Date where
  year : Nat
  month : Nat
  day : Nat
  deriving DecidableEq, Repr

/-- A time of day. -/
structure Time where
  hour : Nat
  minute : Nat
  /-- From 0 to 60. -/
  second : Nat
  /-- The digits of the fraction of a second: nine at most, and no zero at the end. -/
  fraction : List Char
  deriving DecidableEq, Repr

/-- How far a clock is from universal time. -/
inductive Offset where
  | universal
  | hours (negative : Bool) (hour : Nat) (minute : Nat)
  deriving DecidableEq, Repr

/-- A day, a time of day, or both. -/
inductive Moment where
  | day (date : Date)
  | clock (time : Time)
  | instant (date : Date) (time : Time) (offset : Option Offset)
  deriving DecidableEq, Repr

/-- Every fourth year is a leap year, except for centuries that 400 does not divide. -/
def isLeapYear (year : Nat) : Bool := year % 4 == 0 && (year % 100 != 0 || year % 400 == 0)

/-- How many days a month has; none if there is no such month. -/
def daysInMonth (year month : Nat) : Nat :=
  match month with
  | 2 => if isLeapYear year then 29 else 28
  | 4 | 6 | 9 | 11 => 30
  | 1 | 3 | 5 | 7 | 8 | 10 | 12 => 31
  | _ => 0

/-- A field of so many digits. -/
def field? (width : Nat) (chars : List Char) : Option (Nat × List Char) :=
  let digits := chars.take width
  if digits.length = width ∧ digits.all Char.isDigit then
    some (Json.digitsValue digits, chars.drop width)
  else none

/-- A field behind a sign that must stand in front of it. -/
def fieldBehind? (sign : Char) (width : Nat) : List Char → Option (Nat × List Char)
  | [] => none
  | c :: rest => if c = sign then field? width rest else none

/-- A date. -/
def date? (chars : List Char) : Option (Date × List Char) := do
  let (year, rest) ← field? 4 chars
  let (month, rest) ← fieldBehind? '-' 2 rest
  let (day, rest) ← fieldBehind? '-' 2 rest
  if 1 ≤ day ∧ day ≤ daysInMonth year month then some (⟨year, month, day⟩, rest) else none

/-- Drop the zeros at the end of a fraction. -/
def trimZeros (digits : List Char) : List Char := (digits.reverse.dropWhile (· == '0')).reverse

/-- The fraction of a second, if there is one; digits beyond the ninth do not count. -/
def fraction (chars : List Char) : List Char × List Char :=
  match chars with
  | '.' :: rest =>
    let digits := rest.takeWhile Char.isDigit
    if digits.isEmpty then ([], chars)
    else (trimZeros (digits.take 9), rest.drop digits.length)
  | _ => ([], chars)

/-- A time of day. -/
def time? (chars : List Char) : Option (Time × List Char) := do
  let (hour, rest) ← field? 2 chars
  let (minute, rest) ← fieldBehind? ':' 2 rest
  let (second, rest) ← fieldBehind? ':' 2 rest
  if hour < 24 ∧ minute < 60 ∧ second ≤ 60 then
    let (digits, rest) := fraction rest
    some (⟨hour, minute, second, digits⟩, rest)
  else none

/-- An offset. -/
def offset? (chars : List Char) : Option (Offset × List Char) :=
  match chars with
  | [] => none
  | c :: rest =>
    if c = 'Z' ∨ c = 'z' then some (.universal, rest)
    else if c = '+' ∨ c = '-' then do
      let (hour, rest) ← field? 2 rest
      let (minute, rest) ← fieldBehind? ':' 2 rest
      if hour < 24 ∧ minute < 60 then some (.hours (c = '-') hour minute, rest) else none
    else none

/-- The time behind a date, with its offset. -/
def timeBehindDate? : List Char → Option (Time × Option Offset × List Char)
  | [] => none
  | c :: rest =>
    if c = 'T' ∨ c = 't' ∨ c = ' ' then do
      let (time, rest) ← time? rest
      match offset? rest with
      | none => some (time, none, rest)
      | some (offset, rest) => some (time, some offset, rest)
    else none

/-- A moment. -/
def moment? (chars : List Char) : Option (Moment × List Char) :=
  match date? chars with
  | none => (time? chars).map fun (time, rest) => (.clock time, rest)
  | some (date, rest) =>
    match timeBehindDate? rest with
    | none => some (.day date, rest)
    | some (time, offset, rest) => some (.instant date time offset, rest)

/-- A number with zeros in front up to a width. -/
def padded (width n : Nat) : String :=
  let digits := (toString n).toList
  String.ofList (List.replicate (width - digits.length) '0' ++ digits)

/-- A date as text. -/
def Date.text (date : Date) : String :=
  padded 4 date.year ++ "-" ++ padded 2 date.month ++ "-" ++ padded 2 date.day

/-- A time as text. -/
def Time.text (time : Time) : String :=
  padded 2 time.hour ++ ":" ++ padded 2 time.minute ++ ":" ++ padded 2 time.second ++
    (if time.fraction.isEmpty then "" else "." ++ String.ofList time.fraction)

/-- An offset as text; an offset of nothing has a plus sign. -/
def Offset.text : Offset → String
  | .universal => "Z"
  | .hours negative hour minute =>
    (if negative ∧ 0 < hour + minute then "-" else "+") ++ padded 2 hour ++ ":" ++ padded 2 minute

/-- A moment as text. -/
def Moment.text : Moment → String
  | .day date => date.text
  | .clock time => time.text
  | .instant date time offset =>
    date.text ++ "T" ++ time.text ++ (offset.map Offset.text).getD ""

example : daysInMonth 1900 2 = 28 ∧ daysInMonth 2000 2 = 29 := by decide
example : (moment? "1979-05-27 07:32:00.500-00:00".toList).map (·.1.text) =
    some "1979-05-27T07:32:00.5+00:00" := by decide +kernel
example : (moment? "1979-02-29".toList).map (·.1.text) = none := by decide +kernel

end ModelCodegen.Toml
