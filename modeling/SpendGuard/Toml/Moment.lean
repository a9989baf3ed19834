import SpendGuard.Decimal

/-!
# Dates and times

A *moment* is a date, a time of day, or both with an offset from universal time or without. It
is read from the notation of the internet's date standard and shown in one standard text.
-/

namespace SpendGuard

open Decimal (padded)

namespace Toml

/-- A day of a year. -/
structure Date where
  /-- From 0 to 9999. -/
  year : Nat
  /-- From 1 to 12. -/
  month : Nat
  /-- From 1 to the length of the month. -/
  day : Nat

/-- A time of day. -/
structure Time where
  /-- From 0 to 23. -/
  hour : Nat
  /-- From 0 to 59. -/
  minute : Nat
  /-- From 0 to 60. -/
  second : Nat
  /-- Below a thousand millions. -/
  nanosecond : Nat

/-- How far a clock is from universal time. -/
inductive Offset where
  /-- Not at all. -/
  | universal
  /-- By so many minutes. -/
  | minutes (n : Int)

/-- A date, a time of day, or both. -/
inductive Moment where
  | date (d : Date)
  | time (t : Time)
  | dateTime (d : Date) (t : Time) (offset : Option Offset)

/-- Whether a year has a leap day. -/
def isLeapYear (year : Nat) : Bool := year % 4 = 0 && (year % 100 ≠ 0 || year % 400 = 0)

/-- The length of a month. -/
def daysIn (year month : Nat) : Nat :=
  if month = 2 then (if isLeapYear year then 29 else 28)
  else if month ∈ [4, 6, 9, 11] then 30 else 31

/-! ### Reading -/

/-- A number of exactly so many digits, within bounds, and what follows it. -/
def takeNumber? (width low high : Nat) (cs : List Char) : Option (Nat × List Char) :=
  let digits := cs.take width
  let n := Decimal.ofDigits digits
  if digits.length = width && digits.all Char.isDigit && low ≤ n && n ≤ high then
    some (n, cs.drop width)
  else none

/-- What follows a character, when it is one of these. -/
def takeOneOf? (allowed : List Char) : List Char → Option (List Char)
  | c :: rest => if c ∈ allowed then some rest else none
  | [] => none

/-- A date and what follows it. -/
def takeDate? (cs : List Char) : Option (Date × List Char) := do
  let (year, cs) ← takeNumber? 4 0 9999 cs
  let cs ← takeOneOf? ['-'] cs
  let (month, cs) ← takeNumber? 2 1 12 cs
  let cs ← takeOneOf? ['-'] cs
  let (day, cs) ← takeNumber? 2 1 (daysIn year month) cs
  return (⟨year, month, day⟩, cs)

/-- The fraction of a second in nanoseconds; further digits are cut off. -/
def takeFraction? : List Char → Option (Nat × List Char)
  | '.' :: rest =>
    let digits := rest.takeWhile Char.isDigit
    let kept := digits.take 9
    if digits.isEmpty then none
    else some (Decimal.ofDigits kept * Nat.pow 10 (9 - kept.length), rest.dropWhile Char.isDigit)
  | cs => some (0, cs)

/-- A time of day and what follows it. -/
def takeTime? (cs : List Char) : Option (Time × List Char) := do
  let (hour, cs) ← takeNumber? 2 0 23 cs
  let cs ← takeOneOf? [':'] cs
  let (minute, cs) ← takeNumber? 2 0 59 cs
  let cs ← takeOneOf? [':'] cs
  let (second, cs) ← takeNumber? 2 0 60 cs
  let (nanosecond, cs) ← takeFraction? cs
  return (⟨hour, minute, second, nanosecond⟩, cs)

/-- A whole offset; none stands for no offset. -/
def offset? : List Char → Option (Option Offset)
  | [] => some none
  | ['Z'] | ['z'] => some (some .universal)
  | sign :: cs => do
    let _ ← takeOneOf? ['+', '-'] [sign]
    let (hour, cs) ← takeNumber? 2 0 23 cs
    let cs ← takeOneOf? [':'] cs
    let (minute, cs) ← takeNumber? 2 0 59 cs
    let minutes : Int := hour * 60 + minute
    if cs.isEmpty then return some (.minutes (if sign = '-' then -minutes else minutes)) else none

/-- The moment that a whole text spells. -/
def Moment.ofChars? (cs : List Char) : Option Moment :=
  match takeDate? cs with
  | some (d, []) => some (.date d)
  | some (d, rest) => do
    let rest ← takeOneOf? ['T', 't', ' '] rest
    let (t, rest) ← takeTime? rest
    return .dateTime d t (← offset? rest)
  | none =>
    match takeTime? cs with
    | some (t, []) => some (.time t)
    | _ => none

/-! ### Showing -/

/-- The standard text of a date. -/
def Date.chars (d : Date) : List Char :=
  padded 4 d.year ++ '-' :: padded 2 d.month ++ '-' :: padded 2 d.day

/-- The standard text of a time; a fraction has no trailing zeros. -/
def Time.chars (t : Time) : List Char :=
  let fraction := (padded 9 t.nanosecond).reverse.dropWhile (· = '0')
  padded 2 t.hour ++ ':' :: padded 2 t.minute ++ ':' :: padded 2 t.second
    ++ if fraction.isEmpty then [] else '.' :: fraction.reverse

/-- The standard text of an offset. -/
def Offset.chars : Offset → List Char
  | universal => ['Z']
  | minutes n =>
    (if n < 0 then '-' else '+') :: padded 2 (n.natAbs / 60) ++ ':' :: padded 2 (n.natAbs % 60)

/-- The standard text of a moment. -/
def Moment.text : Moment → String
  | date d => String.ofList d.chars
  | time t => String.ofList t.chars
  | dateTime d t offset =>
    String.ofList (d.chars ++ 'T' :: t.chars ++ (offset.map Offset.chars).getD [])

end Toml

end SpendGuard
