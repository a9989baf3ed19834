import SpendGuard.Amount
import SpendGuard.Decimal
import SpendGuard.Rounding

/-!
# Binary floating point

Amounts of SOL are shown, and settings may be written, in the 64-bit binary format: a sign, a
significand below `2 ^ 53` and a power of two. Numbers of this format are kept as exactly these
parts, so that every operation is exact arithmetic followed by one rounding (`nearest`).
-/

namespace SpendGuard

/-- A number of the 64-bit binary format. -/
inductive Binary64 where
  /-- The number ± significand · 2 ^ exponent. -/
  | finite (negative : Bool) (significand : Nat) (exponent : Int)
  /-- Beyond all finite numbers. -/
  | infinite (negative : Bool)
  /-- Not a number. -/
  | nan
deriving DecidableEq, Repr

namespace Binary64

/-- The power of two of the smallest numbers. -/
def leastExponent : Int := -1074

/-- The power of two of the largest numbers. -/
def greatestExponent : Int := 971

/-- Zero. -/
def zero (negative : Bool) : Binary64 := .finite negative 0 leastExponent

/-- The quotient of `num / den` and `2 ^ exponent`, as numerator and denominator. -/
def inUnits (num den : Nat) (exponent : Int) : Nat × Nat :=
  if 0 ≤ exponent then (num, den <<< exponent.toNat) else (num <<< (-exponent).toNat, den)

/-- The power of two in units of which the quotient has fifty-three binary digits, or the least
one if that is greater. -/
def unitExponent (num den : Nat) : Int :=
  let guess : Int := (num.log2 : Int) - den.log2 - 52
  let (n, d) := inUnits num den guess
  max leastExponent (if n < d <<< 52 then guess - 1 else guess)

/-- The number of the format that is nearest to ± `num / den`; a tie goes to the even
significand. -/
def nearest (negative : Bool) (num den : Nat) : Binary64 :=
  if num = 0 then zero negative
  else
    let exponent := unitExponent num den
    let (n, d) := inUnits num den exponent
    let significand := Rounding.quotient .toEven n d
    let (significand, exponent) :=
      if significand = 1 <<< 53 then (1 <<< 52, exponent + 1) else (significand, exponent)
    if greatestExponent < exponent then .infinite negative
    else .finite negative significand exponent

/-- The number nearest to a natural number. -/
def ofNat (n : Nat) : Binary64 := nearest false n 1

/-- Every finite number lies below `10 ^ 309`, and none but zero below `10 ^ (-324)`. -/
def decimalRange : Int := 330

/-- The number nearest to a decimal number. -/
def ofDecimal (d : Decimal) : Binary64 :=
  let magnitude : Int := (Decimal.natChars d.digits).length + d.exponent
  if d.digits = 0 ∨ magnitude < -decimalRange then zero d.negative
  else if decimalRange < magnitude then .infinite d.negative
  else if 0 ≤ d.exponent then nearest d.negative (d.digits * Nat.pow 10 d.exponent.toNat) 1
  else nearest d.negative d.digits (Nat.pow 10 (-d.exponent).toNat)

/-- A number divided by a positive natural number. -/
def divNat (x : Binary64) (n : Nat) : Binary64 :=
  match x with
  | .finite negative m e =>
    let (num, den) := inUnits m n (-e)
    nearest negative num den
  | x => x

/-- Whether a number is finite. -/
def isFinite : Binary64 → Bool
  | .finite .. => true
  | _ => false

/-- The nearest amount: a half is rounded up, and what lies outside the range becomes the
nearest end of it. What is not a number counts as zero. -/
def toAmount : Binary64 → Amount
  | .finite true .. | .infinite true | .nan => 0
  | .infinite false => UInt64.ofNat (UInt64.size - 1)
  | .finite false m e =>
    let (num, den) := inUnits m 1 (-e)
    UInt64.ofNat (min (Rounding.quotient .up num den) (UInt64.size - 1))

end Binary64

end SpendGuard
