import SpendGuard.Binary64

/-!
# Texts of binary floating point numbers

A number is shown without an exponent: either with the fewest digits that read back as the same
number, or with a fixed number of places. The fewest digits are found on decimal grids: the
coarsest grid with a point that rounds to the number has it, and of two such points the nearer
one is taken.
-/

namespace SpendGuard

namespace Decimal

/-- The number without an exponent. -/
def positional (d : Decimal) : List Char :=
  let places := (-d.exponent).toNat
  let n := d.digits * Nat.pow 10 d.exponent.toNat
  let fraction := if places = 0 then [] else '.' :: padded places (n % Nat.pow 10 places)
  (if d.negative then ['-'] else []) ++ natChars (n / Nat.pow 10 places) ++ fraction

/-- A number as people write it: digits, of which some may follow a point, and perhaps a power
of ten. There is at least one digit before or after the point. -/
def ofChars? (negative : Bool) (cs : List Char) : Option Decimal :=
  let whole := cs.takeWhile Char.isDigit
  let (fraction, rest) := match cs.dropWhile Char.isDigit with
    | '.' :: rest => (rest.takeWhile Char.isDigit, rest.dropWhile Char.isDigit)
    | rest => ([], rest)
  if whole.isEmpty && fraction.isEmpty then none
  else match rest with
    | [] => some (.ofParts negative whole fraction 0)
    | e :: rest =>
      if e = 'e' || e = 'E' then
        (signed? rest).map fun x => .ofParts negative whole fraction x
      else none
where
  /-- A power of ten: a sign, which may be missing, and digits. -/
  signed? (cs : List Char) : Option Int :=
    let (negative, digits) := match cs with
      | '-' :: rest => (true, rest)
      | '+' :: rest => (false, rest)
      | rest => (false, rest)
    if digits.isEmpty || !digits.all Char.isDigit then none
    else
      let n : Int := ofDigits digits
      some (if negative then -n else n)

end Decimal

namespace Binary64

/-! ### The fewest digits -/

/-- The positive real numbers that round to `m · 2 ^ e`, in quarters of `2 ^ e`: both ends, and
whether they belong to them. Below a power of two the numbers of the format lie closer. -/
def quarters (m : Nat) (e : Int) : Nat × Nat × Bool :=
  (if m = 1 <<< 52 ∧ leastExponent < e then 4 * m - 1 else 4 * m - 2, 4 * m + 2, m % 2 = 0)

/-- The multiple of `10 ^ k` that is nearest to `m · 2 ^ e` among those that round to it. -/
def onGrid? (m : Nat) (e k : Int) : Option Nat :=
  let (low, high, closed) := quarters m e
  let scale := Nat.pow 10 (-k).toNat <<< (e - 2).toNat
  let step := Nat.pow 10 k.toNat <<< (2 - e).toNat
  let below := 4 * m * scale / step
  let inside (c : Nat) : Bool :=
    if closed then low * scale ≤ c * step ∧ c * step ≤ high * scale
    else low * scale < c * step ∧ c * step < high * scale
  let nearer := if step ≤ 2 * (4 * m * scale % step) then [below + 1, below] else [below, below + 1]
  nearer.find? fun c => 0 < c ∧ inside c

/-- The first grid that has a point, from `10 ^ k` to finer ones. -/
def searchGrid (m : Nat) (e : Int) : (steps : Nat) → (k : Int) → Decimal
  | 0, k => ⟨false, 0, k⟩
  | steps + 1, k =>
    match onGrid? m e k with
    | some c => ⟨false, c, k⟩
    | none => searchGrid m e steps (k - 1)

/-- The decimal number with the fewest digits that rounds to ± `m · 2 ^ e`. The first grid tried
is coarser than the number is large, and a grid finer than the number's last place has a
point. -/
def shortest (negative : Bool) (m : Nat) (e : Int) : Decimal :=
  if m = 0 then ⟨negative, 0, 0⟩
  else { searchGrid m e 40 ((e + 53) * 30103 / 100000 + 1) with negative }

/-! ### Texts -/

/-- How numbers that are not finite are shown. -/
def specialText : Binary64 → String
  | .infinite true => "-inf"
  | .infinite false => "inf"
  | _ => "NaN"

/-- The text with the fewest digits. -/
def text : Binary64 → String
  | .finite negative m e => String.ofList (shortest negative m e).positional
  | x => specialText x

/-- The text with a fixed number of places; a tie goes to the even digit. -/
def fixedText (places : Nat) : Binary64 → String
  | .finite negative m e =>
    let (num, den) := inUnits (m * Nat.pow 10 places) 1 (-e)
    String.ofList (Decimal.positional ⟨negative, Rounding.quotient .toEven num den, -places⟩)
  | x => specialText x

/-- Lower case, for the letters `A` to `Z`. -/
def foldCase (cs : List Char) : String := String.ofList (cs.map Char.toLower)

/-- The number that a text spells: a decimal number, `inf`, `infinity` or `nan`, after a sign
that may be missing. -/
def ofText? (s : String) : Option Binary64 :=
  let (negative, cs) := match s.toList with
    | '-' :: cs => (true, cs)
    | '+' :: cs => (false, cs)
    | cs => (false, cs)
  match foldCase cs with
  | "inf" | "infinity" => some (.infinite negative)
  | "nan" => some .nan
  | _ => (Decimal.ofChars? negative cs).map ofDecimal

end Binary64

end SpendGuard
