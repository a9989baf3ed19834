/-!
# The field of the twisted Edwards curve

Residues modulo the prime 2²⁵⁵ − 19, kept reduced. The prime is 5 modulo 8, so a square root of
a ratio is one exponentiation, up to a fixed square root of −1.
-/

namespace SpendGuard

namespace Ed25519

/-- The field's prime. -/
def prime : Nat := Nat.pow 2 255 - 19

/-- A residue modulo the prime. -/
abbrev Residue := Nat

namespace Residue

/-- The sum of two residues. -/
def add (a b : Residue) : Residue := (a + b) % prime

/-- The negative of a residue. -/
def neg (a : Residue) : Residue := (prime - a % prime) % prime

/-- The difference of two residues. -/
def sub (a b : Residue) : Residue := add a (neg b)

/-- The product of two residues. -/
def mul (a b : Residue) : Residue := a * b % prime

/-- Powers by repeated squaring, over the `bits` lowest bits of the exponent. -/
def powBits : (bits : Nat) → (a : Residue) → (e : Nat) → Residue
  | 0, _, _ => 1
  | bits + 1, a, e =>
    let rest := powBits bits (mul a a) (e / 2)
    if e % 2 = 1 then mul a rest else rest

/-- The power of a residue, for exponents below 2²⁵⁶. -/
def pow (a : Residue) (e : Nat) : Residue := powBits 256 a e

/-- The inverse of a residue, and zero for zero. -/
def inv (a : Residue) : Residue := pow a (prime - 2)

/-- A square root of −1. -/
def sqrtMinusOne : Residue := pow 2 ((prime - 1) / 4)

/-- The even square root of `u / v`, when the ratio is a square. -/
def sqrtRatio? (u v : Residue) : Option Residue :=
  let v3 := mul (mul v v) v
  let v7 := mul (mul v3 v3) v
  let r := mul (mul u v3) (pow (mul u v7) ((prime - 5) / 8))
  let check := mul v (mul r r)
  let root? :=
    if check = u % prime then some r
    else if check = neg u then some (mul r sqrtMinusOne)
    else none
  root?.map fun r => if r % 2 = 1 then neg r else r

end Residue

end Ed25519

end SpendGuard
