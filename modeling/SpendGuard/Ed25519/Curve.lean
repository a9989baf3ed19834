import SpendGuard.Bytes
import SpendGuard.Ed25519.Field

/-!
# The twisted Edwards curve

The curve −x² + y² = 1 + d·x²·y², its group law in extended coordinates, and the thirty-two
byte form of a point: the coordinate y with the parity of x in the top bit. The addition law is
complete, so it serves for doubling and for the neutral point too.
-/

namespace SpendGuard

namespace Ed25519

open Residue

/-- The curve's constant d = −121665 / 121666. -/
def constantD : Residue := mul (neg 121665) (inv 121666)

/-- The order of the base point: the prime 2²⁵² + 27742317777372353535851937790883648493. -/
def order : Nat := Nat.pow 2 252 + 27742317777372353535851937790883648493

/-- A point in extended coordinates: x = X / Z, y = Y / Z, and T = X·Y / Z. -/
structure Point where
  /-- Numerator of x. -/
  x : Residue
  /-- Numerator of y. -/
  y : Residue
  /-- Common denominator. -/
  z : Residue
  /-- The product of x and y, over the denominator. -/
  t : Residue

namespace Point

/-- The neutral point. -/
def neutral : Point := ⟨0, 1, 1, 0⟩

/-- The sum of two points. -/
def add (p q : Point) : Point :=
  let a := mul (sub p.y p.x) (sub q.y q.x)
  let b := mul (Residue.add p.y p.x) (Residue.add q.y q.x)
  let c := mul (mul p.t (mul 2 constantD)) q.t
  let d := mul (mul p.z 2) q.z
  let e := sub b a
  let f := sub d c
  let g := Residue.add d c
  let h := Residue.add b a
  ⟨mul e f, mul g h, mul f g, mul e h⟩

/-- The negative of a point. -/
def neg (p : Point) : Point := ⟨Residue.neg p.x, p.y, p.z, Residue.neg p.t⟩

/-- Multiples by repeated doubling, over the `bits` lowest bits of the scalar. -/
def scaleBits : (bits : Nat) → (n : Nat) → (p : Point) → Point
  | 0, _, _ => neutral
  | bits + 1, n, p =>
    let rest := scaleBits bits (n / 2) (add p p)
    if n % 2 = 1 then add p rest else rest

/-- The multiple of a point by a scalar below 2²⁵⁶. -/
def scale (n : Nat) (p : Point) : Point := scaleBits 256 n p

/-- Whether two points have the same coordinates. -/
def same (p q : Point) : Bool :=
  mul p.x q.z == mul q.x p.z && mul p.y q.z == mul q.y p.z

/-- Whether eight times the point is the neutral point. -/
def hasSmallOrder (p : Point) : Bool := (scale 8 p).same neutral

/-- The thirty-two byte form: y, with the parity of x in the top bit. -/
def compress (p : Point) : List UInt8 :=
  let w := inv p.z
  let x := mul p.x w
  let y := mul p.y w
  Bytes.littleEndian 32 (y + x % 2 * Nat.pow 2 255)

@[simp]
theorem length_compress (p : Point) : p.compress.length = 32 := by simp [compress]

/-- The point a thirty-two byte form stands for, when it is on the curve. The coordinate y may
exceed the prime and is then reduced. -/
def decompress? (bytes : List UInt8) : Option Point :=
  let n := Bytes.ofLittleEndian bytes
  let y := n % Nat.pow 2 255 % prime
  let yy := mul y y
  (sqrtRatio? (sub yy 1) (Residue.add (mul yy constantD) 1)).map fun x =>
    let x := if n / Nat.pow 2 255 % 2 = 1 then Residue.neg x else x
    ⟨x, y, 1, mul x y⟩

/-- The base point: y = 4 / 5, with x even. -/
def base : Point :=
  (decompress? (Bytes.littleEndian 32 (mul 4 (inv 5)))).getD neutral

end Point

end Ed25519

end SpendGuard
