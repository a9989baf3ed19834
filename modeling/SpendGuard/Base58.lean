import SpendGuard.Bytes

/-!
# Base 58

A byte string is written as the base-58 digits of the number it spells, most significant first,
after one `1` for every leading zero byte. The alphabet leaves out the characters that are easy
to confuse (`0`, `O`, `I` and `l`).
-/

namespace SpendGuard

namespace Base58

/-- The fifty-eight digits, in order of value. -/
def alphabet : List Char :=
  "123456789ABCDEFGHJKLMNPQRSTUVWXYZabcdefghijkmnopqrstuvwxyz".toList

/-- The digit of value `v`. -/
def digit (v : Nat) : Char := (alphabet[v]?).getD '1'

/-- The value of a digit, when the character is one. -/
def value? (c : Char) : Option Nat := alphabet.findIdx? (· == c)

/-- The base-`base` digits of `n`, least significant first, at most `fuel` of them. -/
def digitsUpTo (base : Nat) : (fuel : Nat) → (n : Nat) → List Nat
  | 0, _ => []
  | fuel + 1, n => if n = 0 then [] else n % base :: digitsUpTo base fuel (n / base)

/-- The written form of a byte string. Two digits hold more than one byte, which bounds the
number of digits. -/
def encode (bytes : List UInt8) : String :=
  let zeros := bytes.takeWhile (· == 0)
  let digits := (digitsUpTo 58 (2 * bytes.length) (Bytes.ofBigEndian bytes)).reverse
  String.ofList (zeros.map (fun _ => '1') ++ digits.map digit)

/-- The byte string a text stands for; nothing when a character is not a digit. One digit holds
less than one byte, which bounds the number of bytes. -/
def decode? (text : String) : Option (List UInt8) := do
  let chars := text.toList
  let values ← chars.mapM value?
  let n := values.foldl (fun acc v => acc * 58 + v) 0
  let ones := chars.takeWhile (· == '1')
  let bytes := (digitsUpTo 256 chars.length n).reverse
  return ones.map (fun _ => 0) ++ bytes.map UInt8.ofNat

end Base58

end SpendGuard
