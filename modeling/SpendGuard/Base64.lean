/-!
# Base 64

The standard alphabet with mandatory padding, read strictly: the text comes in groups of four
characters, padding stands only at the end of the last group, and the bits that a padded group
does not use are zero. So every byte string has exactly one accepted text.
-/

namespace SpendGuard

namespace Base64

/-- The sixty-four digits, in order of value. -/
def alphabet : List Char :=
  "ABCDEFGHIJKLMNOPQRSTUVWXYZabcdefghijklmnopqrstuvwxyz0123456789+/".toList

/-- The value of a digit, when the character is one. -/
def value? (c : Char) : Option Nat := alphabet.findIdx? (· == c)

/-- The bytes of a full group: four digits of six bits are three bytes. -/
def group (a b c d : Nat) : List UInt8 :=
  let bits := ((a * 64 + b) * 64 + c) * 64 + d
  [UInt8.ofNat (bits / 65536), UInt8.ofNat (bits / 256), UInt8.ofNat bits]

/-- The byte string a text stands for, read group by group. -/
def decodeChars? : List Char → Option (List UInt8)
  | [] => some []
  | [a, b, '=', '='] => do
    let a ← value? a
    let b ← value? b
    if b % 16 = 0 then some ((group a b 0 0).take 1) else none
  | [a, b, c, '='] => do
    let a ← value? a
    let b ← value? b
    let c ← value? c
    if c % 4 = 0 then some ((group a b c 0).take 2) else none
  | a :: b :: c :: d :: rest => do
    let a ← value? a
    let b ← value? b
    let c ← value? c
    let d ← value? d
    let bytes ← decodeChars? rest
    return group a b c d ++ bytes
  | _ => none

/-- The byte string a text stands for. -/
def decode? (text : String) : Option (List UInt8) := decodeChars? text.toList

end Base64

end SpendGuard
