import SpendGuard.Bytes

/-!
# SHA-256

The digest as its standard defines it. The message is padded to whole blocks of 64 bytes, each
block is expanded to 64 words, and 64 rounds mix them into eight chaining words.
-/

namespace SpendGuard

namespace Sha256

/-- The eight chaining words. -/
structure State where
  /-- First word. -/
  a : UInt32
  /-- Second word. -/
  b : UInt32
  /-- Third word. -/
  c : UInt32
  /-- Fourth word. -/
  d : UInt32
  /-- Fifth word. -/
  e : UInt32
  /-- Sixth word. -/
  f : UInt32
  /-- Seventh word. -/
  g : UInt32
  /-- Eighth word. -/
  h : UInt32

/-- The round constants: the fractional parts of the cube roots of the first 64 primes. -/
def constants : List UInt32 :=
  [0x428a2f98, 0x71374491, 0xb5c0fbcf, 0xe9b5dba5, 0x3956c25b, 0x59f111f1, 0x923f82a4, 0xab1c5ed5,
   0xd807aa98, 0x12835b01, 0x243185be, 0x550c7dc3, 0x72be5d74, 0x80deb1fe, 0x9bdc06a7, 0xc19bf174,
   0xe49b69c1, 0xefbe4786, 0x0fc19dc6, 0x240ca1cc, 0x2de92c6f, 0x4a7484aa, 0x5cb0a9dc, 0x76f988da,
   0x983e5152, 0xa831c66d, 0xb00327c8, 0xbf597fc7, 0xc6e00bf3, 0xd5a79147, 0x06ca6351, 0x14292967,
   0x27b70a85, 0x2e1b2138, 0x4d2c6dfc, 0x53380d13, 0x650a7354, 0x766a0abb, 0x81c2c92e, 0x92722c85,
   0xa2bfe8a1, 0xa81a664b, 0xc24b8b70, 0xc76c51a3, 0xd192e819, 0xd6990624, 0xf40e3585, 0x106aa070,
   0x19a4c116, 0x1e376c08, 0x2748774c, 0x34b0bcb5, 0x391c0cb3, 0x4ed8aa4a, 0x5b9cca4f, 0x682e6ff3,
   0x748f82ee, 0x78a5636f, 0x84c87814, 0x8cc70208, 0x90befffa, 0xa4506ceb, 0xbef9a3f7, 0xc67178f2]

/-- The chaining words at the start: the fractional parts of the square roots of the first eight
primes. -/
def initial : State :=
  ⟨0x6a09e667, 0xbb67ae85, 0x3c6ef372, 0xa54ff53a,
   0x510e527f, 0x9b05688c, 0x1f83d9ab, 0x5be0cd19⟩

/-! ### The round functions -/

/-- Rotation to the right. -/
def rotate (x : UInt32) (k : UInt32) : UInt32 := x >>> k ||| x <<< (32 - k)

/-- Where `x` has a one the bit of `y`, elsewhere the bit of `z`. -/
def choose (x y z : UInt32) : UInt32 := x &&& y ^^^ ~~~x &&& z

/-- The bit that at least two of the three have. -/
def majority (x y z : UInt32) : UInt32 := x &&& y ^^^ x &&& z ^^^ y &&& z

/-- Mixing of the first chaining word. -/
def mixFirst (x : UInt32) : UInt32 := rotate x 2 ^^^ rotate x 13 ^^^ rotate x 22

/-- Mixing of the fifth chaining word. -/
def mixFifth (x : UInt32) : UInt32 := rotate x 6 ^^^ rotate x 11 ^^^ rotate x 25

/-- Mixing of an early word in the expansion. -/
def spreadEarly (x : UInt32) : UInt32 := rotate x 7 ^^^ rotate x 18 ^^^ x >>> 3

/-- Mixing of a late word in the expansion. -/
def spreadLate (x : UInt32) : UInt32 := rotate x 17 ^^^ rotate x 19 ^^^ x >>> 10

/-- One round, with a round constant and a word of the expanded block. -/
def round (s : State) (k w : UInt32) : State :=
  let t := s.h + mixFifth s.e + choose s.e s.f s.g + k + w
  ⟨t + mixFirst s.a + majority s.a s.b s.c, s.a, s.b, s.c, s.d + t, s.e, s.f, s.g⟩

/-! ### Blocks -/

/-- The big-endian words of a byte string, `count` of them. -/
def words : (count : Nat) → List UInt8 → List UInt32
  | 0, _ => []
  | count + 1, bytes =>
    UInt32.ofNat (Bytes.ofBigEndian (bytes.take 4)) :: words count (bytes.drop 4)

/-- `count` further words of the expansion, each from the latest sixteen; the latest stands
first. -/
def expand : (count : Nat) → List UInt32 → List UInt32
  | 0, ws => ws
  | count + 1, ws =>
    let word (i : Nat) := (ws[i]?).getD 0
    expand count ((spreadLate (word 1) + word 6 + spreadEarly (word 14) + word 15) :: ws)

/-- The chaining words after one block. -/
def compress (s : State) (block : List UInt8) : State :=
  let schedule := (expand 48 (words 16 block).reverse).reverse
  let t := (constants.zip schedule).foldl (fun t kw => round t kw.1 kw.2) s
  ⟨s.a + t.a, s.b + t.b, s.c + t.c, s.d + t.d, s.e + t.e, s.f + t.f, s.g + t.g, s.h + t.h⟩

/-- The chaining words after `count` blocks. -/
def absorb : (count : Nat) → List UInt8 → State → State
  | 0, _, s => s
  | count + 1, bytes, s => absorb count (bytes.drop 64) (compress s (bytes.take 64))

/-- The message with a one bit, the fewest zeros that fill the last block, and its length in
bits. -/
def pad (message : List UInt8) : List UInt8 :=
  let zeros := (119 - message.length % 64) % 64
  message ++ 0x80 :: List.replicate zeros 0 ++ Bytes.bigEndian 8 (8 * message.length)

/-- The digest: the chaining words after the padded message, most significant byte first. -/
def digest (message : List UInt8) : List UInt8 :=
  let padded := pad message
  let s := absorb (padded.length / 64) padded initial
  [s.a, s.b, s.c, s.d, s.e, s.f, s.g, s.h].flatMap fun w => Bytes.bigEndian 4 w.toNat

@[simp]
theorem length_digest (message : List UInt8) : (digest message).length = 32 := by
  simp [digest]

end Sha256

end SpendGuard
