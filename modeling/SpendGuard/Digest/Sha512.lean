import SpendGuard.Bytes

/-!
# SHA-512

The digest as its standard defines it. The message is padded to whole blocks of 128 bytes, each
block is expanded to 80 words, and 80 rounds mix them into eight chaining words.
-/

namespace SpendGuard

namespace Sha512

/-- The eight chaining words. -/
structure State where
  /-- First word. -/
  a : UInt64
  /-- Second word. -/
  b : UInt64
  /-- Third word. -/
  c : UInt64
  /-- Fourth word. -/
  d : UInt64
  /-- Fifth word. -/
  e : UInt64
  /-- Sixth word. -/
  f : UInt64
  /-- Seventh word. -/
  g : UInt64
  /-- Eighth word. -/
  h : UInt64

/-- The round constants: the fractional parts of the cube roots of the first 80 primes. -/
def constants : List UInt64 :=
  [0x428a2f98d728ae22, 0x7137449123ef65cd, 0xb5c0fbcfec4d3b2f, 0xe9b5dba58189dbbc,
   0x3956c25bf348b538, 0x59f111f1b605d019, 0x923f82a4af194f9b, 0xab1c5ed5da6d8118,
   0xd807aa98a3030242, 0x12835b0145706fbe, 0x243185be4ee4b28c, 0x550c7dc3d5ffb4e2,
   0x72be5d74f27b896f, 0x80deb1fe3b1696b1, 0x9bdc06a725c71235, 0xc19bf174cf692694,
   0xe49b69c19ef14ad2, 0xefbe4786384f25e3, 0x0fc19dc68b8cd5b5, 0x240ca1cc77ac9c65,
   0x2de92c6f592b0275, 0x4a7484aa6ea6e483, 0x5cb0a9dcbd41fbd4, 0x76f988da831153b5,
   0x983e5152ee66dfab, 0xa831c66d2db43210, 0xb00327c898fb213f, 0xbf597fc7beef0ee4,
   0xc6e00bf33da88fc2, 0xd5a79147930aa725, 0x06ca6351e003826f, 0x142929670a0e6e70,
   0x27b70a8546d22ffc, 0x2e1b21385c26c926, 0x4d2c6dfc5ac42aed, 0x53380d139d95b3df,
   0x650a73548baf63de, 0x766a0abb3c77b2a8, 0x81c2c92e47edaee6, 0x92722c851482353b,
   0xa2bfe8a14cf10364, 0xa81a664bbc423001, 0xc24b8b70d0f89791, 0xc76c51a30654be30,
   0xd192e819d6ef5218, 0xd69906245565a910, 0xf40e35855771202a, 0x106aa07032bbd1b8,
   0x19a4c116b8d2d0c8, 0x1e376c085141ab53, 0x2748774cdf8eeb99, 0x34b0bcb5e19b48a8,
   0x391c0cb3c5c95a63, 0x4ed8aa4ae3418acb, 0x5b9cca4f7763e373, 0x682e6ff3d6b2b8a3,
   0x748f82ee5defb2fc, 0x78a5636f43172f60, 0x84c87814a1f0ab72, 0x8cc702081a6439ec,
   0x90befffa23631e28, 0xa4506cebde82bde9, 0xbef9a3f7b2c67915, 0xc67178f2e372532b,
   0xca273eceea26619c, 0xd186b8c721c0c207, 0xeada7dd6cde0eb1e, 0xf57d4f7fee6ed178,
   0x06f067aa72176fba, 0x0a637dc5a2c898a6, 0x113f9804bef90dae, 0x1b710b35131c471b,
   0x28db77f523047d84, 0x32caab7b40c72493, 0x3c9ebe0a15c9bebc, 0x431d67c49c100d4c,
   0x4cc5d4becb3e42b6, 0x597f299cfc657e2a, 0x5fcb6fab3ad6faec, 0x6c44198c4a475817]

/-- The chaining words at the start: the fractional parts of the square roots of the first eight
primes. -/
def initial : State :=
  ⟨0x6a09e667f3bcc908, 0xbb67ae8584caa73b, 0x3c6ef372fe94f82b, 0xa54ff53a5f1d36f1,
   0x510e527fade682d1, 0x9b05688c2b3e6c1f, 0x1f83d9abfb41bd6b, 0x5be0cd19137e2179⟩

/-! ### The round functions -/

/-- Rotation to the right. -/
def rotate (x : UInt64) (k : UInt64) : UInt64 := x >>> k ||| x <<< (64 - k)

/-- Where `x` has a one the bit of `y`, elsewhere the bit of `z`. -/
def choose (x y z : UInt64) : UInt64 := x &&& y ^^^ ~~~x &&& z

/-- The bit that at least two of the three have. -/
def majority (x y z : UInt64) : UInt64 := x &&& y ^^^ x &&& z ^^^ y &&& z

/-- Mixing of the first chaining word. -/
def mixFirst (x : UInt64) : UInt64 := rotate x 28 ^^^ rotate x 34 ^^^ rotate x 39

/-- Mixing of the fifth chaining word. -/
def mixFifth (x : UInt64) : UInt64 := rotate x 14 ^^^ rotate x 18 ^^^ rotate x 41

/-- Mixing of an early word in the expansion. -/
def spreadEarly (x : UInt64) : UInt64 := rotate x 1 ^^^ rotate x 8 ^^^ x >>> 7

/-- Mixing of a late word in the expansion. -/
def spreadLate (x : UInt64) : UInt64 := rotate x 19 ^^^ rotate x 61 ^^^ x >>> 6

/-- One round, with a round constant and a word of the expanded block. -/
def round (s : State) (k w : UInt64) : State :=
  let t := s.h + mixFifth s.e + choose s.e s.f s.g + k + w
  ⟨t + mixFirst s.a + majority s.a s.b s.c, s.a, s.b, s.c, s.d + t, s.e, s.f, s.g⟩

/-! ### Blocks -/

/-- The big-endian words of a byte string, `count` of them. -/
def words : (count : Nat) → List UInt8 → List UInt64
  | 0, _ => []
  | count + 1, bytes =>
    UInt64.ofNat (Bytes.ofBigEndian (bytes.take 8)) :: words count (bytes.drop 8)

/-- `count` further words of the expansion, each from the latest sixteen; the latest stands
first. -/
def expand : (count : Nat) → List UInt64 → List UInt64
  | 0, ws => ws
  | count + 1, ws =>
    let word (i : Nat) := (ws[i]?).getD 0
    expand count ((spreadLate (word 1) + word 6 + spreadEarly (word 14) + word 15) :: ws)

/-- The chaining words after one block. -/
def compress (s : State) (block : List UInt8) : State :=
  let schedule := (expand 64 (words 16 block).reverse).reverse
  let t := (constants.zip schedule).foldl (fun t kw => round t kw.1 kw.2) s
  ⟨s.a + t.a, s.b + t.b, s.c + t.c, s.d + t.d, s.e + t.e, s.f + t.f, s.g + t.g, s.h + t.h⟩

/-- The chaining words after `count` blocks. -/
def absorb : (count : Nat) → List UInt8 → State → State
  | 0, _, s => s
  | count + 1, bytes, s => absorb count (bytes.drop 128) (compress s (bytes.take 128))

/-- The message with a one bit, the fewest zeros that fill the last block, and its length in
bits. -/
def pad (message : List UInt8) : List UInt8 :=
  let zeros := (239 - message.length % 128) % 128
  message ++ 0x80 :: List.replicate zeros 0 ++ Bytes.bigEndian 16 (8 * message.length)

/-- The digest: the chaining words after the padded message, most significant byte first. -/
def digest (message : List UInt8) : List UInt8 :=
  let padded := pad message
  let s := absorb (padded.length / 128) padded initial
  [s.a, s.b, s.c, s.d, s.e, s.f, s.g, s.h].flatMap fun w => Bytes.bigEndian 8 w.toNat

@[simp]
theorem length_digest (message : List UInt8) : (digest message).length = 64 := by
  simp [digest]

end Sha512

end SpendGuard
