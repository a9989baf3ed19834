import SpendGuard.Digest.Sha512
import SpendGuard.Ed25519.Curve
import SpendGuard.Key

/-!
# Ed25519 signatures

Signing as the scheme's standard has it, and the strict test: the scalar is below the group
order, both points decompress, neither has small order, and the equation holds without a
cofactor.
-/

namespace SpendGuard

namespace Ed25519

/-- The secret scalar and the secret nonce seed that a secret stands for. -/
def expand (secret : List UInt8) : Nat × List UInt8 :=
  let h := Sha512.digest secret
  let n := Bytes.ofLittleEndian (h.take 32)
  (n % Nat.pow 2 254 / 8 * 8 + Nat.pow 2 254, h.drop 32)

/-- A digest of the parts, as a scalar. -/
def hashToScalar (parts : List (List UInt8)) : Nat :=
  Bytes.ofLittleEndian (Sha512.digest parts.flatten) % order

/-- The public key of a secret. -/
def publicKey (secret : List UInt8) : Key :=
  ⟨(Point.scale (expand secret).1 Point.base).compress, by simp⟩

/-- The signature of a message. -/
def sign (secret message : List UInt8) : Signature :=
  let (a, seed) := expand secret
  let r := hashToScalar [seed, message]
  let commitment := (Point.scale r Point.base).compress
  let k := hashToScalar [commitment, (publicKey secret).bytes, message]
  ⟨commitment ++ Bytes.littleEndian 32 ((r + k * a) % order), by simp [commitment]⟩

/-- The strict test of a signature. -/
def verify (key : Key) (message : List UInt8) (signature : Signature) : Bool :=
  let commitment := signature.bytes.take 32
  let s := Bytes.ofLittleEndian (signature.bytes.drop 32)
  if s < order then
    match Point.decompress? key.bytes, Point.decompress? commitment with
    | some a, some r =>
      if a.hasSmallOrder || r.hasSmallOrder then false
      else
        let k := hashToScalar [commitment, key.bytes, message]
        ((Point.scale k a.neg).add (Point.scale s Point.base)).same r
    | _, _ => false
  else false

/-- Ed25519 as a signature scheme. -/
def scheme : SignatureScheme := { publicKey, sign, verify }

end Ed25519

end SpendGuard
