import SpendGuard.Digest.Sha256
import SpendGuard.Ed25519.Curve
import SpendGuard.Key

/-!
# Program-derived addresses

An address that a program controls is a digest of seeds, a bump byte, the program and a marker,
chosen so that it is no point of the signature curve: nobody has its secret. The bump counts
down from 255 to the first digest that qualifies.
-/

namespace SpendGuard

namespace Address

/-- The marker that keeps these digests apart from all others. -/
def marker : List UInt8 := "ProgramDerivedAddress".toUTF8.toList

/-- The bytes that are hashed for seeds, a bump and a program. -/
def preimage (seeds : List (List UInt8)) (bump : UInt8) (program : Key) : List UInt8 :=
  seeds.flatten ++ bump :: program.bytes ++ marker

/-- The address for a bump, whether or not it qualifies. -/
def candidate (seeds : List (List UInt8)) (program : Key) (bump : UInt8) : Key :=
  ⟨Sha256.digest (preimage seeds bump program), by simp⟩

/-- Whether a key is the compressed form of a point of the signature curve. -/
def isOnCurve (k : Key) : Bool := (Ed25519.Point.decompress? k.bytes).isSome

/-- The first qualifying address from a bump downwards, with its bump. The last bump is taken
without a look; no seeds are known to get there. -/
def searchFrom (seeds : List (List UInt8)) (program : Key) : (bump : Nat) → Key × UInt8
  | 0 => (candidate seeds program 0, 0)
  | bump + 1 =>
    let k := candidate seeds program (UInt8.ofNat (bump + 1))
    if isOnCurve k then searchFrom seeds program bump else (k, UInt8.ofNat (bump + 1))

/-- The address derived from seeds for a program, with its bump. -/
def derive (seeds : List (List UInt8)) (program : Key) : Key × UInt8 :=
  searchFrom seeds program 255

/-- The program that derives the token accounts of wallets. -/
def tokenAccountProgram : Key :=
  ⟨[140, 151, 37, 143, 78, 36, 137, 241, 187, 61, 16, 41, 20, 142, 13, 131,
    11, 90, 19, 153, 218, 255, 16, 132, 4, 142, 123, 216, 219, 233, 248, 89], by decide⟩

/-- The token account of a wallet for a mint. -/
def tokenAccount (wallet tokenProgram mint : Key) : Key :=
  (derive [wallet.bytes, tokenProgram.bytes, mint.bytes] tokenAccountProgram).1

end Address

end SpendGuard
