import SpendGuard.Call
import SpendGuard.Digest.Sha256

/-!
# Operations

An operation asks that calls be run from an account, in its turn, perhaps with a sponsor
fronting the network fee; the owner signs it. What is signed is a digest of an encoding in which
every part has a fixed width or is preceded by its length, so that the encoding determines every
field but the signature.
-/

namespace SpendGuard

/-- An owner's request to run calls from an account. -/
structure Operation where
  /-- The account. -/
  account : Key
  /-- Its turn: the number of operations before it. -/
  nonce : Amount
  /-- The calls. -/
  calls : List Call
  /-- Who is expected to front the network fee. -/
  paymaster : Option Key
  /-- The owner's signature. -/
  signature : Signature
deriving DecidableEq

/-! ### The encoding that is signed -/

namespace Encode

/-- A 64-bit word, least significant byte first. -/
def word (n : Nat) : List UInt8 := Bytes.littleEndian 8 n

/-- A list after its length. -/
def list {α : Type} (item : α → List UInt8) (xs : List α) : List UInt8 :=
  word xs.length ++ xs.flatMap item

/-- An optional value after a byte that says whether there is one. -/
def option {α : Type} (item : α → List UInt8) : Option α → List UInt8
  | none => [0]
  | some a => 1 :: item a

/-- A call: target, value, data and accounts. -/
def call (c : Call) : List UInt8 :=
  c.target.bytes ++ word c.value.toNat ++ list (fun b => [b]) c.data ++ list Key.bytes c.accounts

end Encode

namespace Operation

/-- The encoding of every field but the signature. -/
def encoding (op : Operation) : List UInt8 :=
  op.account.bytes ++ Encode.word op.nonce.toNat ++ Encode.list Encode.call op.calls
    ++ Encode.option Key.bytes op.paymaster

/-- What the owner signs. -/
def message (op : Operation) : List UInt8 := Sha256.digest op.encoding

/-- The operation with a signature made with a secret. -/
def sign (scheme : SignatureScheme) (secret : List UInt8) (op : Operation) : Operation :=
  { op with signature := scheme.sign secret op.message }

/-- Refuses an operation that the owner did not sign. -/
def verify (scheme : SignatureScheme) (owner : Key) (op : Operation) : Except Error Unit :=
  if scheme.verify owner op.message op.signature then .ok () else .error .invalidSignature

end Operation

end SpendGuard
