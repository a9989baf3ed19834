import SpendGuard.Base58

/-!
# Keys and signatures

A *key* names a wallet, a program, a token account or a party: thirty-two bytes, written in base
58. A *signature* is sixty-four bytes. Both carry their length in the type, so that encodings
made of them have a fixed width.

What the dispatcher and the simulation need of signing is a public key for each secret, a way to
sign and a test. Everything above is written against this interface, so that statements about
dispatch hold for any scheme.
-/

namespace SpendGuard

/-! ### Keys -/

/-- Thirty-two bytes that name a wallet, a program, an account or a party. -/
structure Key where
  /-- The bytes, in order. -/
  bytes : List UInt8
  /-- There are thirty-two of them. -/
  length_bytes : bytes.length = 32
deriving DecidableEq

/-- Why a text is not a key. -/
inductive KeyError where
  /-- The text is too long, or stands for another number of bytes. -/
  | wrongSize
  /-- The text holds a character that is no base-58 digit. -/
  | notBase58
deriving DecidableEq, Repr

/-- The wording of a key error. -/
def KeyError.message : KeyError → String
  | .wrongSize => "String is the wrong size"
  | .notBase58 => "Invalid Base58 string"

namespace Key

/-- The key made of these bytes, when there are thirty-two. -/
def ofBytes? (bytes : List UInt8) : Option Key :=
  if h : bytes.length = 32 then some ⟨bytes, h⟩ else none

/-- The key of thirty-two zero bytes. -/
def zero : Key := ⟨List.replicate 32 0, by simp⟩

/-- The key's text. -/
def text (k : Key) : String := Base58.encode k.bytes

/-- The longest text any key has, in bytes. -/
def longestText : Nat := 44

/-- The key a text names. Length is judged first, in bytes, then the digits, then how many bytes
they stand for. -/
def ofText (text : String) : Except KeyError Key :=
  if longestText < text.utf8ByteSize then .error .wrongSize
  else match Base58.decode? text with
    | none => .error .notBase58
    | some bytes =>
      match ofBytes? bytes with
      | some k => .ok k
      | none => .error .wrongSize

@[simp]
theorem ofBytes?_bytes (k : Key) : ofBytes? k.bytes = some k := by
  simp [ofBytes?, k.length_bytes]

theorem bytes_inj {k l : Key} (h : k.bytes = l.bytes) : k = l := by
  cases k; cases l; simp_all

end Key

/-! ### Signatures -/

/-- Sixty-four bytes that vouch for a message, or name a committed transaction. -/
structure Signature where
  /-- The bytes, in order. -/
  bytes : List UInt8
  /-- There are sixty-four of them. -/
  length_bytes : bytes.length = 64
deriving DecidableEq

namespace Signature

/-- The signature made of these bytes, when there are sixty-four. -/
def ofBytes? (bytes : List UInt8) : Option Signature :=
  if h : bytes.length = 64 then some ⟨bytes, h⟩ else none

/-- The signature of sixty-four zero bytes, which an unsigned operation carries. -/
def zero : Signature := ⟨List.replicate 64 0, by simp⟩

/-- The signature that spells the number `n`, for numbering transactions. -/
def numbered (n : Nat) : Signature := ⟨Bytes.littleEndian 64 n, by simp⟩

@[simp]
theorem ofBytes?_bytes (s : Signature) : ofBytes? s.bytes = some s := by
  simp [ofBytes?, s.length_bytes]

end Signature

/-- A way to sign messages and to test signatures; a secret is any byte string. -/
structure SignatureScheme where
  /-- The key under which the secret's signatures are tested. -/
  publicKey : (secret : List UInt8) → Key
  /-- The secret's signature of a message. -/
  sign : (secret message : List UInt8) → Signature
  /-- Whether a signature of a message is good under a key. -/
  verify : (key : Key) → (message : List UInt8) → Signature → Bool

end SpendGuard
