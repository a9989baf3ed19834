import SpendGuard.Amount
import SpendGuard.Key
import SpendGuard.Text.Quoted

/-!
# Token instructions

The instructions a token program understands, how their bytes are read and how messages show
them. An instruction is a tag byte followed by its fields, amounts as eight little-endian bytes;
bytes after the last field are ignored. Of all of them an account may only send `transfer`,
whose encoding is `Instruction.transferData`.
-/

namespace SpendGuard

namespace Token

/-- What an authority over a mint or an account may do. -/
inductive AuthorityKind where
  /-- Issue new units. -/
  | mintTokens
  /-- Freeze accounts. -/
  | freezeAccount
  /-- Own an account. -/
  | accountOwner
  /-- Close an account. -/
  | closeAccount
deriving DecidableEq

/-- An instruction to a token program. -/
inductive Instruction where
  | initializeMint (decimals : UInt8) (mintAuthority : Key) (freezeAuthority : Option Key)
  | initializeAccount
  | initializeMultisig (m : UInt8)
  | transfer (amount : Amount)
  | approve (amount : Amount)
  | revoke
  | setAuthority (kind : AuthorityKind) (newAuthority : Option Key)
  | mintTo (amount : Amount)
  | burn (amount : Amount)
  | closeAccount
  | freezeAccount
  | thawAccount
  | transferChecked (amount : Amount) (decimals : UInt8)
  | approveChecked (amount : Amount) (decimals : UInt8)
  | mintToChecked (amount : Amount) (decimals : UInt8)
  | burnChecked (amount : Amount) (decimals : UInt8)
  | initializeAccount2 (owner : Key)
  | syncNative
  | initializeAccount3 (owner : Key)
  | initializeMultisig2 (m : UInt8)
  | initializeMint2 (decimals : UInt8) (mintAuthority : Key) (freezeAuthority : Option Key)
  | getAccountDataSize
  | initializeImmutableOwner
  | amountToUiAmount (amount : Amount)
  | uiAmountToAmount (uiAmount : String)
deriving DecidableEq

/-! ### Reading fields -/

/-- An amount from the front of the bytes, and the rest. -/
def takeAmount? (bytes : List UInt8) : Option (Amount × List UInt8) :=
  if bytes.length < 8 then none
  else some (UInt64.ofNat (Bytes.ofLittleEndian (bytes.take 8)), bytes.drop 8)

/-- An amount is read from the front of bytes that begin with how it is written. -/
theorem takeAmount?_eq_some_iff {bytes rest : List UInt8} {amount : Amount} :
    takeAmount? bytes = some (amount, rest) ↔
      bytes = Bytes.littleEndian 8 amount.toNat ++ rest := by
  unfold takeAmount?
  constructor
  · intro h
    split at h
    · cases h
    · have hlen : (bytes.take 8).length = 8 := by rw [List.length_take]; omega
      have hbound := Bytes.ofLittleEndian_lt (bytes.take 8)
      have hwritten := Bytes.littleEndian_ofLittleEndian (bytes.take 8)
      rw [hlen] at hbound hwritten
      cases h
      rw [UInt64.toNat_ofNat_of_lt' hbound, hwritten, List.take_append_drop]
  · rintro rfl
    have hlen : (Bytes.littleEndian 8 amount.toNat).length = 8 := Bytes.length_littleEndian _ _
    have hlong : ¬ (Bytes.littleEndian 8 amount.toNat ++ rest).length < 8 := by
      rw [List.length_append]; omega
    have hread : UInt64.ofNat (Bytes.ofLittleEndian (Bytes.littleEndian 8 amount.toNat)) =
        amount := by
      rw [Bytes.ofLittleEndian_littleEndian, Nat.mod_eq_of_lt (Amount.toNat_lt amount)]
      exact UInt64.ofNat_toNat
    rw [if_neg hlong, List.take_left' hlen, List.drop_left' hlen, hread]

/-- A byte from the front of the bytes, and the rest. -/
def takeByte? : List UInt8 → Option (UInt8 × List UInt8)
  | [] => none
  | b :: rest => some (b, rest)

/-- A key from the front of the bytes, and the rest. -/
def takeKey? (bytes : List UInt8) : Option (Key × List UInt8) :=
  (Key.ofBytes? (bytes.take 32)).map fun k => (k, bytes.drop 32)

/-- An optional key: a zero byte for none, a one byte before the key for some. -/
def takeOptionalKey? : List UInt8 → Option (Option Key)
  | [] => none
  | tag :: rest =>
    if tag = 0 then some none
    else if tag = 1 then (takeKey? rest).map fun p => some p.1
    else none

/-- A kind of authority from its byte. -/
def AuthorityKind.ofByte? (b : UInt8) : Option AuthorityKind :=
  [AuthorityKind.mintTokens, .freezeAccount, .accountOwner, .closeAccount][b.toNat]?

/-- The fields of a mint: decimals, who may issue and who may freeze. -/
def takeMint? (bytes : List UInt8) : Option (UInt8 × Key × Option Key) := do
  let (decimals, rest) ← takeByte? bytes
  let (authority, rest) ← takeKey? rest
  let freeze ← takeOptionalKey? rest
  return (decimals, authority, freeze)

/-- An amount and the decimals it was stated with. -/
def takeChecked? (bytes : List UInt8) : Option (Amount × UInt8) := do
  let (amount, rest) ← takeAmount? bytes
  let (decimals, _) ← takeByte? rest
  return (amount, decimals)

namespace Instruction

/-- The instruction of a tag, from the bytes after the tag. -/
def ofTag? (tag : Nat) (rest : List UInt8) : Option Instruction :=
  let amount (make : Amount → Instruction) := (takeAmount? rest).map fun p => make p.1
  let byte (make : UInt8 → Instruction) := (takeByte? rest).map fun p => make p.1
  let key (make : Key → Instruction) := (takeKey? rest).map fun p => make p.1
  let checked (make : Amount → UInt8 → Instruction) :=
    (takeChecked? rest).map fun p => make p.1 p.2
  let mint (make : UInt8 → Key → Option Key → Instruction) :=
    (takeMint? rest).map fun p => make p.1 p.2.1 p.2.2
  match tag with
  | 0 => mint initializeMint
  | 1 => some initializeAccount
  | 2 => byte initializeMultisig
  | 3 => amount transfer
  | 4 => amount approve
  | 5 => some revoke
  | 6 => do
    let (b, rest) ← takeByte? rest
    let kind ← AuthorityKind.ofByte? b
    let newAuthority ← takeOptionalKey? rest
    return setAuthority kind newAuthority
  | 7 => amount mintTo
  | 8 => amount burn
  | 9 => some closeAccount
  | 10 => some freezeAccount
  | 11 => some thawAccount
  | 12 => checked transferChecked
  | 13 => checked approveChecked
  | 14 => checked mintToChecked
  | 15 => checked burnChecked
  | 16 => key initializeAccount2
  | 17 => some syncNative
  | 18 => key initializeAccount3
  | 19 => byte initializeMultisig2
  | 20 => mint initializeMint2
  | 21 => some getAccountDataSize
  | 22 => some initializeImmutableOwner
  | 23 => amount amountToUiAmount
  | 24 => (String.fromUTF8? ⟨rest.toArray⟩).map uiAmountToAmount
  | _ => none

/-- The instruction that bytes spell, when they spell one. -/
def decode? : List UInt8 → Option Instruction
  | [] => none
  | tag :: rest => ofTag? tag.toNat rest

/-- The bytes of a transfer: its tag and the amount. -/
def transferData (amount : Amount) : List UInt8 := 3 :: Bytes.littleEndian 8 amount.toNat

/-! ### Showing instructions -/

/-- How messages show a kind of authority. -/
def authorityText : AuthorityKind → String
  | .mintTokens => "MintTokens"
  | .freezeAccount => "FreezeAccount"
  | .accountOwner => "AccountOwner"
  | .closeAccount => "CloseAccount"

/-- How messages show an optional key. -/
def optionalKeyText : Option Key → String
  | none => "None"
  | some k => "Some(" ++ k.text ++ ")"

/-- A name with its fields in braces. -/
def record (name : String) (fields : List (String × String)) : String :=
  name ++ " \x7b " ++ ", ".intercalate (fields.map fun f => f.1 ++ ": " ++ f.2) ++ " \x7d"

/-- How messages show an instruction. -/
def text : Instruction → String
  | initializeMint decimals authority freeze =>
    record "InitializeMint" [("decimals", toString decimals.toNat),
      ("mint_authority", authority.text), ("freeze_authority", optionalKeyText freeze)]
  | initializeAccount => "InitializeAccount"
  | initializeMultisig m => record "InitializeMultisig" [("m", toString m.toNat)]
  | transfer a => record "Transfer" [("amount", toString a.toNat)]
  | approve a => record "Approve" [("amount", toString a.toNat)]
  | revoke => "Revoke"
  | setAuthority kind new =>
    record "SetAuthority" [("authority_type", authorityText kind),
      ("new_authority", optionalKeyText new)]
  | mintTo a => record "MintTo" [("amount", toString a.toNat)]
  | burn a => record "Burn" [("amount", toString a.toNat)]
  | closeAccount => "CloseAccount"
  | freezeAccount => "FreezeAccount"
  | thawAccount => "ThawAccount"
  | transferChecked a d =>
    record "TransferChecked" [("amount", toString a.toNat), ("decimals", toString d.toNat)]
  | approveChecked a d =>
    record "ApproveChecked" [("amount", toString a.toNat), ("decimals", toString d.toNat)]
  | mintToChecked a d =>
    record "MintToChecked" [("amount", toString a.toNat), ("decimals", toString d.toNat)]
  | burnChecked a d =>
    record "BurnChecked" [("amount", toString a.toNat), ("decimals", toString d.toNat)]
  | initializeAccount2 owner => record "InitializeAccount2" [("owner", owner.text)]
  | syncNative => "SyncNative"
  | initializeAccount3 owner => record "InitializeAccount3" [("owner", owner.text)]
  | initializeMultisig2 m => record "InitializeMultisig2" [("m", toString m.toNat)]
  | initializeMint2 decimals authority freeze =>
    record "InitializeMint2" [("decimals", toString decimals.toNat),
      ("mint_authority", authority.text), ("freeze_authority", optionalKeyText freeze)]
  | getAccountDataSize => "GetAccountDataSize"
  | initializeImmutableOwner => "InitializeImmutableOwner"
  | amountToUiAmount a => record "AmountToUiAmount" [("amount", toString a.toNat)]
  | uiAmountToAmount s => record "UiAmountToAmount" [("ui_amount", Text.quoted s)]

/-- A transfer's bytes, with anything after them, are read as that transfer. -/
theorem decode?_transferData (amount : Amount) (trailing : List UInt8) :
    decode? (transferData amount ++ trailing) = some (transfer amount) := by
  have hread : takeAmount? (Bytes.littleEndian 8 amount.toNat ++ trailing) =
      some (amount, trailing) := takeAmount?_eq_some_iff.mpr rfl
  simp only [transferData, List.cons_append, decode?, ofTag?, hread]
  rfl

end Instruction

end Token

end SpendGuard
