import SpendGuard.Asset
import SpendGuard.Instant
import SpendGuard.Token.Instruction

/-!
# Errors

Why a request is refused. Causes are data: what is wrong with a call (`Objection`), why a call
could not be carried out (`CallFault`), and everything else (`Error`). The wording is in one
function per type, and the two questions a caller asks of an error, whether to try again and
whether a spending limit was hit, are answered by cases.
-/

namespace SpendGuard

/-! ### Objections to calls -/

/-- What keeps a call from being one of the permitted transfers. -/
inductive Objection where
  /-- The data of a token call cannot hold a transfer. -/
  | dataTooShort (size : Nat)
  /-- The data of a token call spells no instruction. -/
  | undecodable
  /-- The data of a token call spells another instruction than a transfer. -/
  | notTransfer (instruction : Token.Instruction)
  /-- A token transfer does not name source, destination and authority. -/
  | missingAccounts (count : Nat)
  /-- Lamports are attached to a token call. -/
  | lamportsAttached (value : Amount)
  /-- A call to anyone else carries no lamports. -/
  | movesNothing (target : Key)
  /-- There is no call. -/
  | emptyBatch
  /-- One call of a batch is objected to. -/
  | inCall (index : Nat) (reason : Objection)
  /-- An objection stated in words. -/
  | stated (text : String)
deriving DecidableEq

/-- The fewest bytes that hold a transfer: the tag and the amount. -/
def transferDataLength : Nat := 9

/-- The accounts a transfer names: source, destination and authority. -/
def transferAccountCount : Nat := 3

/-- How messages show an instruction that cannot be decoded. -/
def undecodableText : String := "Custom program error: 0xc"

/-- The wording of an objection. -/
def Objection.message : Objection → String
  | dataTooShort size =>
    s!"token call data too short: {size} bytes, expected at least {transferDataLength}"
  | undecodable => "undecodable token instruction: " ++ undecodableText
  | notTransfer instruction =>
    s!"token instruction {instruction.text} is not permitted, only Transfer"
  | missingAccounts count =>
    s!"token transfer references {count} accounts, expected {transferAccountCount}"
  | lamportsAttached value => s!"{value.toNat} lamports attached to a token program call"
  | movesNothing target => s!"zero-value call to {target.text} moves nothing"
  | emptyBatch => "empty batch"
  | inCall index reason => s!"call {index}: {reason.message}"
  | stated text => text

/-! ### Faults of execution -/

/-- The wording of a shortfall. -/
def shortfallText (asset : Asset) (available required : Amount) : String :=
  s!"Insufficient {asset.label} balance: {available.toNat} available, {required.toNat} required"

/-- The wording of a result that does not fit. -/
def overflowText : String := "Arithmetic overflow"

/-- Why calls could not be carried out. -/
inductive CallFault where
  /-- The target turns calls back. -/
  | reverted (target : Key)
  /-- The token program is asked for something other than a transfer. -/
  | unsupported (instruction : Token.Instruction)
  /-- The data of a token call spells no instruction. -/
  | invalidInstruction
  /-- A transfer does not name source, destination and authority. -/
  | missingAccounts
  /-- The named authority is not the sender. -/
  | notSigned (authority : Key)
  /-- The source account does not exist. -/
  | accountNotFound (account : Key)
  /-- The source account belongs to another party. -/
  | notOwned (account authority : Key)
  /-- The paying balance is too small. -/
  | shortfall (asset : Asset) (available required : Amount)
  /-- The receiving balance cannot hold the amount. -/
  | overflow
  /-- One call of a sequence failed. -/
  | inCall (index : Nat) (reason : CallFault)
  /-- A fault stated in words. -/
  | stated (text : String)
deriving DecidableEq

/-- The wording of a fault. -/
def CallFault.message : CallFault → String
  | reverted target => s!"call to {target.text} reverted"
  | unsupported instruction => s!"unsupported token instruction {instruction.text}"
  | invalidInstruction => "invalid token instruction: " ++ undecodableText
  | missingAccounts => "missing transfer accounts"
  | notSigned authority => s!"transfer authority {authority.text} did not sign"
  | accountNotFound account => s!"token account {account.text} not found"
  | notOwned account authority =>
    s!"token account {account.text} is not owned by {authority.text}"
  | shortfall asset available required => shortfallText asset available required
  | overflow => overflowText
  | inCall index reason => s!"call {index}: {reason.message}"
  | stated text => text

/-! ### Errors -/

/-- Why a request is refused. -/
inductive Error where
  /-- The caller does not have the role that the request needs. -/
  | unauthorized (caller : Key) (role : Role)
  /-- A call is not one of the permitted transfers. -/
  | disallowedCall (reason : Objection)
  /-- The total of a period would exceed its cap. -/
  | capExceeded (period : Period) (asset : Asset) (attempted limit : Amount)
  /-- A large spend blocks spending for now. -/
  | cooldownActive (ends : Instant)
  /-- Nobody asked for an emergency withdrawal. -/
  | noWithdrawalPending
  /-- The emergency withdrawal has to wait. -/
  | timelockNotElapsed (ready : Instant)
  /-- Too little compute is left to pay the sponsor back. -/
  | insufficientCompute (remaining required : Amount)
  /-- The calls could not be carried out. -/
  | callFailed (reason : CallFault)
  /-- A sum does not fit. -/
  | overflow
  /-- A sponsored fee exceeds what the sponsor fronts for one operation. -/
  | feeAboveCap (fee max : Amount)
  /-- A balance is too small. -/
  | insufficientBalance (asset : Asset) (available required : Amount)
  /-- The owner did not sign. -/
  | invalidSignature
  /-- The operation is not the next one. -/
  | invalidNonce (expected actual : Amount)
  /-- The operation is for another account. -/
  | wrongAccount (expected actual : Key)
  /-- A configuration is unusable. -/
  | configuration (text : String)
  /-- A value could not be written. -/
  | encoding (text : String)
  /-- A text could not be read. -/
  | decoding (text : String)
  /-- A file could not be read or written. -/
  | file (text : String)
  /-- Any other cause, stated in words. -/
  | other (text : String)
deriving DecidableEq

namespace Error

/-- The wording of an error. -/
def message : Error → String
  | unauthorized caller role =>
    s!"Unauthorized caller {caller.text}: only the {role.label} may invoke this operation"
  | disallowedCall reason => s!"Disallowed call: {reason.message}"
  | capExceeded period asset attempted limit =>
    s!"{period.label} {asset.label} limit exceeded: "
      ++ s!"attempted total {attempted.toNat} > limit {limit.toNat}"
  | cooldownActive ends => s!"Cooldown active until {ends.toInt}: all spending is blocked"
  | noWithdrawalPending => "No emergency withdrawal has been requested"
  | timelockNotElapsed ready =>
    s!"Withdrawal timelock has not elapsed, ready at {ready.toInt}"
  | insufficientCompute remaining required =>
    s!"Insufficient compute budget: {remaining.toNat} units remaining, {required.toNat} required"
  | callFailed reason => s!"Call failed: {reason.message}"
  | overflow => overflowText
  | feeAboveCap fee max =>
    s!"Sponsored fee {fee.toNat} exceeds the per-operation cap {max.toNat}"
  | insufficientBalance asset available required => shortfallText asset available required
  | invalidSignature => "Invalid owner signature"
  | invalidNonce expected actual =>
    s!"Invalid nonce: expected {expected.toNat}, got {actual.toNat}"
  | wrongAccount expected actual =>
    s!"Operation targets account {actual.text}, dispatcher serves {expected.text}"
  | configuration text => s!"Configuration error: {text}"
  | encoding text => s!"Serialization error: {text}"
  | decoding text => s!"Deserialization error: {text}"
  | file text => s!"I/O error: {text}"
  | other text => text

/-- Whether a spending limit was hit: a cap, or the cooldown. -/
def isLimitViolation : Error → Bool
  | capExceeded .. => true
  | cooldownActive _ => true
  | _ => false

/-- Whether the same request may succeed later: limits and the timelock clear with time, all
else needs another request. -/
def isRetryable : Error → Bool
  | timelockNotElapsed _ => true
  | e => e.isLimitViolation

end Error

end SpendGuard
