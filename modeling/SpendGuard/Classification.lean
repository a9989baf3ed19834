import SpendGuard.Call

/-!
# Classification of calls

Before anything is accounted, every call must be one of two things: a transfer of lamports, or a
token program's transfer without lamports attached. Classification tells how much of each asset
a call moves, or objects to it; a batch moves the sum of what its calls move.
-/

namespace SpendGuard

/-- A token transfer as read from a call. -/
structure TokenTransfer where
  /-- The token account that receives. -/
  recipient : Key
  /-- The units moved. -/
  amount : Amount
deriving DecidableEq

namespace Call

/-- The token transfer that a call to a token program spells. -/
def tokenTransfer? (call : Call) : Except Error TokenTransfer :=
  if call.data.length < transferDataLength then
    .error (.disallowedCall (.dataTooShort call.data.length))
  else match Token.Instruction.decode? call.data with
    | none => .error (.disallowedCall .undecodable)
    | some (.transfer amount) =>
      match call.accounts with
      | _ :: destination :: _ :: _ => .ok ⟨destination, amount⟩
      | accounts => .error (.disallowedCall (.missingAccounts accounts.length))
    | some other => .error (.disallowedCall (.notTransfer other))

/-- What a call moves, when it is permitted. -/
def classify (tokenProgram : Key) (call : Call) : Except Error Spend :=
  if call.target = tokenProgram then
    if 0 < call.value then .error (.disallowedCall (.lamportsAttached call.value))
    else call.tokenTransfer?.map fun t => ⟨0, t.amount⟩
  else if call.value = 0 then .error (.disallowedCall (.movesNothing call.target))
  else .ok ⟨call.value, 0⟩

end Call

/-! ### Batches -/

namespace Batch

/-- An error of one call, told as an error of the batch. -/
def locate (index : Nat) : Error → Error
  | .disallowedCall reason => .disallowedCall (.inCall index reason)
  | e => e

/-- The running total after the calls, the first of which has the given index. -/
def classifyFrom (tokenProgram : Key) (index : Nat) (total : Spend) :
    List Call → Except Error Spend
  | [] => .ok total
  | call :: rest =>
    match call.classify tokenProgram with
    | .error e => .error (locate index e)
    | .ok spend =>
      match total.add? spend with
      | none => .error .overflow
      | some total => classifyFrom tokenProgram (index + 1) total rest

/-- What a batch moves, when it is not empty and every call is permitted. -/
def classify (tokenProgram : Key) (calls : List Call) : Except Error Spend :=
  if calls.isEmpty then .error (.disallowedCall .emptyBatch)
  else classifyFrom tokenProgram 0 .zero calls

end Batch

end SpendGuard
