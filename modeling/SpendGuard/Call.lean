import SpendGuard.Error

/-!
# Calls

A call is what an account sends out: a target, lamports, instruction data and the accounts the
instruction refers to. The two calls the library makes itself are the plain transfer of lamports
and the token transfer.
-/

namespace SpendGuard

/-- A call from an account. -/
structure Call where
  /-- The program or recipient it is addressed to. -/
  target : Key
  /-- The lamports attached. -/
  value : Amount
  /-- The instruction data. -/
  data : List UInt8
  /-- The accounts the instruction refers to, in order. -/
  accounts : List Key
deriving DecidableEq

/-- The token program that comes with the network. -/
def Token.standardProgram : Key :=
  ⟨[6, 221, 246, 225, 215, 101, 161, 147, 217, 203, 225, 70, 206, 235, 121, 172,
    28, 180, 133, 237, 95, 91, 55, 145, 58, 140, 245, 133, 126, 255, 0, 169], by decide⟩

namespace Call

/-- A plain transfer of lamports. -/
def native (recipient : Key) (lamports : Amount) : Call := ⟨recipient, lamports, [], []⟩

/-- A token transfer between two token accounts. Transfers are only built for the standard token
program. -/
def tokenTransfer (program source destination authority : Key) (amount : Amount) :
    Except Error Call :=
  if program = Token.standardProgram then
    .ok ⟨program, 0, Token.Instruction.transferData amount, [source, destination, authority]⟩
  else
    .error (.encoding
      "Failed to build transfer: The account did not have the expected program id")

end Call

end SpendGuard
