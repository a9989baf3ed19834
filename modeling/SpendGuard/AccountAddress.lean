import SpendGuard.Ledger

/-!
# Account addresses

Where an account lives follows from who owns it, its four caps and a salt, under a program: the
address can be known, and funded, before the account exists. All seeds have fixed widths, so
different inputs are hashed as different bytes.
-/

namespace SpendGuard

namespace AccountAddress

/-- The tag that comes first among the seeds. -/
def tag : List UInt8 := "bounded-wallet".toUTF8.toList

/-- The seeds of an account: the tag, the owner, the four caps and the salt. -/
def seeds (owner : Key) (limits : Limits) (salt : Amount) : List (List UInt8) :=
  [tag, owner.bytes] ++
    [limits.sol.daily, limits.sol.monthly, limits.token.daily, limits.token.monthly, salt].map
      fun a => Bytes.littleEndian 8 a.toNat

/-- The address of an account under a program, with its bump. -/
def derive (program owner : Key) (limits : Limits) (salt : Amount) : Key × UInt8 :=
  Address.derive (seeds owner limits salt) program

end AccountAddress

/-- The address that an account of this profile and salt has under a program. -/
def Profile.addressUnder (p : Profile) (program : Key) (salt : Amount) : Key :=
  (AccountAddress.derive program p.owner p.limits salt).1

/-- A new account at its derived address. -/
def Ledger.create (program : Key) (profile : Profile) (salt : Amount) (now : Instant) : Ledger :=
  .fresh (profile.addressUnder program salt) profile now

end SpendGuard
