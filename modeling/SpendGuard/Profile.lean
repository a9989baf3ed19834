import SpendGuard.Address
import SpendGuard.Asset

/-!
# Profiles

What is fixed about an account when it is created: who is privileged, which token it tracks, how
SOL is valued in token units, and the caps.
-/

namespace SpendGuard

/-- The fixed parameters of an account. -/
structure Profile where
  /-- Signs operations and withdraws in an emergency. -/
  owner : Key
  /-- Has calls executed. -/
  dispatcher : Key
  /-- Is paid back for network fees. -/
  sponsor : Key
  /-- The mint of the tracked token. -/
  tokenMint : Key
  /-- The program that keeps the token accounts. -/
  tokenProgram : Key
  /-- Token units per SOL. -/
  exchangeRate : Amount
  /-- The caps. -/
  limits : Limits
deriving DecidableEq

namespace Profile

/-- The key that has a role. -/
def holder (p : Profile) : Role → Key
  | .owner => p.owner
  | .dispatcher => p.dispatcher
  | .sponsor => p.sponsor

/-- The token account of a wallet for the tracked token. -/
def tokenAccountOf (p : Profile) (wallet : Key) : Key :=
  Address.tokenAccount wallet p.tokenProgram p.tokenMint

end Profile

end SpendGuard
