import SpendGuard.Amount

/-!
# Assets, periods and roles

An account holds two assets: SOL, counted in lamports, and one token, counted in base units.
What it may spend of each is capped per day and per thirty days. Three parties are privileged:
the owner, the dispatcher and the sponsor. This module has the words for these and the records
that hold one number per asset or per period.
-/

namespace SpendGuard

/-! ### Assets -/

/-- What an account holds and spends. -/
inductive Asset where
  /-- Lamports. -/
  | sol
  /-- Base units of the account's token. -/
  | token
deriving DecidableEq, Repr

/-- How messages name an asset. -/
def Asset.label : Asset → String
  | .sol => "SOL"
  | .token => "token"

/-- How much of each asset is moved. -/
structure Spend where
  /-- Lamports. -/
  sol : Amount
  /-- Token units. -/
  token : Amount
deriving DecidableEq, Repr

namespace Spend

/-- Nothing of either asset. -/
def zero : Spend := ⟨0, 0⟩

/-- The amount of one asset. -/
def of (s : Spend) : Asset → Amount
  | .sol => s.sol
  | .token => s.token

/-- The exact sum in both assets, when both fit. -/
def add? (s t : Spend) : Option Spend := do
  let sol ← Amount.add? s.sol t.sol
  let token ← Amount.add? s.token t.token
  return ⟨sol, token⟩

theorem add?_eq_some_iff {s t u : Spend} :
    s.add? t = some u ↔
      u.sol.toNat = s.sol.toNat + t.sol.toNat ∧ u.token.toNat = s.token.toNat + t.token.toNat := by
  simp only [add?, Option.bind_eq_bind, Option.bind_eq_some_iff, Amount.add?_eq_some_iff,
    Option.pure_def, Option.some.injEq]
  constructor
  · rintro ⟨sol, hs, token, ht, rfl⟩
    exact ⟨hs, ht⟩
  · rintro ⟨hs, ht⟩
    exact ⟨u.sol, hs, u.token, ht, rfl⟩

end Spend

/-! ### Periods -/

/-- The two lengths of time over which spending is capped. -/
inductive Period where
  /-- Twenty-four hours. -/
  | daily
  /-- Thirty days. -/
  | monthly
deriving DecidableEq, Repr

/-- The length of a period in seconds. -/
def Period.seconds : Period → Nat
  | .daily => 86400
  | .monthly => 30 * 86400

/-- How messages name a period. -/
def Period.label : Period → String
  | .daily => "Daily"
  | .monthly => "Monthly"

/-- What was spent of one asset in the current periods. -/
structure Counters where
  /-- Spent in the current day. -/
  daily : Amount
  /-- Spent in the current month. -/
  monthly : Amount
deriving DecidableEq, Repr

/-- Nothing spent. -/
def Counters.zero : Counters := ⟨0, 0⟩

/-- The counter of one period. -/
def Counters.of (c : Counters) : Period → Amount
  | .daily => c.daily
  | .monthly => c.monthly

/-- The most that may be spent of one asset. -/
structure Caps where
  /-- In a day. -/
  daily : Amount
  /-- In a month. -/
  monthly : Amount
deriving DecidableEq, Repr

/-- The cap of one period. -/
def Caps.of (c : Caps) : Period → Amount
  | .daily => c.daily
  | .monthly => c.monthly

/-- The caps of both assets. -/
structure Limits where
  /-- Caps on lamports. -/
  sol : Caps
  /-- Caps on token units. -/
  token : Caps
deriving DecidableEq, Repr

/-- The caps of one asset. -/
def Limits.of (l : Limits) : Asset → Caps
  | .sol => l.sol
  | .token => l.token

/-! ### Roles -/

/-- The privileged parties of an account. -/
inductive Role where
  /-- Signs operations and withdraws in an emergency. -/
  | owner
  /-- Has calls executed. -/
  | dispatcher
  /-- Fronts network fees and is paid back. -/
  | sponsor
deriving DecidableEq, Repr

/-- How messages name a role. -/
def Role.label : Role → String
  | .owner => "owner"
  | .dispatcher => "dispatcher"
  | .sponsor => "sponsor"

end SpendGuard
