import SpendGuard.Window

/-!
# Ledger states

What an account remembers: the counters of both assets, the anchors of the daily and monthly
window, which the assets share, the last large spend, and the pending withdrawal request.
-/

namespace SpendGuard

/-- What an account remembers. -/
structure State where
  /-- Lamports spent in the current windows. -/
  sol : Counters
  /-- Token units spent in the current windows. -/
  token : Counters
  /-- Anchor of the daily window. -/
  dailyAnchor : Instant
  /-- Anchor of the monthly window. -/
  monthlyAnchor : Instant
  /-- When the last large spend was made. -/
  lastLargeSpend : Option Instant
  /-- When a withdrawal was requested. -/
  withdrawRequestedAt : Option Instant
deriving DecidableEq

namespace State

/-- A state with nothing spent, anchored at an instant. -/
def fresh (now : Instant) : State := ⟨.zero, .zero, now, now, none, none⟩

/-- The counters of one asset. -/
def counters (s : State) : Asset → Counters
  | .sol => s.sol
  | .token => s.token

/-- The windows of one asset: its counters against the shared anchors. -/
def windows (s : State) (asset : Asset) : Windows :=
  ⟨⟨s.dailyAnchor, (s.counters asset).daily⟩, ⟨s.monthlyAnchor, (s.counters asset).monthly⟩⟩

/-- The state as of an instant: each asset's counters rolled from its own values, the anchors
moved once for both. -/
def roll (now : Instant) (s : State) : State :=
  let sol := (s.windows .sol).roll now
  let token := (s.windows .token).roll now
  { s with
    sol := sol.counters
    token := token.counters
    dailyAnchor := sol.daily.anchor
    monthlyAnchor := sol.monthly.anchor }

end State

end SpendGuard
