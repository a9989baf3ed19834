import SpendGuard.Cooldown
import SpendGuard.Profile
import SpendGuard.State

/-!
# The spending policy

The one place that decides whether an account may spend. A spend is judged in a fixed order:
the windows are rolled, a running cooldown blocks everything, then the caps on SOL, then those
on the token, each daily before monthly. A spend that passes and is large starts a cooldown.
What the sponsor reclaims is held against the token caps only.

Judging is pure: it tells the state that follows and leaves it to the ledger to store it.
-/

namespace SpendGuard

/-! ### Caps -/

namespace Caps

/-- The total of one period after a further amount, when the cap allows it. -/
def chargePeriod (asset : Asset) (period : Period) (spent cap amount : Amount) :
    Except Error Amount :=
  match Amount.add? spent amount with
  | none => .error .overflow
  | some total =>
    if cap < total then .error (.capExceeded period asset total cap) else .ok total

/-- The counters after a further amount, when both caps allow it; the daily one is judged
first. -/
def charge (caps : Caps) (asset : Asset) (counters : Counters) (amount : Amount) :
    Except Error Counters :=
  match chargePeriod asset .daily counters.daily caps.daily amount with
  | .error e => .error e
  | .ok daily =>
    match chargePeriod asset .monthly counters.monthly caps.monthly amount with
    | .error e => .error e
    | .ok monthly => .ok ⟨daily, monthly⟩

end Caps

/-! ### Spending and reclaiming -/

/-- A spend that was found acceptable. -/
structure Acceptance where
  /-- The state that follows. -/
  state : State
  /-- Whether the spend starts a cooldown. -/
  armsCooldown : Bool
deriving DecidableEq

namespace Policy

/-- Judges a spend. -/
def spend (profile : Profile) (state : State) (amount : Spend) (now : Instant) :
    Except Error Acceptance :=
  let rolled := state.roll now
  match Cooldown.gate rolled.lastLargeSpend amount profile.exchangeRate
      profile.limits.token.daily now with
  | .error e => .error e
  | .ok lastLargeSpend =>
    match profile.limits.sol.charge .sol rolled.sol amount.sol with
    | .error e => .error e
    | .ok sol =>
      match profile.limits.token.charge .token rolled.token amount.token with
      | .error e => .error e
      | .ok token =>
        .ok { state := { rolled with sol, token, lastLargeSpend }
              armsCooldown := lastLargeSpend ≠ rolled.lastLargeSpend }

/-- Judges what the sponsor reclaims: only the token caps apply. The cooldown does not, since
the fee belongs to an operation that already passed it. -/
def reclaim (profile : Profile) (state : State) (amount : Amount) (now : Instant) :
    Except Error State :=
  let rolled := state.roll now
  match profile.limits.token.charge .token rolled.token amount with
  | .error e => .error e
  | .ok token => .ok { rolled with token }

end Policy

/-! ### What is left -/

/-- What may still be spent of one asset. -/
structure Headroom where
  /-- In the current day. -/
  daily : Amount
  /-- In the current month. -/
  monthly : Amount
deriving DecidableEq

/-- The tighter of the two. -/
def Headroom.available (h : Headroom) : Amount := if h.monthly < h.daily then h.monthly else h.daily

/-- What may still be spent of both assets. -/
structure Allowance where
  /-- Lamports. -/
  sol : Headroom
  /-- Token units. -/
  token : Headroom
deriving DecidableEq

/-- What caps leave beside what is spent. -/
def Caps.headroom (caps : Caps) (counters : Counters) : Headroom :=
  ⟨Amount.monus caps.daily counters.daily, Amount.monus caps.monthly counters.monthly⟩

/-- What may still be spent at an instant; the state is rolled for the answer only. -/
def Policy.allowance (profile : Profile) (state : State) (now : Instant) : Allowance :=
  let rolled := state.roll now
  ⟨profile.limits.sol.headroom rolled.sol, profile.limits.token.headroom rolled.token⟩

end SpendGuard
