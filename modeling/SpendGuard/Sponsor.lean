import SpendGuard.Ledger

/-!
# Sponsors

A sponsor fronts the network fee of an operation in SOL and is paid back in token units by the
account, through the ledger, so that the repayment counts against the token caps. The token
amount is rounded up: the sponsor never asks for less than it pays.
-/

namespace SpendGuard

/-- What a sponsor charges, and how much it fronts at most. -/
structure FeeSchedule where
  /-- The largest token fee for one operation. -/
  maxFeePerOp : Amount
  /-- The flat network fee per operation, in lamports. -/
  baseFee : Amount
  /-- The additional network fee per call, in lamports. -/
  perCallFee : Amount
deriving DecidableEq

/-- The schedule of a sponsor that was not told otherwise. -/
def FeeSchedule.standard : FeeSchedule := ⟨1000000, 5000, 1000⟩

/-- The fee of one operation in both denominations. -/
structure FeeQuote where
  /-- What the sponsor pays. -/
  lamports : Amount
  /-- What it reclaims. -/
  token : Amount
deriving DecidableEq

/-- The fee for a number of calls at an exchange rate, when both denominations fit. The token amount
is rounded up from a product in wide words. -/
def FeeSchedule.quote (s : FeeSchedule) (exchangeRate : Amount) (callCount : Nat) :
    Except Error FeeQuote :=
  match (Amount.times? callCount s.perCallFee).bind (Amount.add? · s.baseFee) with
  | none => .error .overflow
  | some lamports =>
    match Wide.mul? (.ofAmount lamports) (.ofAmount exchangeRate) with
    | none => .error .overflow
    | some scaled =>
      match (scaled.divCeil (.ofNat lamportsPerSol)).toAmount? with
      | none => .error .overflow
      | some token => .ok ⟨lamports, token⟩

/-- A party that fronts network fees. -/
structure Sponsor where
  /-- The key it pays from and is known by. -/
  address : Key
  /-- Its fees. -/
  schedule : FeeSchedule
deriving DecidableEq

namespace Sponsor

variable {σ : Type}

/-- The fee of an operation that this sponsor would front: the account must name it, the fee
must not exceed its cap, and the account must be able to pay it back. -/
def validate (x : Executor σ) (s : Sponsor) (l : Ledger) (callCount : Nat) (world : σ) :
    Except Error FeeQuote := do
  if l.profile.sponsor ≠ s.address then throw (.unauthorized s.address .sponsor)
  let quote ← s.schedule.quote l.profile.exchangeRate callCount
  if s.schedule.maxFeePerOp < quote.token then
    throw (.feeAboveCap quote.token s.schedule.maxFeePerOp)
  let balance ← x.tokensIn l.tokenAccount world
  if balance < quote.token then throw (.insufficientBalance .token balance quote.token)
  return quote

/-- Pays the network fee and reclaims the token fee; nothing is reclaimed when that is zero. -/
def settle (x : Executor σ) (s : Sponsor) (l : Ledger) (now : Instant) (quote : FeeQuote)
    (remainingCompute : Amount) (world : σ) : Except Error (Option Receipt) × Ledger × σ :=
  match x.chargeFee s.address quote.lamports world with
  | (.error e, world) => (.error e, l, world)
  | (.ok (), world) =>
    if quote.token = 0 then (.ok none, l, world)
    else
      match l.reclaimGas x now s.address quote.token remainingCompute world with
      | (.error e, l, world) => (.error e, l, world)
      | (.ok receipt, l, world) => (.ok (some receipt), l, world)

end Sponsor

end SpendGuard
