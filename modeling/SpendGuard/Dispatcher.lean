import SpendGuard.Operation
import SpendGuard.Sponsor

/-!
# Dispatchers

A dispatcher takes owner-signed operations for one account, in the order of their nonces. An
operation is first *vetted*, which changes nothing: it must be for the account, signed by the
owner and next in turn; if it names a paymaster, that must be the dispatcher's sponsor, enough
compute must be left to pay it back, and the sponsor must agree; and the ledger must accept the
calls together with the fee. Only then is the nonce used up, the calls are carried out, and the
sponsor is paid back whether or not they succeeded.
-/

namespace SpendGuard

/-- How much compute an operation is granted, and how much a call is reckoned to use. -/
structure ComputeBudget where
  /-- Compute units granted to one operation. -/
  unitLimit : Amount
  /-- Compute units reckoned for each call. -/
  unitsPerCall : Amount
deriving DecidableEq

/-- The budget of a dispatcher that was not told otherwise. -/
def ComputeBudget.standard : ComputeBudget := ⟨1400000, 200000⟩

/-- The compute left after a number of calls, none if they use more than is granted. -/
def ComputeBudget.remainingAfter (b : ComputeBudget) (callCount : Nat) : Amount :=
  UInt64.ofNat (b.unitLimit.toNat - b.unitsPerCall.toNat * callCount)

/-- What takes operations for an account. -/
structure Dispatcher where
  /-- The key it calls the ledger with. -/
  identity : Key
  /-- Who fronts fees, if anyone does. -/
  sponsor : Option Sponsor
  /-- How much compute an operation is granted. -/
  budget : ComputeBudget
  /-- The nonce the next operation must have. -/
  nextNonce : Amount
deriving DecidableEq

/-- What came of an operation. -/
structure OperationReceipt where
  /-- Its nonce. -/
  nonce : Amount
  /-- What came of its calls. -/
  execution : Receipt
  /-- The fee, if it was sponsored. -/
  fee : Option FeeQuote
deriving DecidableEq

namespace Dispatcher

variable {σ : Type}

/-- A dispatcher that has not taken any operation yet. -/
def fresh (identity : Key) (sponsor : Option Sponsor) (budget : ComputeBudget) : Dispatcher :=
  ⟨identity, sponsor, budget, 0⟩

/-- The sponsor that an operation names as its paymaster. -/
def sponsorFor (d : Dispatcher) (paymaster : Key) : Except Error Sponsor :=
  match d.sponsor with
  | none => .error (.unauthorized paymaster .sponsor)
  | some s => if s.address = paymaster then .ok s else .error (.unauthorized paymaster .sponsor)

/-- The sponsor and the fee of an operation; none if it names no paymaster. -/
def sponsorship (x : Executor σ) (d : Dispatcher) (l : Ledger) (op : Operation) (world : σ) :
    Except Error (Option (Sponsor × FeeQuote)) :=
  match op.paymaster with
  | none => .ok none
  | some paymaster => do
    let sponsor ← d.sponsorFor paymaster
    let remaining := d.budget.remainingAfter op.calls.length
    if remaining < Ledger.reclaimCompute then
      throw (.insufficientCompute remaining Ledger.reclaimCompute)
    let quote ← sponsor.validate x l op.calls.length world
    return some (sponsor, quote)

/-- Vets an operation; the answer is who fronts its fee, and how much. -/
def vet (scheme : SignatureScheme) (x : Executor σ) (d : Dispatcher) (l : Ledger) (now : Instant)
    (op : Operation) (world : σ) : Except Error (Option (Sponsor × FeeQuote)) := do
  if op.account ≠ l.address then throw (.wrongAccount l.address op.account)
  op.verify scheme l.profile.owner
  if op.nonce ≠ d.nextNonce then throw (.invalidNonce d.nextNonce op.nonce)
  let sponsored ← d.sponsorship x l op world
  let _ ← l.preflight now d.identity op.calls (sponsored.map fun p => p.2.token)
  return sponsored

/-- Has the calls of an operation carried out: a single one on its own, others as a batch. -/
def runCalls (x : Executor σ) (d : Dispatcher) (l : Ledger) (now : Instant) (calls : List Call)
    (world : σ) : Except Error Receipt × Ledger × σ :=
  match calls with
  | [call] => l.execute x now d.identity call world
  | calls => l.executeBatch x now d.identity calls world

/-- Pays back the sponsor of an operation whose calls have run. An error of the calls takes
precedence over one of the payment. -/
def payBack (x : Executor σ) (d : Dispatcher) (now : Instant) (op : Operation)
    (sponsored : Option (Sponsor × FeeQuote)) (execution : Except Error Receipt) (l : Ledger)
    (world : σ) : Except Error OperationReceipt × Ledger × σ :=
  let answer := execution.map fun r => ⟨op.nonce, r, sponsored.map (·.2)⟩
  match sponsored with
  | none => (answer, l, world)
  | some (sponsor, quote) =>
    let remaining := d.budget.remainingAfter op.calls.length
    match sponsor.settle x l now quote remaining world with
    | (.ok _, l, world) => (answer, l, world)
    | (.error e, l, world) =>
      match execution with
      | .error e => (.error e, l, world)
      | .ok _ => (.error e, l, world)

/-- What the clock shows when the ledger looks at it, once in each phase of an operation. -/
structure Readings where
  /-- While the operation is vetted. -/
  vetting : Instant
  /-- When its calls are run. -/
  running : Instant
  /-- When the sponsor is paid back. -/
  settling : Instant
deriving DecidableEq

/-- Handles an operation: vets it, uses up its nonce, runs its calls and pays the sponsor back,
while the clock may move on. -/
def handleAt (scheme : SignatureScheme) (x : Executor σ) (d : Dispatcher) (l : Ledger)
    (clock : Readings) (op : Operation) (world : σ) :
    Except Error OperationReceipt × Dispatcher × Ledger × σ :=
  match d.vet scheme x l clock.vetting op world with
  | .error e => (.error e, d, l, world)
  | .ok sponsored =>
    let (execution, l, world) := d.runCalls x l clock.running op.calls world
    let (answer, l, world) := d.payBack x clock.settling op sponsored execution l world
    (answer, { d with nextNonce := d.nextNonce + 1 }, l, world)

/-- Handles an operation on a clock that stands still meanwhile. -/
def handle (scheme : SignatureScheme) (x : Executor σ) (d : Dispatcher) (l : Ledger)
    (now : Instant) (op : Operation) (world : σ) :
    Except Error OperationReceipt × Dispatcher × Ledger × σ :=
  d.handleAt scheme x l ⟨now, now, now⟩ op world

end Dispatcher

end SpendGuard
