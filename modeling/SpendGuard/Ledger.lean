import SpendGuard.Chain
import SpendGuard.Classification
import SpendGuard.Policy
import SpendGuard.Withdrawal

/-!
# Ledgers

A ledger is an account with bounded authority: its address, its profile and what it remembers.
Every request names a caller and is refused unless the caller has the role it needs. A request
is answered at one instant. If it fails, for whatever reason, the stored state is what it was
before, in every field; what an executor did is up to the executor.
-/

namespace SpendGuard

/-- An account with bounded authority. -/
structure Ledger where
  /-- Where it is. -/
  address : Key
  /-- What is fixed about it. -/
  profile : Profile
  /-- What it remembers. -/
  state : State
deriving DecidableEq

/-- What came of a spend. -/
structure Receipt where
  /-- The transaction. -/
  signature : Signature
  /-- What was counted. -/
  spend : Spend
  /-- How many calls were carried out. -/
  calls : Nat
  /-- When. -/
  executedAt : Instant
  /-- Whether a cooldown began. -/
  cooldownArmed : Bool
deriving DecidableEq

/-- What came of an emergency withdrawal. -/
structure WithdrawalReceipt where
  /-- The transaction; none if there was nothing to send. -/
  signature : Option Signature
  /-- Who received. -/
  recipient : Key
  /-- The lamports sent. -/
  sol : Amount
  /-- The token units sent. -/
  token : Amount
  /-- When. -/
  executedAt : Instant
deriving DecidableEq

namespace Ledger

/-- An account with nothing spent, its windows anchored at an instant. -/
def fresh (address : Key) (profile : Profile) (now : Instant) : Ledger :=
  ⟨address, profile, .fresh now⟩

/-- The account's own token account. -/
def tokenAccount (l : Ledger) : Key := l.profile.tokenAccountOf l.address

/-- What may still be spent. -/
def allowance (l : Ledger) (now : Instant) : Allowance := Policy.allowance l.profile l.state now

/-- When the running cooldown ends, if one is running. -/
def cooldownUntil (l : Ledger) (now : Instant) : Option Instant :=
  Cooldown.runningUntil l.state.lastLargeSpend now

/-- Where the emergency withdrawal stands. -/
def withdrawalStatus (l : Ledger) : Withdrawal.Status :=
  .ofRequest l.state.withdrawRequestedAt

/-- When the pending withdrawal is released. -/
def withdrawalReadyAt (l : Ledger) : Option Instant :=
  l.state.withdrawRequestedAt.map Withdrawal.readyAt

/-- Refuses callers without the role. -/
def authorize (l : Ledger) (caller : Key) (role : Role) : Except Error Unit :=
  if caller = l.profile.holder role then .ok () else .error (.unauthorized caller role)

/-! ### Judging -/

/-- Whether calls would be accepted right now, and what they move together with the token fee
that a sponsor would reclaim afterwards. Nothing is stored or reserved. -/
def preflight (l : Ledger) (now : Instant) (caller : Key) (calls : List Call)
    (sponsoredFee : Option Amount) : Except Error Spend := do
  l.authorize caller .dispatcher
  let moved ← Batch.classify l.profile.tokenProgram calls
  let spend ← match sponsoredFee with
    | none => pure moved
    | some fee =>
      match moved.add? ⟨0, fee⟩ with
      | some total => pure total
      | none => throw .overflow
  let _ ← Policy.spend l.profile l.state spend now
  return spend

/-! ### Requests that change the account -/

variable {σ : Type}

/-- Stores a state that was judged before and has calls carried out on it; if they fail, the
state before is put back. -/
def settle (x : Executor σ) (l : Ledger) (next : State) (calls : List Call)
    (receipt : Signature → Receipt) (world : σ) : Except Error Receipt × Ledger × σ :=
  let before := l.state
  let l := { l with state := next }
  match x.execute l.address calls world with
  | (.ok signature, world) => (.ok (receipt signature), l, world)
  | (.error e, world) => (.error e, { l with state := before }, world)

section Settle

variable {x : Executor σ} {l : Ledger} {next : State} {calls : List Call}
  {receipt : Signature → Receipt} {world world' : σ}

theorem settle_of_ok {signature : Signature}
    (carried : x.execute l.address calls world = (.ok signature, world')) :
    settle x l next calls receipt world =
      (.ok (receipt signature), { l with state := next }, world') := by
  simp only [settle, carried]

theorem settle_of_error {e : Error}
    (carried : x.execute l.address calls world = (.error e, world')) :
    settle x l next calls receipt world = (.error e, l, world') := by
  simp only [settle, carried]

end Settle

/-- Counts a spend and has its calls carried out.

The log is left out, and with it the warning that a cooldown begins. It tells when the cooldown
ends, and adds its length to the instant without stopping at the last one: where the log is written
and overflow is checked, that sum fails within an hour of the last instant. -/
def commit (x : Executor σ) (l : Ledger) (now : Instant) (calls : List Call) (spend : Spend)
    (world : σ) : Except Error Receipt × Ledger × σ :=
  match Policy.spend l.profile l.state spend now with
  | .error e => (.error e, l, world)
  | .ok accepted =>
    settle x l accepted.state calls
      (fun signature => ⟨signature, spend, calls.length, now, accepted.armsCooldown⟩) world

/-- Carries out one call for the dispatcher. -/
def execute (x : Executor σ) (l : Ledger) (now : Instant) (caller : Key) (call : Call)
    (world : σ) : Except Error Receipt × Ledger × σ :=
  match l.authorize caller .dispatcher with
  | .error e => (.error e, l, world)
  | .ok () =>
    match call.classify l.profile.tokenProgram with
    | .error e => (.error e, l, world)
    | .ok spend => commit x l now [call] spend world

/-- Carries out calls for the dispatcher, counted as one spend. -/
def executeBatch (x : Executor σ) (l : Ledger) (now : Instant) (caller : Key)
    (calls : List Call) (world : σ) : Except Error Receipt × Ledger × σ :=
  match l.authorize caller .dispatcher with
  | .error e => (.error e, l, world)
  | .ok () =>
    match Batch.classify l.profile.tokenProgram calls with
    | .error e => (.error e, l, world)
    | .ok spend => commit x l now calls spend world

/-- The compute units that paying the sponsor back takes. -/
def reclaimCompute : Amount := 50000

/-- Pays the sponsor back for fees it fronted. -/
def reclaimGas (x : Executor σ) (l : Ledger) (now : Instant) (caller : Key) (amount : Amount)
    (remainingCompute : Amount) (world : σ) : Except Error Receipt × Ledger × σ :=
  match l.authorize caller .sponsor with
  | .error e => (.error e, l, world)
  | .ok () =>
    if remainingCompute < reclaimCompute then
      (.error (.insufficientCompute remainingCompute reclaimCompute), l, world)
    else
      match Call.tokenTransfer l.profile.tokenProgram l.tokenAccount
          (l.profile.tokenAccountOf l.profile.sponsor) l.address amount with
      | .error e => (.error e, l, world)
      | .ok call =>
        match Policy.reclaim l.profile l.state amount now with
        | .error e => (.error e, l, world)
        | .ok next =>
          settle x l next [call] (fun signature => ⟨signature, ⟨0, amount⟩, 1, now, false⟩) world

/-! ### Emergency withdrawal -/

/-- Starts the timelock of an emergency withdrawal, or starts it again, for the owner; the
answer is when it is over. -/
def requestWithdraw (l : Ledger) (now : Instant) (caller : Key) : Except Error Instant × Ledger :=
  match l.authorize caller .owner with
  | .error e => (.error e, l)
  | .ok () =>
    let state := { l.state with withdrawRequestedAt := some now }
    (.ok (Withdrawal.readyAt now), { l with state })

/-- The calls that send both balances to a recipient; empty balances are left out. -/
def sweepCalls (l : Ledger) (recipient : Key) (sol token : Amount) : Except Error (List Call) := do
  let native := if 0 < sol then [Call.native recipient sol] else []
  if 0 < token then
    let transfer ← Call.tokenTransfer l.profile.tokenProgram l.tokenAccount
      (l.profile.tokenAccountOf recipient) l.address token
    return native ++ [transfer]
  else return native

/-- Sends both balances to a recipient, for the owner, once the timelock is over. Caps do not
apply. The request is cleared only when the calls were carried out, or there were none. -/
def executeWithdraw (x : Executor σ) (l : Ledger) (now : Instant) (caller recipient : Key)
    (world : σ) : Except Error WithdrawalReceipt × Ledger × σ :=
  let plan : Except Error (Amount × Amount × List Call) := do
    l.authorize caller .owner
    Withdrawal.ensureReleased l.state.withdrawRequestedAt now
    let sol ← x.lamportsOf l.address world
    let token ← x.tokensIn l.tokenAccount world
    let calls ← l.sweepCalls recipient sol token
    return (sol, token, calls)
  match plan with
  | .error e => (.error e, l, world)
  | .ok (sol, token, calls) =>
    let cleared := { l with state := { l.state with withdrawRequestedAt := none } }
    if calls.isEmpty then
      (.ok ⟨none, recipient, sol, token, now⟩, cleared, world)
    else
      match x.execute l.address calls world with
      | (.error e, world) => (.error e, l, world)
      | (.ok signature, world) =>
        (.ok ⟨some signature, recipient, sol, token, now⟩, cleared, world)

end Ledger

end SpendGuard
