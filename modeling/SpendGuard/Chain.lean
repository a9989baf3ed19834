import SpendGuard.Call
import SpendGuard.Table

/-!
# Executors and the in-memory chain

The ledger moves nothing itself. It hands accepted calls to an executor, which has a state of its
own and may do with it what it likes, also when it fails; what a particular executor guarantees is
said where it is defined.

The in-memory chain is an executor that keeps balances in memory. Calls are applied one after the
other to a copy of the balances; only when every call succeeds does the copy become the chain's
state, with one transaction more. So a sequence of calls happens entirely or not at all.
-/

namespace SpendGuard

/-- What carries out calls and keeps balances, over states of type `σ`. -/
structure Executor (σ : Type) where
  /-- Carries out calls from a sender, in order; the answer names the transaction. -/
  execute : (sender : Key) → List Call → σ → Except Error Signature × σ
  /-- The lamports of a wallet. -/
  lamportsOf : (wallet : Key) → σ → Except Error Amount
  /-- The units in a token account. -/
  tokensIn : (account : Key) → σ → Except Error Amount
  /-- Takes a network fee from a payer. -/
  chargeFee : (payer : Key) → (lamports : Amount) → σ → Except Error Unit × σ

/-! ### The in-memory chain -/

/-- A token account: whose it is, and what it holds. -/
structure TokenAccount where
  /-- Who may move its units. -/
  owner : Key
  /-- The units in it. -/
  amount : Amount
deriving DecidableEq

/-- The state of an in-memory chain. -/
structure Chain where
  /-- The program whose calls move tokens. -/
  tokenProgram : Key
  /-- Lamports by wallet. -/
  lamports : Table Key Amount
  /-- Token accounts by address. -/
  tokenAccounts : Table Key TokenAccount
  /-- Targets that turn every call back. -/
  failing : List Key
  /-- The committed transactions, the latest last. -/
  transactions : List Signature
deriving DecidableEq

namespace Chain

/-- A chain without balances. -/
def empty (tokenProgram : Key) : Chain := ⟨tokenProgram, [], [], [], []⟩

/-! ### Balances -/

/-- The lamports of a wallet. -/
def lamportsOf (chain : Chain) (wallet : Key) : Amount := (chain.lamports.get? wallet).getD 0

/-- The units in a token account. -/
def tokensIn (chain : Chain) (account : Key) : Amount :=
  ((chain.tokenAccounts.get? account).map (·.amount)).getD 0

/-- All lamports together. -/
def totalLamports (chain : Chain) : Nat := chain.lamports.sum fun _ a => a.toNat

/-- All token units together. -/
def totalTokens (chain : Chain) : Nat := chain.tokenAccounts.sum fun _ a => a.amount.toNat

/-- The chain with lamports taken from a wallet. -/
def debit (chain : Chain) (wallet : Key) (amount : Amount) : Except CallFault Chain :=
  match Amount.sub? (chain.lamportsOf wallet) amount with
  | none => .error (.shortfall .sol (chain.lamportsOf wallet) amount)
  | some left => .ok { chain with lamports := chain.lamports.put wallet left }

/-- The chain with lamports given to a wallet. -/
def credit (chain : Chain) (wallet : Key) (amount : Amount) : Except CallFault Chain :=
  match Amount.add? (chain.lamportsOf wallet) amount with
  | none => .error .overflow
  | some total => .ok { chain with lamports := chain.lamports.put wallet total }

/-- The chain with units given to a token account, which is created for `owner` if need be. -/
def creditTokens (chain : Chain) (account owner : Key) (amount : Amount) :
    Except CallFault Chain :=
  let held := (chain.tokenAccounts.get? account).getD ⟨owner, 0⟩
  match Amount.add? held.amount amount with
  | none => .error .overflow
  | some total =>
    let held := { held with amount := total }
    .ok { chain with tokenAccounts := chain.tokenAccounts.put account held }

/-- The chain with units taken from a token account of `authority`. -/
def debitTokens (chain : Chain) (account authority : Key) (amount : Amount) :
    Except CallFault Chain :=
  match chain.tokenAccounts.get? account with
  | none => .error (.accountNotFound account)
  | some held =>
    if held.owner ≠ authority then .error (.notOwned account authority)
    else match Amount.sub? held.amount amount with
      | none => .error (.shortfall .token held.amount amount)
      | some left =>
        .ok { chain with
          tokenAccounts := chain.tokenAccounts.put account { held with amount := left } }

/-! ### Calls -/

/-- The chain after a token transfer that `sender` asks for. A destination that does not exist
is created without an owner. -/
def transferTokens (chain : Chain) (sender : Key) (amount : Amount) :
    (accounts : List Key) → Except CallFault Chain
  | source :: destination :: authority :: _ =>
    if authority ≠ sender then .error (.notSigned authority)
    else match chain.debitTokens source authority amount with
      | .error e => .error e
      | .ok chain => chain.creditTokens destination .zero amount
  | _ => .error .missingAccounts

/-- The chain after one call. -/
def apply (chain : Chain) (sender : Key) (call : Call) : Except CallFault Chain :=
  if call.target ∈ chain.failing then .error (.reverted call.target)
  else if call.target ≠ chain.tokenProgram then
    match chain.debit sender call.value with
    | .error e => .error e
    | .ok chain => chain.credit call.target call.value
  else match Token.Instruction.decode? call.data with
    | none => .error .invalidInstruction
    | some (.transfer amount) => chain.transferTokens sender amount call.accounts
    | some other => .error (.unsupported other)

/-- The chain after calls, the first of which has the given index; the fault of the first call
that fails is told with its index. -/
def applyFrom (sender : Key) (index : Nat) (chain : Chain) : List Call → Except CallFault Chain
  | [] => .ok chain
  | call :: rest =>
    match chain.apply sender call with
    | .error e => .error (.inCall index e)
    | .ok chain => applyFrom sender (index + 1) chain rest

/-- Carries out calls, all or nothing. -/
def execute (sender : Key) (calls : List Call) (chain : Chain) : Except Error Signature × Chain :=
  match applyFrom sender 0 chain calls with
  | .error e => (.error (.callFailed e), chain)
  | .ok staged =>
    let signature := Signature.numbered staged.transactions.length
    (.ok signature, { staged with transactions := staged.transactions ++ [signature] })

/-! ### Changes from outside -/

/-- A fault as an error of its own. -/
def faultError : CallFault → Error
  | .shortfall asset available required => .insufficientBalance asset available required
  | .overflow => .overflow
  | e => .callFailed e

/-- The outcome of a change that either happens or leaves the chain alone. -/
def commit (chain : Chain) : Except CallFault Chain → Except Error Unit × Chain
  | .ok changed => (.ok (), changed)
  | .error e => (.error (faultError e), chain)

/-- Gives lamports to a wallet. -/
def airdrop (wallet : Key) (lamports : Amount) (chain : Chain) : Except Error Unit × Chain :=
  chain.commit (chain.credit wallet lamports)

/-- Gives units to a token account, creating it for `owner` if need be. -/
def mint (account owner : Key) (amount : Amount) (chain : Chain) : Except Error Unit × Chain :=
  chain.commit (chain.creditTokens account owner amount)

/-- Takes a network fee. -/
def chargeFee (payer : Key) (lamports : Amount) (chain : Chain) : Except Error Unit × Chain :=
  chain.commit (chain.debit payer lamports)

/-- Makes every later call to a target fail. -/
def failCallsTo (target : Key) (chain : Chain) : Chain :=
  { chain with failing := target :: chain.failing }

/-- The in-memory chain as an executor. -/
def executor : Executor Chain where
  execute := execute
  lamportsOf wallet chain := .ok (chain.lamportsOf wallet)
  tokensIn account chain := .ok (chain.tokensIn account)
  chargeFee := chargeFee

end Chain

end SpendGuard
