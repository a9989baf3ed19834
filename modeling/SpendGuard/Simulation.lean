import SpendGuard.AccountAddress
import SpendGuard.Binary64.Text
import SpendGuard.Chain
import SpendGuard.Configuration
import SpendGuard.Scenario

/-!
# Simulations

A simulation is an account on an in-memory chain, with a clock that only steps move, an owner
whose secret is made up, and made-up keys for everyone who was not configured. It runs a
scenario step by step. That the account refuses a request is an outcome of a step and is told
in words; a step fails only if it cannot be made sense of, and then nothing changes. Lamports are
exact; for people they are shown in SOL, as binary floating point numbers.
-/

namespace SpendGuard

/-! ### Amounts of SOL -/

namespace Sol

/-- Lamports in SOL: the number nearest to the lamports, divided. -/
def ofLamports (lamports : Amount) : Binary64 :=
  (Binary64.ofNat lamports.toNat).divNat lamportsPerSol

/-- Lamports in SOL, with as many places as it takes. -/
def text (lamports : Amount) : String := (ofLamports lamports).text

/-- Lamports in SOL, with four places. -/
def text4 (lamports : Amount) : String := (ofLamports lamports).fixedText 4

end Sol

/-- An account with everything around it. -/
structure Simulation where
  /-- What time it is. -/
  clock : Instant
  /-- The account. -/
  ledger : Ledger
  /-- What takes the owner's operations. -/
  dispatcher : Dispatcher
  /-- Who fronts fees. -/
  sponsor : Sponsor
  /-- Where everything is held. -/
  chain : Chain
  /-- The owner's secret. -/
  secret : List UInt8
  /-- How many keys were made up so far. -/
  keysMade : Nat

namespace Simulation

/-! ### Made-up keys -/

/-- A key made up for a number, different for different numbers below `2 ^ 64`. -/
def madeKey (n : Nat) : Key := ⟨Bytes.bigEndian 8 n ++ List.replicate 24 0, by simp⟩

/-- The number of the key made up for a role. -/
def roleNumber : Role → Nat
  | .owner => 1
  | .dispatcher => 2
  | .sponsor => 3

/-- The key that a text names, or a default where none is given. -/
def recipientOr (default : Key) : Option String → Except Failure Key
  | none => .ok default
  | some text => Key.ofTextAs .recipient text

/-! ### The beginning -/

/-- Does one thing to a chain before anything else happens. -/
def prepare (change : Chain → Except Error Unit × Chain) (chain : Chain) :
    Except Failure Chain :=
  match change chain with
  | (.ok (), chain) => .ok chain
  | (.error e, _) => .error (.refused e)

/-- The simulation of a scenario before its first step. The owner is whoever holds the secret,
whatever is configured. -/
def start (scheme : SignatureScheme) (secret : List UInt8) (now : Instant) (c : Configuration)
    (scenario : Scenario) : Except Failure Simulation := do
  let configured ← c.profileWith fun role => .ok (madeKey (roleNumber role))
  let profile := { configured with owner := scheme.publicKey secret }
  let clock := scenario.start.getD now
  let ledger := Ledger.create (← c.program) profile c.account.salt clock
  let chain := Chain.empty profile.tokenProgram
  let chain ← prepare (Chain.airdrop ledger.address scenario.fundLamports) chain
  let chain ← prepare (Chain.mint ledger.tokenAccount ledger.address scenario.fundToken) chain
  let chain ← prepare (Chain.airdrop profile.sponsor scenario.sponsorLamports) chain
  let sponsor := ⟨profile.sponsor, c.fees⟩
  let dispatcher := Dispatcher.fresh profile.dispatcher (some sponsor) c.budget
  return { clock, ledger, dispatcher, sponsor, chain, secret, keysMade := 3 }

/-! ### Steps -/

/-- The call that makes a transfer; `spare` receives where no recipient is given. -/
def transferCall (l : Ledger) (spare : Key) (t : Transfer) : Except Failure Call := do
  let recipient ← recipientOr spare t.recipient
  match t.asset with
  | .sol => return .native recipient t.amount
  | .token =>
    (Call.tokenTransfer l.profile.tokenProgram l.tokenAccount
      (l.profile.tokenAccountOf recipient) l.address t.amount).mapError .refused

/-- The calls that make transfers, with a made-up key to spare for each. -/
def transferCalls (l : Ledger) : (keysMade : Nat) → List Transfer → Except Failure (List Call)
  | _, [] => .ok []
  | n, t :: rest => do
    let call ← transferCall l (madeKey (n + 1)) t
    let calls ← transferCalls l (n + 1) rest
    return call :: calls

/-- How a refusal is told. -/
def refusalText (e : Error) : String := s!"REJECTED: {e.message}"

/-- How an answer is told, whichever way it went. -/
def told {α : Type} (text : α → String) : Except Error α → String
  | .ok a => text a
  | .error e => refusalText e

/-- How an operation that was carried out is told. -/
def operationText (r : OperationReceipt) : String :=
  let spend := r.execution.spend
  let fee := match r.fee with
    | some quote => s!", fee {quote.token.toNat} token"
    | none => ""
  let cooldown := if r.execution.cooldownArmed then ", cooldown armed" else ""
  s!"executed op {r.nonce.toNat}: {Sol.text spend.sol} SOL, {spend.token.toNat} token"
    ++ fee ++ cooldown

/-- How a withdrawal is told. -/
def withdrawalText (r : WithdrawalReceipt) : String :=
  s!"withdrew {Sol.text r.sol} SOL and {r.token.toNat} token to {r.recipient.text}"

/-- How the counters and the headroom of one asset are told. -/
def assetText (label : String) (spent : Counters) (left : Headroom) : String :=
  s!"{label} {spent.daily.toNat}/{spent.monthly.toNat} (left {left.available.toNat})"

/-- How the account is shown. -/
def statusText (s : Simulation) : String :=
  let left := s.ledger.allowance s.clock
  let cooldown := match s.ledger.cooldownUntil s.clock with
    | some ends => s!"until {ends.toInt}"
    | none => "inactive"
  String.intercalate ", "
    [assetText "SOL" s.ledger.state.sol left.sol, assetText "token" s.ledger.state.token left.token,
      s!"cooldown {cooldown}", s!"withdrawal {s.ledger.withdrawalStatus.text}"]

/-- Signs an operation that makes calls, and has it handled. -/
def handle (scheme : SignatureScheme) (s : Simulation) (calls : List Call) (sponsored : Bool) :
    Except Error OperationReceipt × Simulation :=
  let paymaster := if sponsored then some s.sponsor.address else none
  let unsigned : Operation := ⟨s.ledger.address, s.dispatcher.nextNonce, calls, paymaster, .zero⟩
  let (answer, dispatcher, ledger, chain) := s.dispatcher.handle scheme Chain.executor s.ledger
    s.clock (unsigned.sign scheme s.secret) s.chain
  (answer, { s with dispatcher, ledger, chain })

/-- Runs one step: what came of it in words, or why it makes no sense. -/
def step (scheme : SignatureScheme) (s : Simulation) : Step → Except Failure String × Simulation
  | .advance secs =>
    let clock := s.clock.moved secs
    (.ok s!"advanced {secs.toInt}s to {clock.toInt}", { s with clock })
  | .execute transfers sponsored =>
    match transferCalls s.ledger s.keysMade transfers with
    | .error f => (.error f, s)
    | .ok calls =>
      let (answer, s) := s.handle scheme calls sponsored
      (.ok (told operationText answer), { s with keysMade := s.keysMade + transfers.length })
  | .reclaim amount compute =>
    let (answer, ledger, chain) := s.ledger.reclaimGas Chain.executor s.clock s.sponsor.address
      amount compute s.chain
    (.ok (told (fun _ => s!"reclaimed {amount.toNat} token") answer), { s with ledger, chain })
  | .requestWithdraw =>
    let (answer, ledger) := s.ledger.requestWithdraw s.clock (scheme.publicKey s.secret)
    (.ok (told (fun t => s!"withdrawal requested, ready at {t.toInt}") answer), { s with ledger })
  | .executeWithdraw recipient =>
    match recipientOr (scheme.publicKey s.secret) recipient with
    | .error f => (.error f, s)
    | .ok recipient =>
      let (answer, ledger, chain) := s.ledger.executeWithdraw Chain.executor s.clock
        (scheme.publicKey s.secret) recipient s.chain
      (.ok (told withdrawalText answer), { s with ledger, chain })
  | .status => (.ok s.statusText, s)

end Simulation

end SpendGuard
