import SpendGuard.Proofs.Chain.Conservation
import SpendGuard.Proofs.Dispatcher.Vetting
import SpendGuard.Proofs.Ledger.Trace

/-!
# Running and settling

What comes of a vetted operation is made in two steps, and each is described once. Its calls fail
and leave nothing (`Dispatcher.eq_of_runCalls_eq_error`), or they are counted and carried out as a
whole (`Dispatcher.runCalls_of_ok`). Then, if somebody fronts the fee, it is settled:
`Sponsor.Settlement` lists everything that can come of that. On an in-memory chain settling by
itself comes to nothing, to the charge, or to the charge and the repayment (`Sponsor.FeeOnly`). The
charge takes exactly the quoted lamports from the sponsor (`Sponsor.Charged`). The repayment brings
it exactly the quoted units, which the account has counted, if the token program of the chain is
that of the profile, and otherwise none (`Ledger.OnlyRepayment`).
-/

namespace SpendGuard

/-- Whoever is not addressed by the calls of a spend keeps their lamports, whatever comes of it. -/
theorem Ledger.Outcome.lamportsOf_of_bystander {l l' : Ledger} {now : Instant}
    {chain chain' : Chain} {request : Request} {answer : Except Error Grant} {calls : List Call}
    {wallet : Key} (h : Outcome Chain.executor l now chain request answer l' chain')
    (hcalls : request.spending? = some calls) (haccount : wallet ≠ l.address)
    (htargets : ∀ call ∈ calls, wallet ≠ call.target) :
    chain'.lamportsOf wallet = chain.lamportsOf wallet := by
  cases h with
  | executed _ asked _ _ carried =>
    obtain rfl := Option.some.inj (hcalls.symm.trans asked)
    exact Chain.lamportsOf_execute_of_bystander haccount htargets carried
  | failed carried => rw [Chain.eq_of_execute_eq_error carried]
  | refused => rfl
  | reclaimed | foreseen | requested | withdrawnNothing | withdrawn => cases hcalls

/-- A repayment that fails on an in-memory chain leaves the account and the chain as they were. -/
theorem Ledger.eq_of_reclaimGas_eq_error {l l' : Ledger} {now : Instant} {caller : Key}
    {amount compute : Amount} {chain chain' : Chain} {e : Error}
    (h : l.reclaimGas Chain.executor now caller amount compute chain = (.error e, l', chain')) :
    l' = l ∧ chain' = chain := by
  have houtcome := l.outcome_reclaimGas Chain.executor now chain caller amount compute
  rw [h] at houtcome
  exact ⟨houtcome.ledger_eq_of_error, houtcome.chain_eq_of_error⟩

/-! ### Running the calls -/

namespace Dispatcher

variable {σ : Type} {x : Executor σ} {d : Dispatcher} {l l₁ : Ledger} {now : Instant}
  {calls : List Call} {world world₁ : σ} {chain chain₁ : Chain} {receipt : Receipt} {e : Error}

/-- Calls that fail leave the account as it was. -/
theorem ledger_eq_of_runCalls_eq_error
    (h : d.runCalls x l now calls world = (.error e, l₁, world₁)) : l₁ = l := by
  obtain ⟨request, -, houtcome⟩ := exists_outcome_runCalls x d l now calls world
  rw [h] at houtcome
  exact houtcome.ledger_eq_of_error

/-- On an in-memory chain they leave the chain as it was, too. -/
theorem eq_of_runCalls_eq_error
    (h : d.runCalls Chain.executor l now calls chain = (.error e, l₁, chain₁)) :
    l₁ = l ∧ chain₁ = chain := by
  obtain ⟨request, -, houtcome⟩ := exists_outcome_runCalls Chain.executor d l now calls chain
  rw [h] at houtcome
  exact ⟨houtcome.ledger_eq_of_error, houtcome.chain_eq_of_error⟩

/-- Calls that succeed are accepted by the policy, carried out and counted. -/
theorem runCalls_of_ok (h : d.runCalls x l now calls world = (.ok receipt, l₁, world₁)) :
    ∃ spend accepted signature, Batch.classify l.profile.tokenProgram calls = .ok spend ∧
      Policy.spend l.profile l.state spend now = .ok accepted ∧
      x.execute l.address calls world = (.ok signature, world₁) ∧
      l₁ = { l with state := accepted.state } := by
  obtain ⟨request, hcalls, houtcome⟩ := exists_outcome_runCalls x d l now calls world
  rw [h] at houtcome
  cases houtcome with
  | executed caller asked classified judged carried =>
    obtain rfl := Option.some.inj (hcalls.symm.trans asked)
    exact ⟨_, _, _, classified, judged, carried, rfl⟩

end Dispatcher

/-! ### Settling the fee -/

namespace Sponsor

variable {σ : Type}

/-- What can come of settling a fee: the answer, the account and the executor's world afterwards. -/
inductive Settlement (x : Executor σ) (s : Sponsor) (l : Ledger) (now : Instant) (quote : FeeQuote)
    (remaining : Amount) (world : σ) : Except Error (Option Receipt) → Ledger → σ → Prop
  /-- The sponsor could not be charged. -/
  | uncharged {e : Error} {world' : σ}
      (unpaid : x.chargeFee s.address quote.lamports world = (.error e, world')) :
      Settlement x s l now quote remaining world (.error e) l world'
  /-- The sponsor was charged, and there is nothing to reclaim. -/
  | free {world' : σ} (paid : x.chargeFee s.address quote.lamports world = (.ok (), world'))
      (nothing : quote.token = 0) :
      Settlement x s l now quote remaining world (.ok none) l world'
  /-- The sponsor was charged and asked to be paid back. -/
  | claimed {charged world' : σ} {answer : Except Error Receipt} {l' : Ledger}
      (paid : x.chargeFee s.address quote.lamports world = (.ok (), charged))
      (due : quote.token ≠ 0)
      (claim : l.reclaimGas x now s.address quote.token remaining charged = (answer, l', world')) :
      Settlement x s l now quote remaining world (answer.map some) l' world'

variable (x : Executor σ) (s : Sponsor) (l : Ledger) (now : Instant) (quote : FeeQuote)
  (remaining : Amount) (world : σ)

theorem settlement_settle :
    Settlement x s l now quote remaining world (s.settle x l now quote remaining world).1
      (s.settle x l now quote remaining world).2.1
      (s.settle x l now quote remaining world).2.2 := by
  unfold settle
  rcases hcharge : x.chargeFee s.address quote.lamports world with ⟨e | _, charged⟩
  · exact .uncharged hcharge
  · dsimp only
    by_cases hfree : quote.token = 0
    · rw [if_pos hfree]
      exact .free hcharge hfree
    · rw [if_neg hfree]
      rcases hclaim : l.reclaimGas x now s.address quote.token remaining charged with
        ⟨e | receipt, l', world'⟩
      · exact .claimed hcharge hfree hclaim
      · exact .claimed hcharge hfree hclaim

end Sponsor

/-! ### On an in-memory chain -/

/-- From one chain to the next only a repayment to the sponsor was carried out. -/
structure Ledger.OnlyRepayment (l : Ledger) (units : Amount) (chain chain' : Chain) : Prop where
  /-- The units went from the account's own token account to that of its sponsor, and no other token
  account is concerned; on a chain with another token program than the profile's none went. -/
  passed : Passed (if l.profile.tokenProgram = chain.tokenProgram then units.toNat else 0)
    l.tokenAccount (l.profile.tokenAccountOf l.profile.sponsor) chain.tokensIn chain'.tokensIn
  /-- The account has lost no more than them. -/
  owned : chain.tokensOwnedBy l.address ≤ chain'.tokensOwnedBy l.address + units.toNat
  /-- Nobody has lost or gained lamports. -/
  lamports : ∀ wallet, chain'.lamportsOf wallet = chain.lamportsOf wallet
  /-- No token account has changed hands. -/
  owners : chain.KeepsOwners chain'
  /-- There is one transaction more. -/
  transaction : ∃ signature, chain'.transactions = chain.transactions ++ [signature]
  /-- The targets that turn calls back are the same. -/
  failing : chain'.failing = chain.failing
  /-- The token program is the same. -/
  program : chain'.tokenProgram = chain.tokenProgram

/-- A repayment that succeeds counts it, and does nothing else. -/
theorem Ledger.onlyRepayment_of_reclaimGas_eq_ok {l l' : Ledger} {now : Instant} {caller : Key}
    {amount compute : Amount} {chain chain' : Chain} {receipt : Receipt}
    (h : l.reclaimGas Chain.executor now caller amount compute chain = (.ok receipt, l', chain')) :
    (∃ next, Policy.reclaim l.profile l.state amount now = .ok next ∧
      l' = { l with state := next }) ∧ l.OnlyRepayment amount chain chain' := by
  obtain ⟨-, call, next, signature, built, counted, carried, rfl⟩ := reclaimGas_of_ok h
  obtain ⟨hconserves, htransactions⟩ := Chain.conserves_execute carried
  exact ⟨⟨next, counted, rfl⟩, Chain.passed_execute_transfer built carried,
    Chain.tokensOwnedBy_execute_transfer_le built carried,
    Chain.lamportsOf_execute_transfer built carried, hconserves.owners, ⟨signature, htransactions⟩,
    hconserves.failing, hconserves.program⟩

namespace Sponsor

/-- From one chain to the next only the fee was taken from the sponsor. -/
structure Charged (s : Sponsor) (quote : FeeQuote) (chain chain' : Chain) : Prop where
  /-- The sponsor had it. -/
  covered : quote.lamports.toNat ≤ (chain.lamportsOf s.address).toNat
  /-- The sponsor has that much less, and nothing else has changed. -/
  taken : chain.OnlyLamports s.address
    ((chain.lamportsOf s.address).toNat - quote.lamports.toNat) chain'

/-- What can have been settled of the fee of a sponsor, with nothing else: the account and the chain
afterwards. -/
inductive FeeOnly (s : Sponsor) (quote : FeeQuote) (now : Instant) (l : Ledger) (chain : Chain) :
    Ledger → Chain → Prop
  /-- Nothing was. -/
  | nothing : FeeOnly s quote now l chain l chain
  /-- The sponsor was charged. -/
  | charged {chain' : Chain} (charge : s.Charged quote chain chain') :
      FeeOnly s quote now l chain l chain'
  /-- The sponsor was charged and then paid back, which the account has counted. -/
  | repaid {charged chain' : Chain} {next : State} (charge : s.Charged quote chain charged)
      (counted : Policy.reclaim l.profile l.state quote.token now = .ok next)
      (repayment : l.OnlyRepayment quote.token charged chain') :
      FeeOnly s quote now l chain { l with state := next } chain'

variable {s : Sponsor} {quote : FeeQuote} {l l' : Ledger} {now : Instant} {remaining : Amount}
  {chain chain' : Chain}

theorem charged_of_chargeFee
    (paid : chain.chargeFee s.address quote.lamports = (.ok (), chain')) :
    s.Charged quote chain chain' := by
  have hdebit := Chain.chargeFee_eq_ok_iff.mp paid
  exact ⟨Chain.isOk_debit_iff.mp (isOk_iff_exists.mpr ⟨_, hdebit⟩), Chain.onlyLamports_debit hdebit⟩

/-- **Settling a fee** leaves at most the fee. -/
theorem feeOnly_of_settlement {answer : Except Error (Option Receipt)}
    (h : s.Settlement Chain.executor l now quote remaining chain answer l' chain') :
    s.FeeOnly quote now l chain l' chain' := by
  cases h with
  | uncharged unpaid =>
    rw [Chain.eq_of_chargeFee_eq_error unpaid]
    exact .nothing
  | free paid => exact .charged (charged_of_chargeFee paid)
  | @claimed charged _ answer _ paid due claim =>
    have hcharged : s.Charged quote chain charged := charged_of_chargeFee paid
    cases answer with
    | error e =>
      obtain ⟨rfl, rfl⟩ := Ledger.eq_of_reclaimGas_eq_error claim
      exact .charged hcharged
    | ok receipt =>
      obtain ⟨⟨next, counted, rfl⟩, repayment⟩ := Ledger.onlyRepayment_of_reclaimGas_eq_ok claim
      exact .repaid hcharged counted repayment

end Sponsor

/-! ### Handling in steps -/

namespace Dispatcher

variable {σ : Type} {scheme : SignatureScheme} {x : Executor σ} {d : Dispatcher} {l : Ledger}
  {clock : Readings} {now : Instant} {op : Operation} {world : σ}
  {sponsored : Option (Sponsor × FeeQuote)} {s : Sponsor} {quote : FeeQuote}
  {execution : Except Error Receipt} {e : Error}

theorem handleAt_of_vetted (h : Vetted scheme x d l clock.vetting op world sponsored) :
    d.handleAt scheme x l clock op world =
      let ran := d.runCalls x l clock.running op.calls world
      let paid := d.payBack x clock.settling op sponsored ran.1 ran.2.1 ran.2.2
      (paid.1, { d with nextNonce := d.nextNonce + 1 }, paid.2.1, paid.2.2) := by
  rw [handleAt, vet_eq_ok_iff.mpr h]

/-- Paying the sponsor back makes of the account what settling the fee does. -/
theorem payBack_snd :
    (d.payBack x now op (some (s, quote)) execution l world).2 =
      (s.settle x l now quote (d.budget.remainingAfter op.calls.length) world).2 := by
  unfold payBack
  dsimp only
  rcases s.settle x l now quote (d.budget.remainingAfter op.calls.length) world with
    ⟨e | _, l', world'⟩
  · cases execution <;> rfl
  · rfl

/-- It ends in the error of the calls, or else in that of the settlement. -/
theorem payBack_eq_error_iff :
    (d.payBack x now op (some (s, quote)) execution l world).1 = .error e ↔
      execution = .error e ∨ execution.isOk = true ∧
        (s.settle x l now quote (d.budget.remainingAfter op.calls.length) world).1 = .error e := by
  unfold payBack
  dsimp only
  rcases s.settle x l now quote (d.budget.remainingAfter op.calls.length) world with
    ⟨e' | _, l', world'⟩
  · cases execution <;> simp
  · cases execution <;> simp [Except.map]

end Dispatcher

/-! ### Data for examples

A sponsor whose fee for one call is four lamports, which are four units of the small account's
token, and a chain on which both have something. -/

/-- A sponsor with small fees, known to the small account. -/
def Sponsor.thrifty : Sponsor := ⟨.repeating 3, ⟨1000, 3, 1⟩⟩

/-- What it quotes the small account for one call. -/
def FeeQuote.forOneCall : FeeQuote := ⟨4, 4⟩

/-- A dispatcher of the small account that has a sponsor. -/
def Dispatcher.sponsoring : Dispatcher := .fresh (.repeating 2) (some .thrifty) .standard

/-- The first operation of the small account, sponsored. -/
def Operation.sponsored (call : Call) : Operation :=
  ⟨.repeating 5, 0, [call], some Sponsor.thrifty.address, .zero⟩

/-- One that pays one lamport. -/
def Operation.payingOne : Operation := .sponsored (.native (.repeating 6) 1)

/-- A chain on which the small account has a hundred lamports, and eighteen units in its own token
account, and its sponsor has ten lamports. -/
def Chain.stocked : Chain where
  tokenProgram := Token.standardProgram
  lamports := [(.repeating 5, 100), (Sponsor.thrifty.address, 10)]
  tokenAccounts := [((Ledger.small 0).tokenAccount, ⟨.repeating 5, 18⟩)]
  failing := []
  transactions := []

end SpendGuard
