import SpendGuard.Proofs.Dispatcher.Settlement

/-!
# What an error leaves behind

An operation goes through three phases, and only the ledger's part in each is undone when it fails:
a request either happens or leaves nothing. So an error can come too late. When a sponsored
operation has run and the fee cannot be settled afterwards, the answer is the error of the
settlement, and the calls stand (`Dispatcher.paid_despite_error`). This is the only such case. An
error of the calls takes precedence, and then nothing of the calls is left, at most the fee; and
nothing at all is left of an operation that was refused, or that nobody sponsors
(`Dispatcher.leftover_of_error`).
-/

namespace SpendGuard

namespace Dispatcher

variable {scheme : SignatureScheme} {d : Dispatcher} {l : Ledger} {clock : Readings}
  {op : Operation} {chain : Chain} {e : Error}

/-- What can be left, of an account and of a chain, after an operation that ended in an error. -/
inductive Leftover (d : Dispatcher) (l : Ledger) (clock : Readings) (op : Operation) (chain : Chain)
    (e : Error) : Ledger → Chain → Prop
  /-- Both are what they were. -/
  | nothing : Leftover d l clock op chain e l chain
  /-- The calls failed, and the fee was settled as if there had been none. -/
  | fee {s : Sponsor} {quote : FeeQuote} {l' : Ledger} {chain' : Chain}
      (fronted : Sponsored Chain.executor d l op chain (some (s, quote)))
      (failed : (d.runCalls Chain.executor l clock.running op.calls chain).1 = .error e)
      (only : s.FeeOnly quote clock.settling l chain l' chain') :
      Leftover d l clock op chain e l' chain'
  /-- The calls ran and are counted, but the fee could not be settled. At most the sponsor was
  charged since. -/
  | calls {s : Sponsor} {quote : FeeQuote} {receipt : Receipt} {l₁ : Ledger} {chain₁ chain' : Chain}
      (fronted : Sponsored Chain.executor d l op chain (some (s, quote)))
      (ran : d.runCalls Chain.executor l clock.running op.calls chain = (.ok receipt, l₁, chain₁))
      (unsettled : (s.settle Chain.executor l₁ clock.settling quote
        (d.budget.remainingAfter op.calls.length) chain₁).1 = .error e)
      (since : chain' = chain₁ ∨ chain₁.debit s.address quote.lamports = .ok chain') :
      Leftover d l clock op chain e l₁ chain'

/-- A settlement that fails has left the account alone, and at most charged the sponsor. -/
theorem eq_or_debit_of_settlement_error {s : Sponsor} {quote : FeeQuote} {now : Instant}
    {remaining : Amount} {l' : Ledger} {chain' : Chain}
    (h : s.Settlement Chain.executor l now quote remaining chain (.error e) l' chain') :
    l' = l ∧ (chain' = chain ∨ chain.debit s.address quote.lamports = .ok chain') := by
  generalize hanswer : (Except.error e : Except Error (Option Receipt)) = answer at h
  cases h with
  | uncharged unpaid => exact ⟨rfl, .inl (Chain.eq_of_chargeFee_eq_error unpaid)⟩
  | free => cases hanswer
  | @claimed _ _ answer _ paid due claim =>
    cases answer with
    | ok receipt => cases hanswer
    | error e' =>
      obtain ⟨rfl, rfl⟩ := Ledger.eq_of_reclaimGas_eq_error claim
      exact ⟨rfl, .inr (Chain.chargeFee_eq_ok_iff.mp paid)⟩

/-- **What an error leaves behind.** Whenever handling an operation ends in an error, nothing is
left of it, or only the fee of its sponsor, or else the error came from settling that fee after the
calls had run. -/
theorem leftover_of_error (h : (d.handleAt scheme Chain.executor l clock op chain).1 = .error e) :
    Leftover d l clock op chain e (d.handleAt scheme Chain.executor l clock op chain).2.2.1
      (d.handleAt scheme Chain.executor l clock op chain).2.2.2 := by
  by_cases hvetted : ∃ sponsored,
      Vetted scheme Chain.executor d l clock.vetting op chain sponsored
  swap
  · obtain ⟨e', hrefused⟩ := handleAt_of_not_vetted (not_exists.mp hvetted)
    rw [hrefused]
    exact .nothing
  obtain ⟨sponsored, vetted⟩ := hvetted
  rw [handleAt_of_vetted vetted] at h ⊢
  rcases hran : d.runCalls Chain.executor l clock.running op.calls chain with
    ⟨execution, l₁, chain₁⟩
  rw [hran] at h
  dsimp only at h ⊢
  cases sponsored with
  | none =>
    -- Without a sponsor the answer is that of the calls.
    cases execution with
    | ok receipt => cases h
    | error e' =>
      obtain ⟨rfl, rfl⟩ := eq_of_runCalls_eq_error hran
      exact .nothing
  | some fee =>
    obtain ⟨s, quote⟩ := fee
    have hsettled := s.settlement_settle Chain.executor l₁ clock.settling quote
      (d.budget.remainingAfter op.calls.length) chain₁
    rw [payBack_snd]
    rcases payBack_eq_error_iff.mp h with rfl | ⟨hok, unsettled⟩
    · obtain ⟨rfl, rfl⟩ := eq_of_runCalls_eq_error hran
      exact .fee vetted.fee (congrArg Prod.fst hran) (Sponsor.feeOnly_of_settlement hsettled)
    · obtain ⟨receipt, rfl⟩ := isOk_iff_exists.mp hok
      rw [unsettled] at hsettled
      obtain ⟨hledger, since⟩ := eq_or_debit_of_settlement_error hsettled
      rw [hledger]
      exact .calls vetted.fee hran unsettled since

/-- A sponsor without lamports cannot be charged: the operation ends in an error after the lamport
was paid and counted. -/
theorem paid_despite_error :
    let chain := { Chain.stocked with lamports := [(.repeating 5, 100)] }
    let after :=
      Dispatcher.sponsoring.handle .credulous Chain.executor (.small 0) 60 .payingOne chain
    after.1 = .error (.insufficientBalance .sol 0 4) ∧
      chain.lamportsOf (Ledger.small 0).address = 100 ∧
      after.2.2.2.lamportsOf (Ledger.small 0).address = 99 ∧
      after.2.2.2.lamportsOf (.repeating 6) = 1 ∧
      after.2.2.1.state.sol = ⟨1, 1⟩ := by
  decide +kernel

/-- When the recipient turns the payment back, only the fee is left of the operation: the sponsor
has paid four of its ten lamports and received four units. -/
theorem feeOnly_payingOne :
    let chain := Chain.stocked.failCallsTo (.repeating 6)
    let after := Dispatcher.sponsoring.handleAt .credulous Chain.executor (.small 0) ⟨60, 60, 61⟩
      .payingOne chain
    after.1 = .error (.callFailed (.inCall 0 (.reverted (.repeating 6)))) ∧
      after.2.2.2.lamportsOf Sponsor.thrifty.address = 6 ∧
      after.2.2.2.tokensIn (Profile.small.tokenAccountOf Sponsor.thrifty.address) = 4 ∧
      Sponsor.thrifty.FeeOnly .forOneCall 61 (.small 0) chain after.2.2.1 after.2.2.2 := by
  intro chain after
  obtain ⟨herror, hpaid, hrepaid⟩ :
      after.1 = .error (.callFailed (.inCall 0 (.reverted (.repeating 6)))) ∧
        after.2.2.2.lamportsOf Sponsor.thrifty.address = 6 ∧
        after.2.2.2.tokensIn (Profile.small.tokenAccountOf Sponsor.thrifty.address) = 4 := by
    decide +kernel
  -- Nothing else can have come of it: the calls fail, and the fee is the quoted one.
  have hfacts : (Dispatcher.sponsoring.runCalls Chain.executor (.small 0) 60
        Operation.payingOne.calls chain).1.isOk = false ∧
      Sponsor.thrifty.validate Chain.executor (.small 0) 1 chain = .ok .forOneCall := by
    decide +kernel
  refine ⟨herror, hpaid, hrepaid, ?_⟩
  have hleft := leftover_of_error herror
  generalize after.2.2.1 = l', after.2.2.2 = chain' at hleft ⊢
  cases hleft with
  | nothing => exact .nothing
  | fee fronted failed only =>
    cases fronted with
    | sponsored named known compute valid =>
      cases known
      cases hfacts.2.symm.trans valid
      exact only
  | calls fronted ran =>
    rw [ran] at hfacts
    cases hfacts.1

end Dispatcher

end SpendGuard
