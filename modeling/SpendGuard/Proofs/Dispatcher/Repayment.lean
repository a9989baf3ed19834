import SpendGuard.Proofs.Dispatcher.Settlement
import SpendGuard.Proofs.Ledger.Preflight

/-!
# Whether the sponsor gets its money back

A sponsor agrees to front a fee when the account has enough units to pay it back, and the ledger
accepts the calls together with the fee. The second check lasts: on a clock that runs forward the
policy does not refuse the repayment. The first does not, since it is made before the calls run and
does not take off what they move. So a sponsor that was charged is paid back exactly when nothing
stands in the way of the transfer *after* the calls (`Dispatcher.sponsor_repaid_iff`), and an
operation that moves the account's units away leaves its sponsor out of pocket
(`Dispatcher.sponsor_out_of_pocket`).
-/

namespace SpendGuard

/-! ### What the sponsor checks -/

namespace Sponsor

variable {σ : Type} {x : Executor σ} {s : Sponsor} {l : Ledger} {callCount : Nat} {world : σ}
  {quote : FeeQuote}

/-- A sponsor agrees when the account names it, the fee is within its cap, and the account holds as
many units as it would owe. -/
theorem validate_eq_ok_iff :
    s.validate x l callCount world = .ok quote ↔
      l.profile.sponsor = s.address ∧
      s.schedule.quote l.profile.exchangeRate callCount = .ok quote ∧
      quote.token ≤ s.schedule.maxFeePerOp ∧
      ∃ balance, x.tokensIn l.tokenAccount world = .ok balance ∧ quote.token ≤ balance := by
  simp only [validate, bind, Except.bind, pure, Except.pure, throw, throwThe, MonadExceptOf.throw]
  constructor
  · intro h
    split at h
    · cases h
    next hsponsor =>
    split at h
    · cases h
    next quote' hquote =>
    split at h
    · cases h
    next hcap =>
    split at h
    · cases h
    next balance hbalance =>
    split at h
    · cases h
    next hcovered =>
    cases h
    exact ⟨not_not.mp hsponsor, hquote, UInt64.not_lt.mp hcap, balance, hbalance,
      UInt64.not_lt.mp hcovered⟩
  · rintro ⟨hsponsor, hquote, hcap, balance, hbalance, hcovered⟩
    simp [hsponsor, hquote, hbalance, UInt64.not_lt.mpr hcap, UInt64.not_lt.mpr hcovered]

end Sponsor

/-! ### Paying back -/

namespace Ledger

variable {l : Ledger} {now : Instant} {chain chain' charged : Chain} {amount compute : Amount}

/-- The sponsor was paid back: so many units went from the account's own token account to that of
its sponsor. -/
structure Repaid (l : Ledger) (amount : Amount) (chain chain' : Chain) : Prop where
  /-- The sponsor has received them. -/
  credited : (chain'.tokensIn (l.profile.tokenAccountOf l.profile.sponsor)).toNat =
    (chain.tokensIn (l.profile.tokenAccountOf l.profile.sponsor)).toNat + amount.toNat
  /-- They came from the account. -/
  debited : (chain'.tokensIn l.tokenAccount).toNat + amount.toNat =
    (chain.tokensIn l.tokenAccount).toNat

/-- Nothing on the chain stands in the way of paying the sponsor back. -/
structure CanRepay (l : Ledger) (chain : Chain) (amount : Amount) : Prop where
  /-- Transfers can be built for the token program. -/
  standard : l.profile.tokenProgram = Token.standardProgram
  /-- The transfer would be carried out. -/
  transferable : chain.Transferable l.tokenAccount (l.profile.tokenAccountOf l.profile.sponsor)
    l.address amount

instance : Decidable (l.CanRepay chain amount) :=
  decidable_of_iff
    (l.profile.tokenProgram = Token.standardProgram ∧
      chain.Transferable l.tokenAccount (l.profile.tokenAccountOf l.profile.sponsor) l.address
        amount)
    ⟨fun ⟨standard, transferable⟩ => ⟨standard, transferable⟩,
      fun ⟨standard, transferable⟩ => ⟨standard, transferable⟩⟩

/-- Repayments concern the token accounts only. -/
theorem CanRepay.of_tokenAccounts_eq {lamports : Table Key Amount} :
    l.CanRepay { chain with lamports := lamports } amount ↔ l.CanRepay chain amount :=
  ⟨fun h => ⟨h.standard, h.transferable.running, h.transferable.owned, h.transferable.covered,
      h.transferable.room⟩,
    fun h => ⟨h.standard, h.transferable.running, h.transferable.owned, h.transferable.covered,
      h.transferable.room⟩⟩

/-- The sponsor is paid back on its request when the policy and the chain allow it. -/
theorem isOk_reclaimGas_chain_iff (hprogram : chain.tokenProgram = l.profile.tokenProgram)
    (hapart : l.profile.tokenAccountOf l.profile.sponsor ≠ l.tokenAccount)
    (hcompute : reclaimCompute ≤ compute) :
    (l.reclaimGas Chain.executor now l.profile.sponsor amount compute chain).1.isOk = true ↔
      (Policy.reclaim l.profile l.state amount now).isOk = true ∧ l.CanRepay chain amount := by
  rw [isOk_reclaimGas_iff]
  constructor
  · rintro ⟨-, -, judged, call, built, carried⟩
    refine ⟨judged, (Call.tokenTransfer_eq_ok_iff.mp built).1, ?_⟩
    rw [← hprogram] at built
    exact (Chain.isOk_execute_transfer_iff built hapart).mp carried
  · rintro ⟨judged, standard, transferable⟩
    obtain ⟨call, built⟩ : ∃ call, Call.tokenTransfer l.profile.tokenProgram l.tokenAccount
        (l.profile.tokenAccountOf l.profile.sponsor) l.address amount = .ok call :=
      ⟨_, Call.tokenTransfer_eq_ok_iff.mpr ⟨standard, rfl⟩⟩
    refine ⟨rfl, hcompute, judged, call, built, ?_⟩
    rw [← hprogram] at built
    exact (Chain.isOk_execute_transfer_iff built hapart).mpr transferable

/-- A repayment that succeeds pays the sponsor back. -/
theorem repaid_of_reclaimGas_eq_ok {receipt : Receipt} {l' : Ledger} {caller : Key}
    (hprogram : chain.tokenProgram = l.profile.tokenProgram)
    (hapart : l.profile.tokenAccountOf l.profile.sponsor ≠ l.tokenAccount)
    (h : l.reclaimGas Chain.executor now caller amount compute chain = (.ok receipt, l', chain')) :
    l.Repaid amount chain chain' := by
  have hpassed := (onlyRepayment_of_reclaimGas_eq_ok h).2.passed
  rw [if_pos hprogram.symm] at hpassed
  exact ⟨hpassed.arrived hapart, hpassed.left hapart⟩

end Ledger

/-! ### Settling -/

/-- A sponsor that was charged is paid back exactly when there is nothing to pay or the policy and
the chain allow it. -/
theorem Sponsor.Settlement.repaid_iff {s : Sponsor} {l l' : Ledger} {now : Instant}
    {quote : FeeQuote} {remaining : Amount} {chain chain' : Chain}
    {answer : Except Error (Option Receipt)}
    (h : s.Settlement Chain.executor l now quote remaining chain answer l' chain')
    (hsponsor : l.profile.sponsor = s.address) (hcompute : Ledger.reclaimCompute ≤ remaining)
    (hprogram : chain.tokenProgram = l.profile.tokenProgram)
    (hapart : l.profile.tokenAccountOf l.profile.sponsor ≠ l.tokenAccount)
    (hcharged : (chain.lamportsOf s.address).toNat =
      (chain'.lamportsOf s.address).toNat + quote.lamports.toNat) :
    l.Repaid quote.token chain chain' ↔
      quote.token = 0 ∨ (Policy.reclaim l.profile l.state quote.token now).isOk = true ∧
        l.CanRepay chain quote.token := by
  cases h with
  | uncharged unpaid =>
    -- Only a fee of nothing leaves the sponsor what it had, and that can always be charged.
    obtain rfl := Chain.eq_of_chargeFee_eq_error unpaid
    have hcharge := Chain.isOk_chargeFee_iff.mpr
      (show quote.lamports.toNat ≤ (chain'.lamportsOf s.address).toNat by omega)
    rw [show chain'.chargeFee s.address quote.lamports = _ from unpaid, isOk_error] at hcharge
    cases hcharge
  | free paid nothing =>
    obtain ⟨table, rfl⟩ := Chain.exists_lamports_of_chargeFee paid
    refine iff_of_true ⟨?_, ?_⟩ (.inl nothing)
    · rw [nothing]
      rfl
    · rw [nothing]
      rfl
  | @claimed charged _ answer _ paid due claim =>
    obtain ⟨table, rfl⟩ := Chain.exists_lamports_of_chargeFee paid
    rw [← hsponsor] at claim
    have hclaim : (l.reclaimGas Chain.executor now l.profile.sponsor quote.token remaining
        { chain with lamports := table }).1.isOk = true ↔ _ :=
      Ledger.isOk_reclaimGas_chain_iff hprogram hapart hcompute
    rw [claim, Ledger.CanRepay.of_tokenAccounts_eq] at hclaim
    rw [or_iff_right due, ← hclaim]
    cases answer with
    | error e =>
      obtain ⟨-, rfl⟩ := Ledger.eq_of_reclaimGas_eq_error claim
      refine iff_of_false (fun hrepaid => due ?_) (by simp)
      have hcredited : (chain.tokensIn (l.profile.tokenAccountOf l.profile.sponsor)).toNat =
          (chain.tokensIn (l.profile.tokenAccountOf l.profile.sponsor)).toNat + quote.token.toNat :=
        hrepaid.credited
      rw [← UInt64.toNat_inj, UInt64.toNat_zero]
      omega
    | ok receipt =>
      have hrepaid : l.Repaid quote.token { chain with lamports := table } chain' :=
        Ledger.repaid_of_reclaimGas_eq_ok hprogram hapart claim
      exact iff_of_true ⟨hrepaid.credited, hrepaid.debited⟩ rfl

namespace Dispatcher

variable {σ : Type} {scheme : SignatureScheme} {d : Dispatcher} {l : Ledger} {clock : Readings}
  {op : Operation} {chain : Chain} {s : Sponsor} {quote : FeeQuote}

/-- On a clock that runs forward the policy does not refuse the fee that was vetted with the
calls. -/
theorem isOk_reclaim_runCalls {x : Executor σ} {world : σ} {total : Spend}
    {vetting running settling : Instant}
    (judged : l.preflight vetting d.identity op.calls (some quote.token) = .ok total)
    (hrunning : vetting ≤ running) (hsettling : running ≤ settling) :
    let ran := d.runCalls x l running op.calls world
    (Policy.reclaim ran.2.1.profile ran.2.1.state quote.token settling).isOk = true := by
  rcases hran : d.runCalls x l running op.calls world with ⟨e | receipt, l₁, world₁⟩
  · dsimp only
    rw [ledger_eq_of_runCalls_eq_error hran]
    exact Ledger.isOk_reclaim_of_preflight judged (Int64.le_trans hrunning hsettling)
  · obtain ⟨spend, accepted, signature, classified, hjudged, -, rfl⟩ := runCalls_of_ok hran
    dsimp only
    exact Ledger.isOk_reclaim_of_preflight_of_spend judged classified hjudged hrunning

/-- **When a sponsor is paid back.** -/
theorem sponsor_repaid_iff
    (vetted : Vetted scheme Chain.executor d l clock.vetting op chain (some (s, quote)))
    (hprogram : chain.tokenProgram = l.profile.tokenProgram) (hsponsor : s.address ≠ l.address)
    (hrecipients : ∀ call ∈ op.calls, s.address ≠ call.target)
    (hapart : l.profile.tokenAccountOf s.address ≠ l.tokenAccount)
    (hcharged : (chain.lamportsOf s.address).toNat =
      ((d.handleAt scheme Chain.executor l clock op chain).2.2.2.lamportsOf s.address).toNat +
        quote.lamports.toNat) :
    let ran := d.runCalls Chain.executor l clock.running op.calls chain
    let after := d.handleAt scheme Chain.executor l clock op chain
    (ran.2.1.Repaid quote.token ran.2.2 after.2.2.2 ↔
      quote.token = 0 ∨
        (Policy.reclaim ran.2.1.profile ran.2.1.state quote.token clock.settling).isOk = true ∧
          ran.2.1.CanRepay ran.2.2 quote.token) ∧
      (clock.vetting ≤ clock.running → clock.running ≤ clock.settling →
        (Policy.reclaim ran.2.1.profile ran.2.1.state quote.token clock.settling).isOk = true) := by
  intro ran after
  cases vetted.fee with
  | sponsored named known compute valid =>
  obtain ⟨hserved, -⟩ := Sponsor.validate_eq_ok_iff.mp valid
  rw [← hserved] at hapart
  obtain ⟨request, hcalls, houtcome⟩ :=
    exists_outcome_runCalls Chain.executor d l clock.running op.calls chain
  have hsame := houtcome.sameAccount
  have hkept := houtcome.lamportsOf_of_bystander hcalls hsponsor hrecipients
  have hsettled : after.2.2 = (s.settle Chain.executor ran.2.1 clock.settling quote
      (d.budget.remainingAfter op.calls.length) ran.2.2).2 := by
    have hhandled : after = _ := handleAt_of_vetted vetted
    rw [hhandled]
    exact payBack_snd
  have hsettlement := s.settlement_settle Chain.executor ran.2.1 clock.settling quote
    (d.budget.remainingAfter op.calls.length) ran.2.2
  rw [← hsettled] at hsettlement
  refine ⟨hsettlement.repaid_iff ?_ compute ?_ ?_ ?_, fun hrunning hsettling => ?_⟩
  · rw [hsame.profile]
    exact hserved
  · rw [hsame.profile, ← hprogram]
    exact houtcome.tokenProgram_eq
  · rw [Ledger.tokenAccount, hsame.profile, hsame.address]
    exact hapart
  · rw [hkept]
    exact hcharged
  · obtain ⟨total, judged⟩ := vetted.judged
    exact isOk_reclaim_runCalls judged hrunning hsettling

/-- The fee of an operation that leaves the account enough is paid back. -/
theorem payingOne_repaid :
    let ran := Dispatcher.sponsoring.runCalls Chain.executor (.small 0) 60 Operation.payingOne.calls
      .stocked
    let after := Dispatcher.sponsoring.handleAt .credulous Chain.executor (.small 0) ⟨60, 60, 61⟩
      .payingOne .stocked
    Vetted .credulous Chain.executor .sponsoring (.small 0) 60 .payingOne .stocked
        (some (.thrifty, .forOneCall)) ∧
      (Chain.stocked.lamportsOf Sponsor.thrifty.address).toNat =
        (after.2.2.2.lamportsOf Sponsor.thrifty.address).toNat +
          FeeQuote.forOneCall.lamports.toNat ∧
      ran.2.1.Repaid FeeQuote.forOneCall.token ran.2.2 after.2.2.2 := by
  have vetted : Vetted .credulous Chain.executor .sponsoring (.small 0)
      (⟨60, 60, 61⟩ : Readings).vetting .payingOne .stocked (some (.thrifty, .forOneCall)) :=
    vet_eq_ok_iff.mp (by decide +kernel)
  have hcharged : (Chain.stocked.lamportsOf Sponsor.thrifty.address).toNat =
      ((Dispatcher.sponsoring.handleAt .credulous Chain.executor (.small 0) ⟨60, 60, 61⟩
        .payingOne .stocked).2.2.2.lamportsOf Sponsor.thrifty.address).toNat +
          FeeQuote.forOneCall.lamports.toNat := by decide +kernel
  have hpaid := sponsor_repaid_iff vetted rfl (by decide) (by decide) (by decide +kernel) hcharged
  have hpolicy := hpaid.2 (by decide) (by decide)
  exact ⟨vetted, hcharged, hpaid.1.mpr (.inr ⟨hpolicy, by decide +kernel⟩)⟩

/-- An operation that sends sixteen of the account's eighteen units away. -/
def drain : Operation :=
  .sponsored ⟨Token.standardProgram, 0, Token.Instruction.transferData 16,
    [(Ledger.small 0).tokenAccount, .repeating 8, .repeating 5]⟩

/-- The two units that are left do not cover the fee of four: the sponsor has paid four lamports and
receives nothing. -/
theorem sponsor_out_of_pocket :
    let after := Dispatcher.sponsoring.handle .credulous Chain.executor (.small 0) 60 drain .stocked
    Dispatcher.sponsoring.vet .credulous Chain.executor (.small 0) 60 drain .stocked =
        .ok (some (.thrifty, .forOneCall)) ∧
      Sponsor.thrifty.address ≠ (Ledger.small 0).address ∧
      (∀ call ∈ drain.calls, Sponsor.thrifty.address ≠ call.target ∧
        Sponsor.thrifty.address ∉ call.accounts) ∧
      Chain.stocked.lamportsOf Sponsor.thrifty.address = 10 ∧
      after.2.2.2.lamportsOf Sponsor.thrifty.address = 6 ∧
      after.2.2.2.tokensIn (Profile.small.tokenAccountOf Sponsor.thrifty.address) = 0 := by
  decide +kernel

end Dispatcher

end SpendGuard
