import SpendGuard.Proofs.Dispatcher.Repayment
import SpendGuard.Proofs.Ledger.Agreement

/-!
# What vetting foresees

A sponsored operation is vetted with one judgement of its calls and the fee together. Two judgements
follow: of the calls alone, when they are run, and of the fee, when the sponsor is paid back, on
whatever account the calls have left. Where the clock stands still and nothing else comes in
between, neither refuses what was foreseen. The calls alone are never more than the calls with the
fee; that the fee might have made the spend a large one does not matter, since a cooldown stops only
what comes after. The fee fits beside the calls if they were counted, and all the more if they were
not. So what is left to go wrong lies with the executor, with the charge to the sponsor, and with
building the transfer; and when nothing does, the calls and the fee are counted once each
(`Dispatcher.carried_out_as_foreseen`).
-/

namespace SpendGuard

namespace Ledger

variable {σ : Type} {x : Executor σ} {l : Ledger} {now : Instant} {caller : Key}
  {amount compute : Amount} {world : σ} {e : Error}

/-- What can still go wrong with a repayment that the account does not refuse. -/
inductive TransferFails (x : Executor σ) (l : Ledger) (amount : Amount) (world : σ) (e : Error) :
    Prop
  /-- The transfer cannot be built. -/
  | unbuilt (failed : Call.tokenTransfer l.profile.tokenProgram l.tokenAccount
      (l.profile.tokenAccountOf l.profile.sponsor) l.address amount = .error e)
  /-- The executor does not carry it out. -/
  | uncarried {call : Call} (built : Call.tokenTransfer l.profile.tokenProgram l.tokenAccount
      (l.profile.tokenAccountOf l.profile.sponsor) l.address amount = .ok call)
      (failed : (x.execute l.address [call] world).1 = .error e)

/-- When the sponsor asks, with enough compute left, for an amount that the policy accepts, only the
transfer can fail. -/
theorem reclaimGas_eq_error_iff (hcaller : caller = l.profile.sponsor)
    (hcompute : reclaimCompute ≤ compute)
    (hpolicy : (Policy.reclaim l.profile l.state amount now).isOk = true) :
    (l.reclaimGas x now caller amount compute world).1 = .error e ↔
      l.TransferFails x amount world e := by
  obtain ⟨next, judged⟩ := isOk_iff_exists.mp hpolicy
  have hauthorized : l.authorize caller .sponsor = .ok () := authorize_eq_ok_iff.mpr hcaller
  rw [reclaimGas, hauthorized]
  dsimp only
  rw [if_neg (UInt64.not_lt.mpr hcompute)]
  -- The transfer is built before the policy is asked.
  cases hbuilt : Call.tokenTransfer l.profile.tokenProgram l.tokenAccount
      (l.profile.tokenAccountOf l.profile.sponsor) l.address amount with
  | error e' =>
    constructor
    · rintro ⟨⟩
      exact .unbuilt hbuilt
    · rintro (failed | ⟨built, -⟩)
      · cases hbuilt.symm.trans failed
        rfl
      · cases hbuilt.symm.trans built
  | ok call =>
    dsimp only
    rw [judged]
    dsimp only
    rw [settle_fst, map_eq_error_iff]
    constructor
    · exact fun failed => .uncarried hbuilt failed
    · rintro (failed | ⟨built, failed⟩)
      · cases hbuilt.symm.trans failed
      · cases hbuilt.symm.trans built
        exact failed

end Ledger

/-! ### Settling -/

namespace Sponsor

variable {σ : Type} {x : Executor σ} {s : Sponsor} {l l' : Ledger} {now : Instant}
  {quote : FeeQuote} {remaining : Amount} {world world' : σ} {e : Error}

/-- Settling a fee fails when the sponsor cannot be charged, or else is not paid back. -/
theorem settle_eq_error_iff :
    (s.settle x l now quote remaining world).1 = .error e ↔
      (x.chargeFee s.address quote.lamports world).1 = .error e ∨
        quote.token ≠ 0 ∧ ∃ charged,
          x.chargeFee s.address quote.lamports world = (.ok (), charged) ∧
            (l.reclaimGas x now s.address quote.token remaining charged).1 = .error e := by
  unfold settle
  rcases x.chargeFee s.address quote.lamports world with ⟨e' | _, charged⟩
  · simp
  · by_cases hfree : quote.token = 0
    · simp [hfree]
    · dsimp only
      rw [if_neg hfree]
      rcases hclaim : l.reclaimGas x now s.address quote.token remaining charged with
        ⟨e' | receipt, l', world'⟩
      · simp [hfree, hclaim]
      · simp [hfree, hclaim]

/-- What can still go wrong with settling a fee that the account does not refuse. -/
inductive SettlementFails (x : Executor σ) (s : Sponsor) (l : Ledger) (quote : FeeQuote) (world : σ)
    (e : Error) : Prop
  /-- The sponsor cannot be charged. -/
  | uncharged (failed : (x.chargeFee s.address quote.lamports world).1 = .error e)
  /-- It is charged, and the transfer that would pay it back comes to nothing. -/
  | unpaid {charged : σ} (paid : x.chargeFee s.address quote.lamports world = (.ok (), charged))
      (due : quote.token ≠ 0) (fails : l.TransferFails x quote.token charged e)

/-- When the account names the sponsor, with enough compute left, and the policy accepts the fee,
only the charge and the transfer can fail. -/
theorem settle_eq_error_iff_of_accepted (hserved : l.profile.sponsor = s.address)
    (hcompute : Ledger.reclaimCompute ≤ remaining)
    (hpolicy : (Policy.reclaim l.profile l.state quote.token now).isOk = true) :
    (s.settle x l now quote remaining world).1 = .error e ↔
      s.SettlementFails x l quote world e := by
  have hreclaim (charged : σ) :
      (l.reclaimGas x now s.address quote.token remaining charged).1 = .error e ↔
        l.TransferFails x quote.token charged e :=
    Ledger.reclaimGas_eq_error_iff hserved.symm hcompute hpolicy
  rw [settle_eq_error_iff]
  constructor
  · rintro (failed | ⟨due, charged, paid, refused⟩)
    · exact .uncharged failed
    · exact .unpaid paid due ((hreclaim charged).mp refused)
  · rintro (failed | ⟨paid, due, fails⟩)
    · exact .inl failed
    · exact .inr ⟨due, _, paid, (hreclaim _).mpr fails⟩

/-- A fee that is settled is counted once, on top of what the windows hold that are not over. -/
theorem Settlement.spent_eq {answer : Option Receipt}
    (h : Settlement x s l now quote remaining world (.ok answer) l' world')
    (hcurrent : ∀ (asset : Asset) (period : Period),
      ¬ period.isOver (l.state.window asset period).anchor now)
    (asset : Asset) (period : Period) :
    (l'.state.window asset period).spent.toNat =
      (l.state.window asset period).spent.toNat +
        ((⟨0, quote.token⟩ : Spend).of asset).toNat := by
  generalize hanswer : (Except.ok answer : Except Error (Option Receipt)) = settled at h
  cases h with
  | uncharged => cases hanswer
  | free _ nothing => cases asset <;> simp [Spend.of, nothing]
  | @claimed _ _ claimed _ _ _ claim =>
    cases claimed with
    | error e' => cases hanswer
    | ok receipt =>
      obtain ⟨-, -, next, -, -, judged, -, rfl⟩ := Ledger.reclaimGas_of_ok claim
      have hgrown := (Policy.grown_of_reclaim judged asset period).1.spent
      rwa [Window.roll_of_not_isOver (hcurrent asset period)] at hgrown

end Sponsor

/-! ### Handling -/

namespace Dispatcher

variable {σ : Type} {scheme : SignatureScheme} {x : Executor σ} {d : Dispatcher} {l : Ledger}
  {now : Instant} {op : Operation} {calls : List Call} {world : σ} {s : Sponsor} {quote : FeeQuote}

/-- Calls that would pass are run as a batch, whether there is one or several. -/
theorem runCalls_of_preflight {spend : Spend}
    (foreseen : l.preflight now d.identity calls none = .ok spend) :
    d.runCalls x l now calls world = l.executeBatch x now d.identity calls world := by
  obtain ⟨-, moved, classified, -, -⟩ := Ledger.preflight_eq_ok_iff.mp foreseen
  unfold runCalls
  split
  · next call =>
    have hcall := Batch.classify_singleton_eq_ok_iff.mp classified
    exact Ledger.execute_eq_executeBatch fun _ => isOk_iff_exists.mpr ⟨moved, hcall⟩
  · rfl

/-- The calls of a vetted operation are counted as foreseen, and then it is for the executor. -/
theorem runCalls_of_vetted {sponsored : Option (Sponsor × FeeQuote)}
    (vetted : Vetted scheme x d l now op world sponsored) :
    ∃ moved accepted, Batch.classify l.profile.tokenProgram op.calls = .ok moved ∧
      Policy.spend l.profile l.state moved now = .ok accepted ∧
      d.runCalls x l now op.calls world =
        l.settle x accepted.state op.calls
          (fun signature => ⟨signature, moved, op.calls.length, now, accepted.armsCooldown⟩)
          world := by
  obtain ⟨total, judged⟩ := vetted.judged
  obtain ⟨moved, foreseen, -⟩ := Ledger.preflight_none_of_preflight judged
  obtain ⟨-, moved', classified, hmoved, -⟩ := Ledger.preflight_eq_ok_iff.mp foreseen
  obtain rfl : moved' = moved := Option.some.inj ((Spend.add?_nothing moved').symm.trans hmoved)
  obtain ⟨accepted, haccepted, hbatch⟩ := Ledger.executeBatch_of_preflight_eq_ok x world foreseen
  exact ⟨moved', accepted, classified, haccepted, (runCalls_of_preflight foreseen).trans hbatch⟩

/-- An operation succeeds when its calls do and the fee is settled. -/
theorem payBack_eq_ok_iff {execution : Except Error Receipt} {receipt : OperationReceipt} :
    (d.payBack x now op (some (s, quote)) execution l world).1 = .ok receipt ↔
      ∃ carried, execution = .ok carried ∧
        (s.settle x l now quote (d.budget.remainingAfter op.calls.length) world).1.isOk = true ∧
        receipt = ⟨op.nonce, carried, some quote⟩ := by
  unfold payBack
  dsimp only
  rcases s.settle x l now quote (d.budget.remainingAfter op.calls.length) world with
    ⟨e | _, l', world'⟩
  · cases execution <;> simp
  · cases execution <;> simp [Except.map, eq_comm]

/-- Handling a sponsored operation counts the calls and the fee, each once. -/
theorem spent_handle (vetted : Vetted scheme x d l now op world (some (s, quote)))
    (hnow : now < Instant.last) {receipt : OperationReceipt}
    (hhandled : (d.handle scheme x l now op world).1 = .ok receipt) :
    Batch.classify l.profile.tokenProgram op.calls = .ok receipt.execution.spend ∧
      receipt.fee = some quote ∧
      ∀ (asset : Asset) (period : Period),
        ((d.handle scheme x l now op world).2.2.1.state.window asset period).spent.toNat =
          ((l.state.roll now).window asset period).spent.toNat +
            (receipt.execution.spend.of asset).toNat +
              ((⟨0, quote.token⟩ : Spend).of asset).toNat := by
  obtain ⟨moved, accepted, classified, judged, hran⟩ := runCalls_of_vetted vetted
  have hphases : d.handle scheme x l now op world = _ := handleAt_of_vetted vetted
  rw [hphases] at hhandled ⊢
  dsimp only at hhandled ⊢
  rw [payBack_snd]
  obtain ⟨carried, hcarried, hsettled, rfl⟩ := payBack_eq_ok_iff.mp hhandled
  rcases hexecuted : x.execute l.address op.calls world with ⟨e | signature, world₁⟩
  · rw [hran, Ledger.settle_of_error hexecuted] at hcarried
    cases hcarried
  rw [hran, Ledger.settle_of_ok hexecuted] at hcarried hsettled ⊢
  cases hcarried
  refine ⟨classified, rfl, fun asset period => ?_⟩
  -- The calls have rolled every window, so that the fee finds none that is over.
  have hcounted := fun asset period => (Policy.grown_of_spend judged asset period).1
  have hcurrent (asset : Asset) (period : Period) :
      ¬ period.isOver (accepted.state.window asset period).anchor now := by
    rw [(hcounted asset period).anchor]
    exact Window.not_isOver_roll hnow _
  obtain ⟨repayment, hrepaid⟩ := isOk_iff_exists.mp hsettled
  have hsettlement := s.settlement_settle x { l with state := accepted.state } now quote
    (d.budget.remainingAfter op.calls.length) world₁
  rw [hrepaid] at hsettlement
  calc _ = (accepted.state.window asset period).spent.toNat +
        ((⟨0, quote.token⟩ : Spend).of asset).toNat := hsettlement.spent_eq hcurrent asset period
    _ = _ := by rw [(hcounted asset period).spent, ← State.window_roll]

/-- **What was foreseen is carried out.** When a sponsored operation passes vetting, on a clock that
stands still and with nothing else in between:

* its calls are not refused: they fail exactly when the executor does, and with its error;
* whether they have failed or not, the repayment is not refused: it fails exactly when the transfer
  cannot be built or the executor does not carry it out, and settling the fee moreover only when the
  sponsor cannot be charged;
* when the operation succeeds, the calls and the fee, which is within the sponsor's cap, are each
  counted once on top of what the windows hold as of now. -/
theorem carried_out_as_foreseen
    (hvet : d.vet scheme x l now op world = .ok (some (s, quote))) (hnow : now < Instant.last) :
    let ran := d.runCalls x l now op.calls world
    let remaining := d.budget.remainingAfter op.calls.length
    let after := d.handle scheme x l now op world
    (∀ e, ran.1 = .error e ↔ (x.execute l.address op.calls world).1 = .error e) ∧
      (∀ charged e,
        (ran.2.1.reclaimGas x now s.address quote.token remaining charged).1 = .error e ↔
          ran.2.1.TransferFails x quote.token charged e) ∧
      (∀ e, (s.settle x ran.2.1 now quote remaining ran.2.2).1 = .error e ↔
        s.SettlementFails x ran.2.1 quote ran.2.2 e) ∧
      ∀ receipt, after.1 = .ok receipt →
        Batch.classify l.profile.tokenProgram op.calls = .ok receipt.execution.spend ∧
          receipt.fee = some quote ∧ quote.token ≤ s.schedule.maxFeePerOp ∧
          ∀ (asset : Asset) (period : Period),
            (after.2.2.1.state.window asset period).spent.toNat =
              ((l.state.roll now).window asset period).spent.toNat +
                (receipt.execution.spend.of asset).toNat +
                  ((⟨0, quote.token⟩ : Spend).of asset).toNat := by
  intro ran remaining after
  have vetted := vet_eq_ok_iff.mp hvet
  cases vetted.fee with
  | sponsored _ _ compute valid =>
  obtain ⟨hserved, -, hcap, -⟩ := Sponsor.validate_eq_ok_iff.mp valid
  -- Running the calls has changed neither who the sponsor is nor that the policy accepts its fee.
  have hsponsor : ran.2.1.profile.sponsor = s.address := by
    obtain ⟨request, -, houtcome⟩ := exists_outcome_runCalls x d l now op.calls world
    rw [houtcome.sameAccount.profile]
    exact hserved
  have hpolicy :
      (Policy.reclaim ran.2.1.profile ran.2.1.state quote.token now).isOk = true := by
    obtain ⟨total, judged⟩ := vetted.judged
    exact isOk_reclaim_runCalls judged (Int64.le_refl now) (Int64.le_refl now)
  refine ⟨fun e => ?_, fun charged e => ?_, fun e => ?_, fun receipt hhandled => ?_⟩
  · obtain ⟨moved, accepted, -, -, hran⟩ := runCalls_of_vetted vetted
    have hanswer : ran.1 = _ := congrArg Prod.fst hran
    rw [hanswer, Ledger.settle_fst, map_eq_error_iff]
  · exact Ledger.reclaimGas_eq_error_iff hsponsor.symm compute hpolicy
  · exact Sponsor.settle_eq_error_iff_of_accepted hsponsor compute hpolicy
  · obtain ⟨classified, hfee, hspent⟩ := spent_handle vetted hnow hhandled
    exact ⟨classified, hfee, hcap, hspent⟩

/-- An operation that pays eight lamports, whose fee would make it a large spend. -/
def payingEight : Operation := .sponsored (.native (.repeating 6) 8)

/-- Its eight lamports and the four units of its fee are counted, in every window, and it has not
begun a cooldown. -/
theorem payingEight_as_foreseen :
    Dispatcher.sponsoring.vet .credulous Chain.executor (.small 0) 60 payingEight .stocked =
        .ok (some (.thrifty, .forOneCall)) ∧
      (60 : Instant) < Instant.last ∧
      Cooldown.isLarge ⟨8, FeeQuote.forOneCall.token⟩ Profile.small.exchangeRate
        Profile.small.limits.token.daily = true ∧
      let after :=
        Dispatcher.sponsoring.handle .credulous Chain.executor (.small 0) 60 payingEight .stocked
      after.2.2.1.state.lastLargeSpend = none ∧
        ∃ receipt, after.1 = .ok receipt ∧ receipt.execution.spend = ⟨8, 0⟩ ∧
          ∀ (asset : Asset) (period : Period),
            (after.2.2.1.state.window asset period).spent.toNat =
              ((⟨8, 4⟩ : Spend).of asset).toNat := by
  have hvet : Dispatcher.sponsoring.vet .credulous Chain.executor (.small 0) 60 payingEight
      .stocked = .ok (some (.thrifty, .forOneCall)) := by decide +kernel
  have hnow : (60 : Instant) < Instant.last := by decide
  have hdone : (Dispatcher.sponsoring.handle .credulous Chain.executor (.small 0) 60 payingEight
        .stocked).1.isOk = true ∧
      (Dispatcher.sponsoring.handle .credulous Chain.executor (.small 0) 60 payingEight
        .stocked).2.2.1.state.lastLargeSpend = none := by decide +kernel
  obtain ⟨receipt, hreceipt⟩ := isOk_iff_exists.mp hdone.1
  obtain ⟨classified, -, -, hspent⟩ :=
    (carried_out_as_foreseen hvet hnow).2.2.2 receipt hreceipt
  have hmoved : Batch.classify (Ledger.small 0).profile.tokenProgram payingEight.calls =
      .ok ⟨8, 0⟩ := by decide
  have hspend : receipt.execution.spend = ⟨8, 0⟩ := Except.ok.inj (classified.symm.trans hmoved)
  rw [hspend] at hspent
  refine ⟨hvet, hnow, by decide, hdone.2, receipt, hreceipt, hspend, fun asset period => ?_⟩
  rw [hspent asset period]
  cases asset <;> cases period <;> decide

end Dispatcher

end SpendGuard
