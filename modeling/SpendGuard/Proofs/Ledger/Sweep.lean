import SpendGuard.Proofs.Chain.Conservation
import SpendGuard.Proofs.Ledger.Exit
import SpendGuard.Proofs.Ledger.Outflow

/-!
# A withdrawal sweeps everything

A withdrawal reads both balances of the account and sends what it found, so what it leaves behind
is nothing. On an in-memory chain a sweep sends the lamports and then the units
(`Ledger.sends_of_sweepCalls`). With a recipient whose wallet and token account are not the
account's this empties both (`Ledger.withdrawal_sweeps_everything`).
-/

namespace SpendGuard

namespace Ledger

variable {l : Ledger} {recipient : Key} {chain chain' : Chain}

/-- A sweep that is carried out sends what it was planned for. -/
theorem sends_of_sweepCalls {sol token : Amount} {calls : List Call}
    (hprogram : chain.tokenProgram = l.profile.tokenProgram)
    (planned : l.sweepCalls recipient sol token = .ok calls)
    (carried : Chain.applyFrom l.address 0 chain calls = .ok chain') :
    Chain.Sends l.address recipient l.tokenAccount (l.profile.tokenAccountOf recipient) sol.toNat
      token.toNat chain chain' := by
  obtain ⟨natives, transfers, mid, -, hnatives, htransfers⟩ :=
    exists_of_applyFrom_sweepCalls planned carried
  have hlamports : Chain.Sends l.address recipient l.tokenAccount
      (l.profile.tokenAccountOf recipient) sol.toNat 0 chain mid ∧
        mid.tokenProgram = chain.tokenProgram := by
    rcases hnatives with ⟨-, rfl, rfl⟩ | ⟨-, hmid⟩
    · exact ⟨.nothing, rfl⟩
    · exact ⟨Chain.sends_of_apply_plain hmid, Chain.tokenProgram_apply hmid⟩
  have hunits : Chain.Sends l.address recipient l.tokenAccount
      (l.profile.tokenAccountOf recipient) 0 token.toNat mid chain' := by
    rcases htransfers with ⟨-, rfl, rfl⟩ | ⟨call, -, built, hlast⟩
    · exact .nothing
    · rw [← hprogram, ← hlamports.2] at built
      exact Chain.sends_of_apply_transfer built hlast
  have hboth := hlamports.1.trans hunits
  rwa [Nat.add_zero, Nat.zero_add] at hboth

/-! ### Withdrawing -/

/-- A sweep takes no calls when there is nothing to send. -/
theorem sweepCalls_eq_nil_iff {sol token : Amount} {calls : List Call}
    (planned : l.sweepCalls recipient sol token = .ok calls) :
    calls = [] ↔ sol = 0 ∧ token = 0 := by
  by_cases hunits : token = 0
  · rw [hunits, sweepCalls_zero] at planned
    obtain rfl := Except.ok.inj planned
    rw [and_iff_left hunits]
    by_cases hsol : sol = 0
    · rw [hsol, if_neg UInt64.not_lt_zero]
      exact iff_of_true rfl rfl
    · rw [if_pos (UInt64.pos_iff_ne_zero.mpr hsol)]
      exact iff_of_false (List.cons_ne_nil _ _) hsol
  · rw [sweepCalls_of_ne_zero hunits] at planned
    obtain ⟨transfer, -, rfl⟩ := map_eq_ok_iff.mp planned
    exact iff_of_false (List.append_ne_nil_of_right_ne_nil _ (List.cons_ne_nil _ _))
      fun h => hunits h.2

/-- A withdrawal has swept everything, and nothing else. -/
structure Swept (l : Ledger) (now : Instant) (recipient : Key) (chain : Chain)
    (receipt : WithdrawalReceipt) (l' : Ledger) (chain' : Chain) : Prop where
  /-- The receipt tells what the account held. -/
  receipt_eq : receipt = ⟨receipt.signature, recipient, chain.lamportsOf l.address,
    chain.tokensIn l.tokenAccount, now⟩
  /-- No lamports are left. -/
  lamports_left : chain'.lamportsOf l.address = 0
  /-- No units are left. -/
  units_left : chain'.tokensIn l.tokenAccount = 0
  /-- The recipient has the lamports. -/
  lamports_sent : (chain'.lamportsOf recipient).toNat =
    (chain.lamportsOf recipient).toNat + receipt.sol.toNat
  /-- The recipient has the units. -/
  units_sent : (chain'.tokensIn (l.profile.tokenAccountOf recipient)).toNat =
    (chain.tokensIn (l.profile.tokenAccountOf recipient)).toNat + receipt.token.toNat
  /-- Nobody else's lamports have changed. -/
  lamports_kept : ∀ wallet, wallet ≠ l.address → wallet ≠ recipient →
    chain'.lamportsOf wallet = chain.lamportsOf wallet
  /-- No other units have changed. -/
  units_kept : ∀ account, account ≠ l.tokenAccount →
    account ≠ l.profile.tokenAccountOf recipient → chain'.tokensIn account = chain.tokensIn account
  /-- Token accounts belong to whom they did. -/
  owners_kept : chain.KeepsOwners chain'
  /-- Where there was nothing to send, nothing has happened on the chain. -/
  unsigned : receipt.sol = 0 → receipt.token = 0 → receipt.signature = none ∧ chain' = chain
  /-- Otherwise there is one transaction more, which the receipt names. -/
  signed : receipt.sol ≠ 0 ∨ receipt.token ≠ 0 → ∃ signature,
    receipt.signature = some signature ∧ chain'.transactions = chain.transactions ++ [signature]
  /-- The request is cleared; all else that the account remembers stays. -/
  ledger_eq : l' = { l with state := { l.state with withdrawRequestedAt := none } }

namespace Swept

variable {now : Instant}

/-- An account that holds nothing is swept by clearing the request. -/
theorem of_nothing (hlamports : chain.lamportsOf l.address = 0)
    (hunits : chain.tokensIn l.tokenAccount = 0) :
    l.Swept now recipient chain
      ⟨none, recipient, chain.lamportsOf l.address, chain.tokensIn l.tokenAccount, now⟩
      { l with state := { l.state with withdrawRequestedAt := none } } chain where
  receipt_eq := rfl
  lamports_left := hlamports
  units_left := hunits
  lamports_sent := by
    rw [hlamports]
    rfl
  units_sent := by
    rw [hunits]
    rfl
  lamports_kept _ _ _ := rfl
  units_kept _ _ _ := rfl
  owners_kept _ _ howner := howner
  unsigned _ _ := ⟨rfl, rfl⟩
  signed hsome := absurd hsome (not_or.mpr ⟨not_not.mpr hlamports, not_not.mpr hunits⟩)
  ledger_eq := rfl

/-- An account that holds something is swept by the calls that were planned for what it holds. -/
theorem of_carried {calls : List Call} {signature : Signature}
    (hprogram : chain.tokenProgram = l.profile.tokenProgram) (hwallet : recipient ≠ l.address)
    (haccount : l.profile.tokenAccountOf recipient ≠ l.tokenAccount)
    (planned : l.sweepCalls recipient (chain.lamportsOf l.address)
      (chain.tokensIn l.tokenAccount) = .ok calls) (hcalls : calls ≠ [])
    (carried : chain.execute l.address calls = (.ok signature, chain')) :
    l.Swept now recipient chain
      ⟨some signature, recipient, chain.lamportsOf l.address, chain.tokensIn l.tokenAccount, now⟩
      { l with state := { l.state with withdrawRequestedAt := none } } chain' := by
  obtain ⟨hconserves, htransactions⟩ := Chain.conserves_execute carried
  have hsends : Chain.Sends l.address recipient l.tokenAccount (l.profile.tokenAccountOf recipient)
      (chain.lamportsOf l.address).toNat (chain.tokensIn l.tokenAccount).toNat chain chain' := by
    obtain ⟨staged, happly, -, rfl⟩ := Chain.execute_eq_ok_iff.mp carried
    -- The transactions are no part of any balance.
    have hstaged := sends_of_sweepCalls hprogram planned happly
    exact ⟨hstaged.lamports, hstaged.units⟩
  exact {
    receipt_eq := rfl
    lamports_left := hsends.lamports.emptied hwallet rfl
    units_left := hsends.units.emptied haccount rfl
    lamports_sent := hsends.lamports.arrived hwallet
    units_sent := hsends.units.arrived haccount
    lamports_kept := fun wallet => hsends.lamports.kept
    units_kept := fun account => hsends.units.kept
    owners_kept := hconserves.owners
    unsigned := fun hsol htoken =>
      absurd ((sweepCalls_eq_nil_iff planned).mpr ⟨hsol, htoken⟩) hcalls
    signed := fun _ => ⟨signature, rfl, htransactions⟩
    ledger_eq := rfl }

end Swept

/-- **A withdrawal sweeps everything and nothing else.** For every account on an in-memory chain
that runs its token program, in every state and with any balances, and every recipient with a wallet
and a token account other than the account's: a withdrawal that succeeds leaves nothing behind, the
recipient has got what there was, and this is what the receipt says. -/
theorem withdrawal_sweeps_everything (l : Ledger) (now : Instant) (caller : Key) {recipient : Key}
    {chain : Chain} (hprogram : chain.tokenProgram = l.profile.tokenProgram)
    (hwallet : recipient ≠ l.address)
    (haccount : l.profile.tokenAccountOf recipient ≠ l.tokenAccount) {receipt : WithdrawalReceipt}
    {l' : Ledger} {chain' : Chain}
    (h : l.executeWithdraw Chain.executor now caller recipient chain =
      (.ok receipt, l', chain')) :
    l.Swept now recipient chain receipt l' chain' := by
  obtain ⟨rfl, sol, token, calls, hsol, htoken, planned, hdone⟩ := executeWithdraw_of_ok h
  obtain rfl : chain.lamportsOf l.address = sol := Except.ok.inj hsol
  obtain rfl : chain.tokensIn l.tokenAccount = token := Except.ok.inj htoken
  rcases hdone with ⟨hnil, rfl, rfl⟩ | ⟨hcalls, signature, rfl, carried⟩
  · obtain ⟨hlamports, hunits⟩ := (sweepCalls_eq_nil_iff planned).mp hnil
    exact .of_nothing hlamports hunits
  · exact .of_carried hprogram hwallet haccount planned hcalls carried

/-- The account that leaves with a hundred lamports and forty units leaves with all of them. -/
theorem leaving_swept :
    let l := leaving .small
    ∃ receipt l' chain',
      l.executeWithdraw Chain.executor 172800 (.repeating 1) (.repeating 6) (allAlone l) =
        (.ok receipt, l', chain') ∧
      l.Swept 172800 (.repeating 6) (allAlone l) receipt l' chain' ∧
      receipt.sol = 100 ∧ receipt.token = 40 := by
  intro l
  have haccount : l.profile.tokenAccountOf (.repeating 6) ≠ l.tokenAccount := by decide +kernel
  have hrecipient : .repeating 6 ≠ Profile.small.tokenProgram := by decide
  have hstandard : l.profile.tokenProgram = Token.standardProgram := rfl
  have hopen := (exitReady_leaving hrecipient).isOk_executeWithdraw_iff.mpr (.inr hstandard)
  rcases hdone : l.executeWithdraw Chain.executor 172800 (.repeating 1) (.repeating 6)
    (allAlone l) with ⟨e | receipt, l', chain'⟩
  · cases (congrArg (fun after => after.1.isOk) hdone).symm.trans hopen
  have swept := withdrawal_sweeps_everything l 172800 (.repeating 1) rfl (by decide) haccount hdone
  refine ⟨receipt, l', chain', rfl, swept, ?_, ?_⟩
  · rw [swept.receipt_eq]
    rfl
  · rw [swept.receipt_eq]
    simp [Chain.tokensIn, allAlone, Table.get?]

end Ledger

end SpendGuard
