import SpendGuard.Proofs.Chain.Outflow
import SpendGuard.Proofs.Ledger.Run

/-!
# Everything that leaves the account is accounted

A ledger on an in-memory chain, whose token program is the one its profile names. What a receipt
says is what left (`Ledger.Outcome.paysOut`), what fails changes no balance, and a withdrawal takes
no more than it reports (`Ledger.paysOut_of_sweepCalls`). Added up over a run of any length, the
account has lost at most the sum of its receipts (`Ledger.outflow_accounted`).
-/

namespace SpendGuard

/-! ### Sums over runs -/

/-- What an answer lets out of each asset: what was counted, or what was withdrawn. -/
def releasedBy : Except Error Grant → Asset → Nat
  | .ok (.executed r), asset | .ok (.reclaimed r), asset => (r.spend.of asset).toNat
  | .ok (.withdrawn r), .sol => r.sol.toNat
  | .ok (.withdrawn r), .token => r.token.toNat
  | .ok (.foreseen _), _ | .ok (.requested _), _ | .error _, _ => 0

namespace Course

variable {σ : Type}

/-- What the receipts of a run and of its withdrawals add up to. -/
def released (c : Course σ) : Asset → Nat
  | .sol => (c.receipts.map (·.spend.sol.toNat)).sum + (c.withdrawals.map (·.sol.toNat)).sum
  | .token => (c.receipts.map (·.spend.token.toNat)).sum + (c.withdrawals.map (·.token.toNat)).sum

theorem released_eq_sum (c : Course σ) (asset : Asset) :
    c.released asset = (c.entries.map fun e => releasedBy e.answer asset).sum := by
  obtain ⟨entries, l, world⟩ := c
  induction entries with
  | nil => cases asset <;> rfl
  | cons entry rest ih =>
    obtain ⟨now, request, answer⟩ := entry
    rw [List.map_cons, List.sum_cons, ← ih]
    simp only [released, receipts, withdrawals, List.filterMap_cons]
    rcases answer with e | (r | r | _ | _ | r) <;> cases asset <;>
    · simp only [receiptOf?, withdrawalOf?, Except.toOption, Option.bind_some, Option.bind_none,
        Grant.receipt?, Grant.withdrawal?, releasedBy, Spend.of, List.map_cons, List.sum_cons]
      omega

end Course

namespace Ledger

variable {l l' : Ledger} {now : Instant} {chain chain' : Chain} {request : Request}
  {answer : Except Error Grant}

/-! ### What is handed to the chain -/

/-- The calls that granting a request has carried out as a spend or as a reclamation. -/
def callsFor (l : Ledger) : Request → List Call
  | .execute _ call => [call]
  | .executeBatch _ calls => calls
  | .reclaimGas _ amount _ =>
    (Call.tokenTransfer l.profile.tokenProgram l.tokenAccount
      (l.profile.tokenAccountOf l.profile.sponsor) l.address amount).toOption.toList
  | .preflight _ _ _ | .requestWithdraw _ | .executeWithdraw _ _ => []

theorem callsFor_of_spending? {calls : List Call} (h : request.spending? = some calls) :
    l.callsFor request = calls := by
  cases request <;> cases h <;> rfl

/-! ### Withdrawals -/

/-- A sweep sends the lamports first, if there are any, and then the units, if there are any. -/
theorem sweepCalls_eq_ok {recipient : Key} {sol token : Amount} {calls : List Call}
    (h : l.sweepCalls recipient sol token = .ok calls) :
    ∃ transfers, calls = (if 0 < sol then [.native recipient sol] else []) ++ transfers ∧
      (¬ 0 < token ∧ transfers = [] ∨ ∃ call, transfers = [call] ∧
        Call.tokenTransfer l.profile.tokenProgram l.tokenAccount
          (l.profile.tokenAccountOf recipient) l.address token = .ok call) := by
  simp only [sweepCalls, bind, Except.bind, pure, Except.pure] at h
  split at h
  · split at h
    · cases h
    · next call hcall =>
      cases h
      exact ⟨[call], rfl, .inr ⟨call, rfl, hcall⟩⟩
  · next htoken =>
    cases h
    exact ⟨[], (List.append_nil _).symm, .inl ⟨htoken, rfl⟩⟩

/-- A sweep that is carried out has sent the lamports, if there were any, and then the units, if
there were any, on the chain that the lamports left behind. -/
theorem exists_of_applyFrom_sweepCalls {recipient : Key} {sol token : Amount} {calls : List Call}
    (planned : l.sweepCalls recipient sol token = .ok calls)
    (carried : Chain.applyFrom l.address 0 chain calls = .ok chain') :
    ∃ natives transfers mid, calls = natives ++ transfers ∧
      (natives = [] ∧ sol = 0 ∧ mid = chain ∨
        natives = [.native recipient sol] ∧
          chain.apply l.address (.native recipient sol) = .ok mid) ∧
      (transfers = [] ∧ token = 0 ∧ chain' = mid ∨
        ∃ call, transfers = [call] ∧
          Call.tokenTransfer l.profile.tokenProgram l.tokenAccount
            (l.profile.tokenAccountOf recipient) l.address token = .ok call ∧
          mid.apply l.address call = .ok chain') := by
  obtain ⟨transfers, rfl, htransfers⟩ := sweepCalls_eq_ok planned
  have hzero {amount : Amount} (h : ¬ 0 < amount) : amount = 0 :=
    not_not.mp (mt UInt64.pos_iff_ne_zero.mpr h)
  have hunits {mid : Chain} {index : Nat}
      (happly : Chain.applyFrom l.address index mid transfers = .ok chain') :
      transfers = [] ∧ token = 0 ∧ chain' = mid ∨
        ∃ call, transfers = [call] ∧
          Call.tokenTransfer l.profile.tokenProgram l.tokenAccount
            (l.profile.tokenAccountOf recipient) l.address token = .ok call ∧
          mid.apply l.address call = .ok chain' := by
    rcases htransfers with ⟨htoken, rfl⟩ | ⟨call, rfl, hcall⟩
    · cases happly
      exact .inl ⟨rfl, hzero htoken, rfl⟩
    · obtain ⟨last, hlast, hdone⟩ := Chain.applyFrom_cons_eq_ok_iff.mp happly
      cases hdone
      exact .inr ⟨call, rfl, hcall, hlast⟩
  by_cases hsol : 0 < sol
  · rw [if_pos hsol] at carried ⊢
    obtain ⟨mid, hmid, hrest⟩ := Chain.applyFrom_cons_eq_ok_iff.mp carried
    exact ⟨_, _, mid, rfl, .inr ⟨rfl, hmid⟩, hunits hrest⟩
  · rw [if_neg hsol] at carried ⊢
    exact ⟨_, _, chain, rfl, .inl ⟨rfl, hzero hsol, rfl⟩, hunits carried⟩

/-- Sweeping an account takes from it no more than what was found in it. -/
theorem paysOut_of_sweepCalls {recipient : Key} {sol token : Amount} {calls : List Call}
    (hprogram : chain.tokenProgram = l.profile.tokenProgram)
    (planned : l.sweepCalls recipient sol token = .ok calls)
    (carried : Chain.applyFrom l.address 0 chain calls = .ok chain') :
    Chain.PaysOut l.address calls sol.toNat token.toNat chain chain' := by
  obtain ⟨natives, transfers, mid, rfl, hnatives, htransfers⟩ :=
    exists_of_applyFrom_sweepCalls planned carried
  -- The units leave with the transfer, from whatever chain the lamports leave behind.
  have hunits (hmid : mid.tokenProgram = l.profile.tokenProgram) :
      Chain.PaysOut l.address transfers 0 token.toNat mid chain' ∧ mid.KeepsOwners chain' := by
    rcases htransfers with ⟨rfl, rfl, rfl⟩ | ⟨call, rfl, hcall, hlast⟩
    · exact ⟨.none _ _, fun _ _ howner => howner⟩
    · have hclass := Call.classify_of_tokenTransfer hcall
      rw [← hmid] at hclass
      exact ⟨Chain.paysOut_of_apply hclass hlast, Chain.keepsOwners_apply hlast⟩
  rcases hnatives with ⟨rfl, rfl, rfl⟩ | ⟨rfl, hmid⟩
  · exact (hunits hprogram).1
  · have hsame := Chain.tokenProgram_apply hmid
    obtain ⟨hpays, howners⟩ := hunits (hsame.trans hprogram)
    have hboth := (Chain.paysOut_of_apply_plain hmid).cons hpays hsame howners
    rw [Nat.add_zero, Nat.zero_add] at hboth
    exact hboth

/-! ### Any request -/

namespace Outcome

/-- **A receipt says what left the account.** -/
theorem paysOut (h : Outcome Chain.executor l now chain request answer l' chain')
    (hprogram : chain.tokenProgram = l.profile.tokenProgram) {receipt : Receipt}
    (hreceipt : receiptOf? answer = some receipt) :
    Chain.PaysOut l.address (l.callsFor request) receipt.spend.sol.toNat
      receipt.spend.token.toNat chain chain' := by
  cases h with
  | executed _ asked classified _ carried =>
    cases hreceipt
    rw [callsFor_of_spending? asked]
    rw [← hprogram] at classified
    exact Chain.paysOut_of_execute classified carried
  | reclaimed built _ carried =>
    cases hreceipt
    have hclass := Batch.classify_singleton (Call.classify_of_tokenTransfer built)
    rw [← hprogram] at hclass
    rw [callsFor, built]
    exact Chain.paysOut_of_execute hclass carried
  | refused | failed | foreseen | requested | withdrawnNothing | withdrawn => cases hreceipt

/-- What fails leaves the chain as it was. -/
theorem chain_eq_of_error {e : Error}
    (h : Outcome Chain.executor l now chain request (.error e) l' chain') : chain' = chain := by
  cases h with
  | refused => rfl
  | failed carried => exact Chain.eq_of_execute_eq_error carried

/-- Whatever comes of a request, the chain's token program stays what it is. -/
theorem tokenProgram_eq (h : Outcome Chain.executor l now chain request answer l' chain') :
    chain'.tokenProgram = chain.tokenProgram := by
  cases h with
  | refused | foreseen | requested | withdrawnNothing => rfl
  | failed carried => exact Chain.tokenProgram_execute carried
  | executed _ _ _ _ carried => exact Chain.tokenProgram_execute carried
  | reclaimed _ _ carried => exact Chain.tokenProgram_execute carried
  | withdrawn _ _ _ _ _ carried => exact Chain.tokenProgram_execute carried

/-- Of each asset, an answer lets out at least what left. -/
theorem balances_le (h : Outcome Chain.executor l now chain request answer l' chain')
    (hprogram : chain.tokenProgram = l.profile.tokenProgram) :
    (chain.lamportsOf l.address).toNat ≤
        (chain'.lamportsOf l.address).toNat + releasedBy answer .sol ∧
      chain.tokensOwnedBy l.address ≤
        chain'.tokensOwnedBy l.address + releasedBy answer .token := by
  have hpays {receipt : Receipt} (hreceipt : receiptOf? answer = some receipt) :=
    h.paysOut hprogram hreceipt
  cases h with
  | executed | reclaimed => exact ⟨(hpays rfl).sol_le, (hpays rfl).token_le⟩
  | withdrawn _ _ _ planned _ carried =>
    obtain ⟨staged, happly, -, rfl⟩ := Chain.execute_eq_ok_iff.mp carried
    have hsweep := paysOut_of_sweepCalls hprogram planned happly
    exact ⟨hsweep.sol_le, hsweep.token_le⟩
  | failed carried =>
    rw [Chain.eq_of_execute_eq_error carried]
    exact ⟨Nat.le_add_right _ _, Nat.le_add_right _ _⟩
  | refused | foreseen | requested | withdrawnNothing =>
    exact ⟨Nat.le_add_right _ _, Nat.le_add_right _ _⟩

end Outcome

/-! ### Runs -/

/-- A run lets out of the account at least what left it. -/
theorem balances_le_run (l : Ledger) (chain : Chain)
    (hprogram : chain.tokenProgram = l.profile.tokenProgram)
    (requests : List (Instant × Request)) :
    let course := l.run chain (Chain.executor.serving requests)
    (chain.lamportsOf l.address).toNat ≤
        (course.world.lamportsOf l.address).toNat + course.released .sol ∧
      chain.tokensOwnedBy l.address ≤
        course.world.tokensOwnedBy l.address + course.released .token := by
  induction requests generalizing l chain with
  | nil => exact ⟨Nat.le_refl _, Nat.le_refl _⟩
  | cons q rest ih =>
    obtain ⟨now, request⟩ := q
    have houtcome := l.outcome_perform Chain.executor now chain request
    have hstep := houtcome.balances_le hprogram
    have hrest := ih (l.perform Chain.executor now chain request).2.1
      (l.perform Chain.executor now chain request).2.2
      (by rw [houtcome.tokenProgram_eq, houtcome.sameAccount.profile, hprogram])
    dsimp only at hrest ⊢
    rw [houtcome.sameAccount.address] at hrest
    -- By entries, what the run lets out is what the first answer does, and the rest.
    rw [Course.released_eq_sum, Course.released_eq_sum] at hrest ⊢
    rw [Executor.serving_cons, entries_run_cons, world_run_cons, List.map_cons, List.map_cons,
      List.sum_cons, List.sum_cons, runAfter]
    dsimp only
    omega

/-- **Everything that leaves the account is accounted.** A ledger is on a chain whose token program
is the one of its profile. Whenever calls were carried out or the sponsor was paid back, at most
what the receipt says has left the account, and exactly that unless some of it came back
(`Chain.PaysOut`). What fails changes nothing on the chain. So over a run, of any length and
whatever is asked by whomever, the account loses at most what its receipts and its withdrawals add
up to. -/
theorem outflow_accounted (l : Ledger) (chain : Chain)
    (hprogram : chain.tokenProgram = l.profile.tokenProgram) :
    (∀ now request receipt,
      receiptOf? (l.perform Chain.executor now chain request).1 = some receipt →
      Chain.PaysOut l.address (l.callsFor request) receipt.spend.sol.toNat
        receipt.spend.token.toNat chain (l.perform Chain.executor now chain request).2.2) ∧
    (∀ now request e, (l.perform Chain.executor now chain request).1 = .error e →
      (l.perform Chain.executor now chain request).2.2 = chain) ∧
    ∀ requests,
      let course := l.run chain (Chain.executor.serving requests)
      (chain.lamportsOf l.address).toNat ≤
          (course.world.lamportsOf l.address).toNat +
            (course.receipts.map (·.spend.sol.toNat)).sum +
            (course.withdrawals.map (·.sol.toNat)).sum ∧
        chain.tokensOwnedBy l.address ≤
          course.world.tokensOwnedBy l.address +
            (course.receipts.map (·.spend.token.toNat)).sum +
            (course.withdrawals.map (·.token.toNat)).sum := by
  refine ⟨fun now request receipt hreceipt => ?_, fun now request e herror => ?_,
    fun requests => ?_⟩
  · exact (l.outcome_perform Chain.executor now chain request).paysOut hprogram hreceipt
  · have houtcome := l.outcome_perform Chain.executor now chain request
    rw [herror] at houtcome
    exact houtcome.chain_eq_of_error
  · intro course
    obtain ⟨hsol, htoken⟩ := balances_le_run l chain hprogram requests
    rw [Nat.add_assoc, Nat.add_assoc]
    exact ⟨hsol, htoken⟩

/-- One batch that spends ten lamports and twenty units, with a byte more than a transfer needs. -/
def spendBoth : Request :=
  .executeBatch (.repeating 2) [.native (.repeating 6) 10,
    ⟨Token.standardProgram, 0, Token.Instruction.transferData 20 ++ [255],
      [.repeating 7, .repeating 8, .repeating 5]⟩]

/-- What the batch is counted as is what leaves. -/
theorem spendBoth_accounted :
    Chain.funded.tokenProgram = (small 0).profile.tokenProgram ∧
      (receiptOf? ((small 0).perform Chain.executor 60 .funded spendBoth).1).map (·.spend) =
        some ⟨10, 20⟩ ∧
      (Chain.funded.lamportsOf (.repeating 5)).toNat =
        (((small 0).perform Chain.executor 60 .funded spendBoth).2.2.lamportsOf
          (.repeating 5)).toNat + 10 ∧
      Chain.funded.tokensOwnedBy (.repeating 5) =
        ((small 0).perform Chain.executor 60 .funded spendBoth).2.2.tokensOwnedBy
          (.repeating 5) + 20 := by
  have hpays := (outflow_accounted (small 0) .funded rfl).1 60 spendBoth
    ⟨.numbered 0, ⟨10, 20⟩, 2, 60, true⟩ (by decide)
  refine ⟨rfl, by decide, hpays.sol_eq (by decide), hpays.token_eq fun call hcall htarget => ?_⟩
  obtain rfl | rfl : call = _ ∨ call = _ := by simpa [callsFor, spendBoth] using hcall
  · exact absurd htarget (by decide)
  · rintro destination ⟨⟩
    decide

end Ledger

end SpendGuard
