import SpendGuard.Proofs.Chain.Balance
import SpendGuard.Proofs.Classification

/-!
# What leaves an account on the chain

Classification reads a call without a chain, and the chain carries it out without looking at what
classification said. The two readings agree: when both succeed, no more of either asset leaves the
sender than was counted, and exactly that much unless some of it comes back to the sender
(`Chain.PaysOut`). One call is treated first, the rest of a batch by induction on the calls.
-/

namespace SpendGuard

namespace Chain

variable {chain chain' chain'' : Chain} {account : Key}

/-! ### One call -/

/-- What calls of an account take from it, of each asset, from one chain to the next: at most so
much, and exactly so much where nothing comes back. Lamports come back when a call is addressed to
the account itself, units when the destination of a transfer is recorded as the account's. -/
structure PaysOut (account : Key) (calls : List Call) (sol token : Nat) (chain chain' : Chain) :
    Prop where
  /-- At most so many lamports leave. -/
  sol_le : (chain.lamportsOf account).toNat ≤ (chain'.lamportsOf account).toNat + sol
  /-- At most so many units leave. -/
  token_le : chain.tokensOwnedBy account ≤ chain'.tokensOwnedBy account + token
  /-- Exactly so many lamports leave when no call is addressed to the account. -/
  sol_eq : (∀ call ∈ calls, call.target ≠ account) →
    (chain.lamportsOf account).toNat = (chain'.lamportsOf account).toNat + sol
  /-- Exactly so many units leave when no transfer's destination is the account's afterwards. -/
  token_eq : (∀ call ∈ calls, call.target = chain.tokenProgram →
      ∀ destination, call.accounts[1]? = some destination →
        chain'.ownerOf? destination ≠ some account) →
    chain.tokensOwnedBy account = chain'.tokensOwnedBy account + token

/-- Nothing was called, and nothing left. -/
theorem PaysOut.none (account : Key) (chain : Chain) : PaysOut account [] 0 0 chain chain :=
  ⟨Nat.le_refl _, Nat.le_refl _, fun _ => rfl, fun _ => rfl⟩

theorem tokenProgram_apply {call : Call} (h : chain.apply account call = .ok chain') :
    chain'.tokenProgram = chain.tokenProgram := by
  rcases apply_eq_ok_iff.mp h with ⟨-, ⟨-, _, hdebit, hcredit⟩ | ⟨-, _, -, htransfer⟩⟩
  · obtain ⟨_, -, rfl⟩ := debit_eq_ok_iff.mp hdebit
    obtain ⟨_, -, rfl⟩ := credit_eq_ok_iff.mp hcredit
    rfl
  · obtain ⟨_, _, _, _, -, hdebit, hcredit⟩ := transferTokens_eq_ok_iff.mp htransfer
    obtain ⟨_, -, -, rfl⟩ := debitTokens_eq_ok_iff.mp hdebit
    obtain ⟨_, -, rfl⟩ := creditTokens_eq_ok_iff.mp hcredit
    rfl

theorem keepsOwners_apply {call : Call} (h : chain.apply account call = .ok chain') :
    chain.KeepsOwners chain' := by
  rcases apply_eq_ok_iff.mp h with ⟨-, ⟨-, _, hdebit, hcredit⟩ | ⟨-, _, -, htransfer⟩⟩
  · obtain ⟨_, -, rfl⟩ := debit_eq_ok_iff.mp hdebit
    obtain ⟨_, -, rfl⟩ := credit_eq_ok_iff.mp hcredit
    exact fun _ _ howner => howner
  · obtain ⟨_, _, _, _, -, hdebit, hcredit⟩ := transferTokens_eq_ok_iff.mp htransfer
    exact (keepsOwners_debitTokens hdebit).trans (keepsOwners_creditTokens hcredit)

/-- A call to anyone but the token program takes its lamports. -/
theorem paysOut_of_apply_native {call : Call} (htarget : call.target ≠ chain.tokenProgram)
    (h : chain.apply account call = .ok chain') :
    PaysOut account [call] call.value.toNat 0 chain chain' := by
  rcases apply_eq_ok_iff.mp h with ⟨-, ⟨-, debited, hdebit, hcredit⟩ | ⟨heq, -⟩⟩
  swap
  · exact absurd heq htarget
  have hleft := lamportsOf_debit hdebit account
  have hgiven := lamportsOf_credit hcredit account
  have htokens : chain'.tokensOwnedBy account = chain.tokensOwnedBy account := by
    obtain ⟨_, -, rfl⟩ := debit_eq_ok_iff.mp hdebit
    obtain ⟨_, -, rfl⟩ := credit_eq_ok_iff.mp hcredit
    rfl
  rw [if_pos rfl] at hleft
  refine ⟨by omega, by omega, fun hother => ?_, fun _ => by omega⟩
  rw [if_neg (hother call List.mem_cons_self).symm] at hgiven
  omega

/-- A plain transfer that is carried out takes its lamports: the token program, which would find no
instruction in it, turns it back. -/
theorem paysOut_of_apply_plain {recipient : Key} {lamports : Amount}
    (h : chain.apply account (.native recipient lamports) = .ok chain') :
    PaysOut account [.native recipient lamports] lamports.toNat 0 chain chain' := by
  refine paysOut_of_apply_native ?_ h
  rcases apply_eq_ok_iff.mp h with ⟨-, ⟨hne, -⟩ | ⟨-, amount, hdecode, -⟩⟩
  · exact hne
  · cases hdecode

/-- A call to the token program takes the units of the transfer it spells. -/
theorem paysOut_of_apply_transfer {call : Call} {amount : Amount}
    (htarget : call.target = chain.tokenProgram)
    (hdecode : Token.Instruction.decode? call.data = some (.transfer amount))
    (h : chain.apply account call = .ok chain') :
    PaysOut account [call] 0 amount.toNat chain chain' := by
  rcases apply_eq_ok_iff.mp h with ⟨-, ⟨hne, -⟩ | ⟨-, amount', hdecode', htransfer⟩⟩
  · exact absurd htarget hne
  obtain rfl : amount = amount' := by simpa [hdecode] using hdecode'
  obtain ⟨source, destination, others, debited, haccounts, hdebit, hcredit⟩ :=
    transferTokens_eq_ok_iff.mp htransfer
  have hleft := tokensOwnedBy_debitTokens hdebit account
  have hgiven := tokensOwnedBy_creditTokens hcredit account
  have hlamports := lamportsOf_transferTokens htransfer account
  rw [if_pos rfl] at hleft
  refine ⟨by rw [hlamports]; omega, by omega, fun _ => by rw [hlamports]; omega, fun hother => ?_⟩
  have hdestination := hother call List.mem_cons_self htarget destination (by rw [haccounts]; rfl)
  rw [if_neg hdestination] at hgiven
  omega

/-- **Both readings of a call agree**: what leaves the sender is what classification counted. -/
theorem paysOut_of_apply {call : Call} {spend : Spend}
    (hclass : call.classify chain.tokenProgram = .ok spend)
    (h : chain.apply account call = .ok chain') :
    PaysOut account [call] spend.sol.toNat spend.token.toNat chain chain' := by
  rcases Call.classify_eq_ok_iff.mp hclass with
    ⟨htarget, -, rfl⟩ | ⟨htarget, -, transfer, hread, rfl⟩
  · exact paysOut_of_apply_native htarget h
  · exact paysOut_of_apply_transfer htarget (Call.tokenTransfer?_eq_ok_iff.mp hread).2.1 h

/-! ### Batches -/

/-- What leaves with one call after another adds up: a destination that is not the account's in the
end was not its own in between either, since owners are kept. -/
theorem PaysOut.cons {call : Call} {rest : List Call} {sol token sol' token' : Nat}
    (h : PaysOut account [call] sol token chain chain')
    (h' : PaysOut account rest sol' token' chain' chain'')
    (hprogram : chain'.tokenProgram = chain.tokenProgram) (howners : chain'.KeepsOwners chain'') :
    PaysOut account (call :: rest) (sol + sol') (token + token') chain chain'' := by
  refine ⟨?_, ?_, fun hother => ?_, fun hother => ?_⟩
  · have := h.sol_le
    have := h'.sol_le
    omega
  · have := h.token_le
    have := h'.token_le
    omega
  · have := h.sol_eq fun c hc => hother c (List.mem_cons.mpr (.inl (List.mem_singleton.mp hc)))
    have := h'.sol_eq fun c hc => hother c (List.mem_cons_of_mem _ hc)
    omega
  · have := h.token_eq fun c hc htarget destination hdestination howner =>
      hother c (List.mem_cons.mpr (.inl (List.mem_singleton.mp hc))) htarget destination
        hdestination (howners destination account howner)
    have := h'.token_eq fun c hc htarget =>
      hother c (List.mem_cons_of_mem _ hc) (htarget.trans hprogram)
    omega

/-- The first call is carried out, and then the rest on the chain it leaves behind. -/
theorem applyFrom_cons_eq_ok_iff {call : Call} {rest : List Call} {index : Nat} :
    applyFrom account index chain (call :: rest) = .ok chain'' ↔
      ∃ mid, chain.apply account call = .ok mid ∧
        applyFrom account (index + 1) mid rest = .ok chain'' := by
  rw [applyFrom]
  cases chain.apply account call with
  | error e => simp
  | ok mid => simp

theorem tokenProgram_applyFrom {calls : List Call} {index : Nat}
    (h : applyFrom account index chain calls = .ok chain') :
    chain'.tokenProgram = chain.tokenProgram := by
  induction calls generalizing index chain with
  | nil =>
    cases h
    rfl
  | cons call rest ih =>
    obtain ⟨mid, happly, hrest⟩ := applyFrom_cons_eq_ok_iff.mp h
    exact (ih hrest).trans (tokenProgram_apply happly)

theorem keepsOwners_applyFrom {calls : List Call} {index : Nat}
    (h : applyFrom account index chain calls = .ok chain') : chain.KeepsOwners chain' := by
  induction calls generalizing index chain with
  | nil =>
    cases h
    exact fun _ _ howner => howner
  | cons call rest ih =>
    obtain ⟨mid, happly, hrest⟩ := applyFrom_cons_eq_ok_iff.mp h
    exact (keepsOwners_apply happly).trans (ih hrest)

/-- What leaves with calls that are carried out is what their classification added to the total it
began with. -/
theorem paysOut_of_applyFrom {calls : List Call} {total sum : Spend} {i j : Nat}
    (hclass : Batch.classifyFrom chain.tokenProgram i total calls = .ok sum)
    (h : applyFrom account j chain calls = .ok chain') :
    ∃ sol token, sum.sol.toNat = total.sol.toNat + sol ∧
      sum.token.toNat = total.token.toNat + token ∧
        PaysOut account calls sol token chain chain' := by
  induction calls generalizing i j total chain with
  | nil =>
    cases hclass
    cases h
    exact ⟨0, 0, rfl, rfl, .none account _⟩
  | cons call rest ih =>
    obtain ⟨mid, happly, hcarried⟩ := applyFrom_cons_eq_ok_iff.mp h
    rw [Batch.classifyFrom] at hclass
    split at hclass
    · cases hclass
    next spend hspend =>
    split at hclass
    · cases hclass
    next running hrunning =>
    obtain ⟨hsol, htoken⟩ := Spend.add?_eq_some_iff.mp hrunning
    have hprogram := tokenProgram_apply happly
    rw [← hprogram] at hclass
    obtain ⟨sol, token, hsol', htoken', hrest⟩ := ih hclass hcarried
    refine ⟨spend.sol.toNat + sol, spend.token.toNat + token, by omega, by omega, ?_⟩
    exact (paysOut_of_apply hspend happly).cons hrest hprogram (keepsOwners_applyFrom hcarried)

/-- Calls are carried out one after the other, and then there is one transaction more. -/
theorem execute_eq_ok_iff {calls : List Call} {signature : Signature} :
    chain.execute account calls = (.ok signature, chain') ↔
      ∃ staged, applyFrom account 0 chain calls = .ok staged ∧
        signature = .numbered staged.transactions.length ∧
        chain' = { staged with transactions := staged.transactions ++ [signature] } := by
  unfold execute
  cases applyFrom account 0 chain calls with
  | error e => simp
  | ok staged =>
    constructor
    · rintro ⟨⟩
      exact ⟨staged, rfl, rfl, rfl⟩
    · rintro ⟨_, ⟨⟩, rfl, rfl⟩
      rfl

/-- Calls that fail leave the chain as it was. -/
theorem eq_of_execute_eq_error {calls : List Call} {e : Error}
    (h : chain.execute account calls = (.error e, chain')) : chain' = chain := by
  unfold execute at h
  split at h <;> cases h
  rfl

/-- Whether calls succeed or fail, the chain's token program stays what it is. -/
theorem tokenProgram_execute {calls : List Call} {answer : Except Error Signature}
    (h : chain.execute account calls = (answer, chain')) :
    chain'.tokenProgram = chain.tokenProgram := by
  cases answer with
  | error e => rw [eq_of_execute_eq_error h]
  | ok signature =>
    obtain ⟨staged, happly, -, rfl⟩ := execute_eq_ok_iff.mp h
    have hsame := tokenProgram_applyFrom happly
    exact hsame

/-- **What leaves with a batch** that is classified and carried out is what was counted. -/
theorem paysOut_of_execute {calls : List Call} {spend : Spend} {signature : Signature}
    (hclass : Batch.classify chain.tokenProgram calls = .ok spend)
    (h : chain.execute account calls = (.ok signature, chain')) :
    PaysOut account calls spend.sol.toNat spend.token.toNat chain chain' := by
  obtain ⟨staged, happly, -, rfl⟩ := execute_eq_ok_iff.mp h
  obtain ⟨sol, token, hsol, htoken, hpays⟩ :=
    paysOut_of_applyFrom (Batch.classify_eq_ok_iff.mp hclass).2 happly
  rw [show spend.sol.toNat = sol from hsol.trans (Nat.zero_add _),
    show spend.token.toNat = token from htoken.trans (Nat.zero_add _)]
  -- The transactions are no part of any balance.
  exact ⟨hpays.sol_le, hpays.token_le, hpays.sol_eq, hpays.token_eq⟩

end Chain

end SpendGuard
