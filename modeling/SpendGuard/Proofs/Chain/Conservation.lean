import SpendGuard.Proofs.Chain.Transfer
import SpendGuard.Proofs.Ledger.Run

/-!
# All or nothing, and nothing gained or lost

Calls are carried out on a copy of the balances, which is either kept as a whole or dropped. When
one of them fails, nothing has happened, and the fault is that of the first call that could not be
applied to what the calls before it left behind (`Chain.FirstFault`). When none fails, value has
only changed hands (`Chain.Conserves`): the totals of both assets are what they were, and only the
sender has lost anything. One debit and one credit of the same amount are all that a call consists
of; the rest is induction on the calls. Changes from outside are a single credit or debit
(`Chain.OnlyLamports`, `Chain.OnlyTokens`).
-/

namespace SpendGuard

/-- Calls that are turned back are told by the index of the one that failed and its fault. -/
theorem Error.message_inCall (index : Nat) (fault : CallFault) :
    (Error.callFailed (.inCall index fault)).message =
      s!"Call failed: call {index}: {fault.message}" := by
  have hfailed (f : CallFault) : (callFailed f).message = s!"Call failed: {f.message}" := rfl
  have hcall : (CallFault.inCall index fault).message = s!"call {index}: {fault.message}" := rfl
  have hwords : "Call failed: call " = "Call failed: " ++ "call " := by
    rw [← String.toList_inj]
    decide
  rw [hfailed, hcall, hwords]
  simp only [toString, String.append_assoc]

namespace Chain

variable {chain chain' chain'' : Chain} {sender : Key} {call : Call} {calls rest : List Call}

/-! ### Totals -/

/-- Storing lamports changes the total by the old and the new amount. -/
theorem totalLamports_put (wallet : Key) (amount : Amount) :
    totalLamports { chain with lamports := chain.lamports.put wallet amount } +
      (chain.lamportsOf wallet).toNat = chain.totalLamports + amount.toNat := by
  have hput := Table.sum_put (fun _ a => a.toNat) chain.lamports wallet amount
  rw [totalLamports, totalLamports, ← hput, lamportsOf]
  congr 1
  cases chain.lamports.get? wallet <;> rfl

/-- Storing a token account changes the total by the old and the new amount. -/
theorem totalTokens_put (account : Key) (held : TokenAccount) :
    totalTokens { chain with tokenAccounts := chain.tokenAccounts.put account held } +
      (chain.tokensIn account).toNat = chain.totalTokens + held.amount.toNat := by
  have hput := Table.sum_put (fun _ a => a.amount.toNat) chain.tokenAccounts account held
  rw [totalTokens, totalTokens, ← hput, tokensIn]
  congr 1
  cases chain.tokenAccounts.get? account <;> rfl

theorem totalLamports_debit {wallet : Key} {amount : Amount}
    (h : chain.debit wallet amount = .ok chain') :
    chain'.totalLamports + amount.toNat = chain.totalLamports := by
  obtain ⟨left, hleft, rfl⟩ := debit_eq_ok_iff.mp h
  have hput := chain.totalLamports_put wallet left
  omega

theorem totalLamports_credit {wallet : Key} {amount : Amount}
    (h : chain.credit wallet amount = .ok chain') :
    chain'.totalLamports = chain.totalLamports + amount.toNat := by
  obtain ⟨total, htotal, rfl⟩ := credit_eq_ok_iff.mp h
  have hput := chain.totalLamports_put wallet total
  omega

theorem totalTokens_debitTokens {account authority : Key} {amount : Amount}
    (h : chain.debitTokens account authority amount = .ok chain') :
    chain'.totalTokens + amount.toNat = chain.totalTokens := by
  obtain ⟨left, -, hleft, rfl⟩ := debitTokens_eq_ok_iff.mp h
  have hput := chain.totalTokens_put account ⟨authority, left⟩
  dsimp only at hput
  omega

theorem totalTokens_creditTokens {account owner : Key} {amount : Amount}
    (h : chain.creditTokens account owner amount = .ok chain') :
    chain'.totalTokens = chain.totalTokens + amount.toNat := by
  obtain ⟨total, htotal, rfl⟩ := creditTokens_eq_ok_iff.mp h
  have hput := chain.totalTokens_put account ⟨(chain.ownerOf? account).getD owner, total⟩
  dsimp only at hput
  omega

/-! ### What one call keeps -/

/-- From one chain to the next, value only changed hands, and nobody but the sender lost any. -/
structure Conserves (sender : Key) (chain chain' : Chain) : Prop where
  /-- There are as many lamports as before. -/
  lamports : chain'.totalLamports = chain.totalLamports
  /-- There are as many token units as before. -/
  tokens : chain'.totalTokens = chain.totalTokens
  /-- No wallet but the sender's has lost lamports. -/
  wallets : ∀ wallet, wallet ≠ sender →
    (chain.lamportsOf wallet).toNat ≤ (chain'.lamportsOf wallet).toNat
  /-- No token account that is recorded as another's has lost units. -/
  accounts : ∀ account owner, chain.ownerOf? account = some owner → owner ≠ sender →
    (chain.tokensIn account).toNat ≤ (chain'.tokensIn account).toNat
  /-- No token account has changed hands. -/
  owners : chain.KeepsOwners chain'
  /-- The targets that turn calls back are the same. -/
  failing : chain'.failing = chain.failing
  /-- The token program is the same. -/
  program : chain'.tokenProgram = chain.tokenProgram

theorem Conserves.refl (sender : Key) (chain : Chain) : Conserves sender chain chain :=
  ⟨rfl, rfl, fun _ _ => Nat.le_refl _, fun _ _ _ _ => Nat.le_refl _, fun _ _ h => h, rfl, rfl⟩

theorem Conserves.trans (h : Conserves sender chain chain') (h' : Conserves sender chain' chain'') :
    Conserves sender chain chain'' where
  lamports := h'.lamports.trans h.lamports
  tokens := h'.tokens.trans h.tokens
  wallets wallet hother := Nat.le_trans (h.wallets wallet hother) (h'.wallets wallet hother)
  accounts account owner howner hother :=
    Nat.le_trans (h.accounts account owner howner hother)
      (h'.accounts account owner (h.owners account owner howner) hother)
  owners := h.owners.trans h'.owners
  failing := h'.failing.trans h.failing
  program := h'.program.trans h.program

/-- Lamports that go from the sender to someone are conserved. -/
theorem conserves_lamports {target : Key} {amount : Amount} {debited : Chain}
    (hdebit : chain.debit sender amount = .ok debited)
    (hcredit : debited.credit target amount = .ok chain') : Conserves sender chain chain' := by
  have hlamports : chain'.totalLamports = chain.totalLamports := by
    have hless := totalLamports_debit hdebit
    have hmore := totalLamports_credit hcredit
    omega
  have hwallets (wallet : Key) (hother : wallet ≠ sender) :
      (chain.lamportsOf wallet).toNat ≤ (chain'.lamportsOf wallet).toNat := by
    have hleft := lamportsOf_debit hdebit wallet
    have hgiven := lamportsOf_credit hcredit wallet
    rw [if_neg hother] at hleft
    omega
  obtain ⟨_, -, rfl⟩ := debit_eq_ok_iff.mp hdebit
  obtain ⟨_, -, rfl⟩ := credit_eq_ok_iff.mp hcredit
  exact ⟨hlamports, rfl, hwallets, fun _ _ _ _ => Nat.le_refl _, fun _ _ h => h, rfl, rfl⟩

/-- Units that go from a token account of the sender to another account are conserved. -/
theorem conserves_tokens {source destination owner : Key} {amount : Amount} {debited : Chain}
    (hdebit : chain.debitTokens source sender amount = .ok debited)
    (hcredit : debited.creditTokens destination owner amount = .ok chain') :
    Conserves sender chain chain' := by
  have htokens : chain'.totalTokens = chain.totalTokens := by
    have hless := totalTokens_debitTokens hdebit
    have hmore := totalTokens_creditTokens hcredit
    omega
  have haccounts (account holder : Key) (hholder : chain.ownerOf? account = some holder)
      (hother : holder ≠ sender) :
      (chain.tokensIn account).toNat ≤ (chain'.tokensIn account).toNat := by
    have hleft := tokensIn_debitTokens hdebit account
    have hgiven := tokensIn_creditTokens hcredit account
    -- The source is the sender's, so it is no account of anyone else.
    obtain ⟨_, hsource, -, -⟩ := debitTokens_eq_ok_iff.mp hdebit
    have hapart : account ≠ source := by
      rintro rfl
      exact hother (Option.some.inj (hholder.symm.trans hsource))
    rw [if_neg hapart] at hleft
    omega
  have howners := (keepsOwners_debitTokens hdebit).trans (keepsOwners_creditTokens hcredit)
  obtain ⟨_, -, -, rfl⟩ := debitTokens_eq_ok_iff.mp hdebit
  obtain ⟨_, -, rfl⟩ := creditTokens_eq_ok_iff.mp hcredit
  exact ⟨rfl, htokens, fun _ _ => Nat.le_refl _, haccounts, howners, rfl, rfl⟩

/-- **A call that is carried out conserves value**, whether or not it was ever classified. -/
theorem conserves_apply (h : chain.apply sender call = .ok chain') :
    Conserves sender chain chain' := by
  rcases apply_eq_ok_iff.mp h with ⟨-, ⟨-, _, hdebit, hcredit⟩ | ⟨-, _, -, htransfer⟩⟩
  · exact conserves_lamports hdebit hcredit
  · obtain ⟨_, _, _, _, -, hdebit, hcredit⟩ := transferTokens_eq_ok_iff.mp htransfer
    exact conserves_tokens hdebit hcredit

/-- A call that is carried out makes no transaction by itself. -/
theorem transactions_apply (h : chain.apply sender call = .ok chain') :
    chain'.transactions = chain.transactions := by
  rcases apply_eq_ok_iff.mp h with ⟨-, ⟨-, _, hdebit, hcredit⟩ | ⟨-, _, -, htransfer⟩⟩
  · obtain ⟨_, -, rfl⟩ := debit_eq_ok_iff.mp hdebit
    obtain ⟨_, -, rfl⟩ := credit_eq_ok_iff.mp hcredit
    rfl
  · obtain ⟨_, _, _, _, -, hdebit, hcredit⟩ := transferTokens_eq_ok_iff.mp htransfer
    obtain ⟨_, -, -, rfl⟩ := debitTokens_eq_ok_iff.mp hdebit
    obtain ⟨_, -, rfl⟩ := creditTokens_eq_ok_iff.mp hcredit
    rfl

/-! ### One call after another -/

/-- The chain after calls that are applied one after the other, or the fault of the first that
fails. -/
def applyEach (sender : Key) (chain : Chain) (calls : List Call) : Except CallFault Chain :=
  calls.foldlM (fun chain call => chain.apply sender call) chain

theorem applyEach_cons :
    chain.applyEach sender (call :: rest) =
      (chain.apply sender call).bind fun mid => mid.applyEach sender rest := List.foldlM_cons

theorem applyEach_cons_eq_ok_iff :
    chain.applyEach sender (call :: rest) = .ok chain'' ↔
      ∃ mid, chain.apply sender call = .ok mid ∧ mid.applyEach sender rest = .ok chain'' := by
  rw [applyEach_cons, bind_eq_ok_iff]

/-- The first call that fails when calls are applied one after the other, by its index, and the
fault that it meets. -/
def FirstFault (sender : Key) (chain : Chain) (calls : List Call) (index : Nat)
    (fault : CallFault) : Prop :=
  ∃ mid call, chain.applyEach sender (calls.take index) = .ok mid ∧ calls[index]? = some call ∧
    mid.apply sender call = .error fault

theorem firstFault_zero_iff {fault : CallFault} :
    FirstFault sender chain (call :: rest) 0 fault ↔ chain.apply sender call = .error fault := by
  constructor
  · rintro ⟨mid, _, ⟨⟩, ⟨⟩, hfault⟩
    exact hfault
  · intro hfault
    exact ⟨chain, call, rfl, rfl, hfault⟩

theorem firstFault_succ_iff {index : Nat} {fault : CallFault} :
    FirstFault sender chain (call :: rest) (index + 1) fault ↔
      ∃ mid, chain.apply sender call = .ok mid ∧ FirstFault sender mid rest index fault := by
  simp only [FirstFault, List.take_succ_cons, applyEach_cons_eq_ok_iff, List.getElem?_cons_succ]
  constructor
  · rintro ⟨last, failed, ⟨mid, happly, hrest⟩, hget, hfault⟩
    exact ⟨mid, happly, last, failed, hrest, hget, hfault⟩
  · rintro ⟨mid, happly, last, failed, hrest, hget, hfault⟩
    exact ⟨last, failed, ⟨mid, happly, hrest⟩, hget, hfault⟩

/-- Counting along does not change what calls come to. -/
theorem applyFrom_eq_ok_iff {index : Nat} :
    applyFrom sender index chain calls = .ok chain' ↔
      chain.applyEach sender calls = .ok chain' := by
  induction calls generalizing index chain with
  | nil => exact Iff.rfl
  | cons call rest ih => simp only [applyFrom_cons_eq_ok_iff, applyEach_cons_eq_ok_iff, ih]

/-- The fault that is told is that of the first call that fails, with its index. -/
theorem applyFrom_eq_error_iff {start : Nat} {e : CallFault} :
    applyFrom sender start chain calls = .error e ↔
      ∃ index fault, FirstFault sender chain calls index fault ∧
        e = .inCall (start + index) fault := by
  induction calls generalizing start chain with
  | nil =>
    refine iff_of_false (by simp [applyFrom]) ?_
    rintro ⟨_, _, ⟨_, _, -, hget, -⟩, -⟩
    cases hget
  | cons call rest ih =>
    rw [applyFrom]
    cases happly : chain.apply sender call with
    | error fault =>
      -- The first call fails, so no later one is the first to do so.
      constructor
      · rintro ⟨⟩
        exact ⟨0, fault, firstFault_zero_iff.mpr happly, rfl⟩
      · rintro ⟨index, fault', hfirst, rfl⟩
        cases index with
        | zero =>
          obtain rfl := Except.error.inj (happly.symm.trans (firstFault_zero_iff.mp hfirst))
          rfl
        | succ index =>
          obtain ⟨mid, hmid, -⟩ := firstFault_succ_iff.mp hfirst
          cases happly.symm.trans hmid
    | ok mid =>
      dsimp only
      rw [ih]
      constructor
      · rintro ⟨index, fault, hfirst, rfl⟩
        refine ⟨index + 1, fault, firstFault_succ_iff.mpr ⟨mid, happly, hfirst⟩, ?_⟩
        rw [Nat.add_right_comm, Nat.add_assoc]
      · rintro ⟨index, fault, hfirst, rfl⟩
        cases index with
        | zero => cases happly.symm.trans (firstFault_zero_iff.mp hfirst)
        | succ index =>
          obtain ⟨mid', hmid, hfirst⟩ := firstFault_succ_iff.mp hfirst
          obtain rfl := Except.ok.inj (happly.symm.trans hmid)
          refine ⟨index, fault, hfirst, ?_⟩
          rw [Nat.add_right_comm, Nat.add_assoc]

/-- **Calls that are carried out conserve value.** -/
theorem conserves_applyEach (h : chain.applyEach sender calls = .ok chain') :
    Conserves sender chain chain' ∧ chain'.transactions = chain.transactions := by
  induction calls generalizing chain with
  | nil =>
    cases h
    exact ⟨.refl sender _, rfl⟩
  | cons call rest ih =>
    obtain ⟨mid, happly, hrest⟩ := applyEach_cons_eq_ok_iff.mp h
    obtain ⟨hconserves, htransactions⟩ := ih hrest
    exact ⟨(conserves_apply happly).trans hconserves,
      htransactions.trans (transactions_apply happly)⟩

/-- Calls are turned back for their first fault, and then nothing has happened. -/
theorem execute_eq_error_iff {e : Error} :
    chain.execute sender calls = (.error e, chain') ↔
      chain' = chain ∧ ∃ index fault, FirstFault sender chain calls index fault ∧
        e = .callFailed (.inCall index fault) := by
  have hfault : chain.execute sender calls = (.error e, chain') ↔
      chain' = chain ∧ ∃ f, applyFrom sender 0 chain calls = .error f ∧ e = .callFailed f := by
    unfold execute
    cases applyFrom sender 0 chain calls with
    | error f => simp [eq_comm, and_comm]
    | ok staged => simp
  simp only [hfault, applyFrom_eq_error_iff, Nat.zero_add]
  refine and_congr_right fun _ => ?_
  constructor
  · rintro ⟨_, ⟨index, fault, hfirst, rfl⟩, rfl⟩
    exact ⟨index, fault, hfirst, rfl⟩
  · rintro ⟨index, fault, hfirst, rfl⟩
    exact ⟨_, ⟨index, fault, hfirst, rfl⟩, rfl⟩

/-- Calls that are carried out conserve value, and there is one transaction more. -/
theorem conserves_execute {signature : Signature}
    (h : chain.execute sender calls = (.ok signature, chain')) :
    Conserves sender chain chain' ∧ chain'.transactions = chain.transactions ++ [signature] := by
  obtain ⟨staged, happly, -, rfl⟩ := execute_eq_ok_iff.mp h
  obtain ⟨hconserves, htransactions⟩ := conserves_applyEach (applyFrom_eq_ok_iff.mp happly)
  refine ⟨?_, congrArg (· ++ [signature]) htransactions⟩
  -- The transactions are no part of any balance.
  exact ⟨hconserves.lamports, hconserves.tokens, hconserves.wallets, hconserves.accounts,
    hconserves.owners, hconserves.failing, hconserves.program⟩

/-! ### Changes from outside -/

/-- From one chain to the next nothing changed but the lamports of a wallet, which are so many
now. -/
structure OnlyLamports (wallet : Key) (lamports : Nat) (chain chain' : Chain) : Prop where
  /-- The wallet has so many lamports. -/
  balance : (chain'.lamportsOf wallet).toNat = lamports
  /-- Every other wallet has as many as before. -/
  others : ∀ other, other ≠ wallet → chain'.lamportsOf other = chain.lamportsOf other
  /-- Nothing but lamports changed. -/
  rest : chain' = { chain with lamports := chain'.lamports }

/-- From one chain to the next nothing changed but a token account, which holds so many units now
and, if there was none, is its owner's. -/
structure OnlyTokens (account owner : Key) (units : Nat) (chain chain' : Chain) : Prop where
  /-- The account holds so many units. -/
  balance : (chain'.tokensIn account).toNat = units
  /-- It is whose it was, or its owner's if there was none. -/
  owned : chain'.ownerOf? account = some ((chain.ownerOf? account).getD owner)
  /-- Every other account is as before. -/
  others : ∀ other, other ≠ account → chain'.tokensIn other = chain.tokensIn other ∧
    chain'.ownerOf? other = chain.ownerOf? other
  /-- Nothing but token accounts changed. -/
  rest : chain' = { chain with tokenAccounts := chain'.tokenAccounts }

theorem onlyLamports_credit {wallet : Key} {amount : Amount}
    (h : chain.credit wallet amount = .ok chain') :
    OnlyLamports wallet ((chain.lamportsOf wallet).toNat + amount.toNat) chain chain' := by
  have hgiven := lamportsOf_credit h
  refine ⟨?_, fun other hother => UInt64.toNat_inj.mp ?_, ?_⟩
  · rw [hgiven, if_pos rfl]
  · rw [hgiven, if_neg hother, Nat.add_zero]
  · obtain ⟨_, -, rfl⟩ := credit_eq_ok_iff.mp h
    rfl

theorem onlyLamports_debit {wallet : Key} {amount : Amount}
    (h : chain.debit wallet amount = .ok chain') :
    OnlyLamports wallet ((chain.lamportsOf wallet).toNat - amount.toNat) chain chain' := by
  have hleft := lamportsOf_debit h
  refine ⟨?_, fun other hother => UInt64.toNat_inj.mp ?_, ?_⟩
  · rw [← hleft wallet, if_pos rfl, Nat.add_sub_cancel]
  · rw [← hleft other, if_neg hother, Nat.add_zero]
  · obtain ⟨_, -, rfl⟩ := debit_eq_ok_iff.mp h
    rfl

theorem onlyTokens_creditTokens {account owner : Key} {amount : Amount}
    (h : chain.creditTokens account owner amount = .ok chain') :
    OnlyTokens account owner ((chain.tokensIn account).toNat + amount.toNat) chain chain' := by
  have hgiven := tokensIn_creditTokens h
  obtain ⟨total, -, rfl⟩ := creditTokens_eq_ok_iff.mp h
  refine ⟨?_, ?_, fun other hother => ⟨UInt64.toNat_inj.mp ?_, ?_⟩, rfl⟩
  · rw [hgiven, if_pos rfl]
  · rw [ownerOf?_put, if_pos rfl]
  · rw [hgiven, if_neg hother, Nat.add_zero]
  · rw [ownerOf?_put, if_neg hother]

theorem fault_of_credit {wallet : Key} {amount : Amount} {e : CallFault}
    (h : chain.credit wallet amount = .error e) : e = .overflow := by
  unfold credit at h
  split at h <;> cases h
  rfl

theorem fault_of_debit {wallet : Key} {amount : Amount} {e : CallFault}
    (h : chain.debit wallet amount = .error e) :
    e = .shortfall .sol (chain.lamportsOf wallet) amount := by
  unfold debit at h
  split at h <;> cases h
  rfl

theorem fault_of_creditTokens {account owner : Key} {amount : Amount} {e : CallFault}
    (h : chain.creditTokens account owner amount = .error e) : e = .overflow := by
  unfold creditTokens at h
  dsimp only at h
  split at h <;> cases h
  rfl

/-- A change from outside either happens, or nothing does. -/
theorem commit_spec {change : Except CallFault Chain} {possible : Prop} [Decidable possible]
    {changed : Chain → Prop} {fault : CallFault} (hpossible : change.isOk = true ↔ possible)
    (hchanged : ∀ chain', change = .ok chain' → changed chain')
    (hfault : ∀ e, change = .error e → e = fault) :
    if possible then ∃ chain', chain.commit change = (.ok (), chain') ∧ changed chain'
    else chain.commit change = (.error (faultError fault), chain) := by
  cases change with
  | ok chain' =>
    rw [if_pos (hpossible.mp rfl)]
    exact ⟨chain', rfl, hchanged chain' rfl⟩
  | error e =>
    obtain rfl := hfault e rfl
    rw [if_neg (mt hpossible.mpr Bool.false_ne_true)]
    rfl

/-- **Lamports are given** exactly when there is room for them. -/
theorem airdrop_spec (chain : Chain) (wallet : Key) (lamports : Amount) :
    if (chain.lamportsOf wallet).toNat + lamports.toNat < UInt64.size then
      ∃ chain', chain.airdrop wallet lamports = (.ok (), chain') ∧
        OnlyLamports wallet ((chain.lamportsOf wallet).toNat + lamports.toNat) chain chain'
    else chain.airdrop wallet lamports = (.error .overflow, chain) :=
  commit_spec isOk_credit_iff (fun _ => onlyLamports_credit) fun _ => fault_of_credit

/-- **Units are given** exactly when there is room for them. -/
theorem mint_spec (chain : Chain) (account owner : Key) (amount : Amount) :
    if (chain.tokensIn account).toNat + amount.toNat < UInt64.size then
      ∃ chain', chain.mint account owner amount = (.ok (), chain') ∧
        OnlyTokens account owner ((chain.tokensIn account).toNat + amount.toNat) chain chain'
    else chain.mint account owner amount = (.error .overflow, chain) :=
  commit_spec isOk_creditTokens_iff (fun _ => onlyTokens_creditTokens) fun _ =>
    fault_of_creditTokens

/-- **A fee is taken** exactly when the payer has it. -/
theorem chargeFee_spec (chain : Chain) (payer : Key) (lamports : Amount) :
    if lamports.toNat ≤ (chain.lamportsOf payer).toNat then
      ∃ chain', chain.chargeFee payer lamports = (.ok (), chain') ∧
        OnlyLamports payer ((chain.lamportsOf payer).toNat - lamports.toNat) chain chain'
    else chain.chargeFee payer lamports =
      (.error (.insufficientBalance .sol (chain.lamportsOf payer) lamports), chain) :=
  commit_spec isOk_debit_iff (fun _ => onlyLamports_debit) fun _ => fault_of_debit

/-! ### Together -/

/-- **An in-memory chain is atomic and conserves value.** Whatever calls a sender has carried out,
classified or not:

* They fail exactly if one of them does when they are applied one after the other. Then the chain is
  what it was in every part, and the error names the first call that failed, by its index, and says
  why.
* If they are carried out, then value only changed hands, nobody but the sender lost any, and there
  is exactly one transaction more.

And lamports or units that are given from outside, or taken as a fee, change that one balance by
that amount if they can be, and nothing at all if they cannot. -/
theorem atomic_and_conserving (chain : Chain) :
    (∀ sender calls,
      (∀ e chain', chain.execute sender calls = (.error e, chain') ↔
        chain' = chain ∧ ∃ index fault, FirstFault sender chain calls index fault ∧
          e = .callFailed (.inCall index fault)) ∧
      (∀ signature chain', chain.execute sender calls = (.ok signature, chain') →
        Conserves sender chain chain' ∧
          chain'.transactions = chain.transactions ++ [signature])) ∧
    (∀ index fault, (Error.callFailed (.inCall index fault)).message =
      s!"Call failed: call {index}: {fault.message}") ∧
    (∀ wallet lamports,
      if (chain.lamportsOf wallet).toNat + lamports.toNat < UInt64.size then
        ∃ chain', chain.airdrop wallet lamports = (.ok (), chain') ∧
          OnlyLamports wallet ((chain.lamportsOf wallet).toNat + lamports.toNat) chain chain'
      else chain.airdrop wallet lamports = (.error .overflow, chain)) ∧
    (∀ account owner amount,
      if (chain.tokensIn account).toNat + amount.toNat < UInt64.size then
        ∃ chain', chain.mint account owner amount = (.ok (), chain') ∧
          OnlyTokens account owner ((chain.tokensIn account).toNat + amount.toNat) chain chain'
      else chain.mint account owner amount = (.error .overflow, chain)) ∧
    ∀ payer lamports,
      if lamports.toNat ≤ (chain.lamportsOf payer).toNat then
        ∃ chain', chain.chargeFee payer lamports = (.ok (), chain') ∧
          OnlyLamports payer ((chain.lamportsOf payer).toNat - lamports.toNat) chain chain'
      else chain.chargeFee payer lamports =
        (.error (.insufficientBalance .sol (chain.lamportsOf payer) lamports), chain) := by
  refine ⟨fun sender calls => ⟨fun e chain' => execute_eq_error_iff, fun signature chain' => ?_⟩,
    Error.message_inCall, chain.airdrop_spec, chain.mint_spec, chain.chargeFee_spec⟩
  exact conserves_execute

/-- Three payments of one batch: fifteen units into a token account that is created for them, and
twice sixty lamports. -/
def payments : List Call :=
  [⟨Token.standardProgram, 0, Token.Instruction.transferData 15,
      [.repeating 7, .repeating 9, .repeating 5]⟩,
    .native (.repeating 10) 60, .native (.repeating 11) 60]

/-- The small account cannot make the third payment, so none is made. The first two by themselves
conserve its value, and are one transaction. -/
theorem funded_payments :
    Chain.funded.execute (.repeating 5) payments =
        (.error (.callFailed (.inCall 2 (.shortfall .sol 40 60))), .funded) ∧
      Conserves (.repeating 5) .funded (Chain.funded.execute (.repeating 5) (payments.take 2)).2 ∧
      (Chain.funded.execute (.repeating 5) (payments.take 2)).2.transactions =
        [.numbered 0] := by
  have hfails := ((atomic_and_conserving .funded).1 (.repeating 5) payments).1
  have hcarried := ((atomic_and_conserving .funded).1 (.repeating 5) (payments.take 2)).2
    (.numbered 0) _ (Prod.ext (by decide) rfl)
  exact ⟨(hfails _ _).mpr ⟨rfl, 2, _, ⟨_, _, rfl, rfl, rfl⟩, rfl⟩, hcarried⟩

end Chain

end SpendGuard
