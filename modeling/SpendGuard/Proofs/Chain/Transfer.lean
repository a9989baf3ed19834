import SpendGuard.Proofs.Chain.Outflow
import SpendGuard.Proofs.Success

/-!
# Bystanders and transfers

Two facts about the in-memory chain that payments rest on. Calls leave the lamports of everyone
alone who neither sends nor receives them (`Chain.lamportsOf_execute_of_bystander`). And the two
calls that the library makes itself are carried out exactly when nothing stands in their way: a
plain transfer of lamports (`Chain.isOk_apply_plain_iff`), and a token transfer
(`Chain.Transferable`). Either passes its amount from one key to another and does nothing else to
any balance (`Chain.Sends`).
-/

namespace SpendGuard

/-! ### Passing on -/

/-- So much of what keys have passed from one key to another; no other key is concerned. -/
def Passed (amount : Nat) (source destination : Key) (before after : Key → Amount) : Prop :=
  ∀ key, (after key).toNat + (if key = source then amount else 0) =
    (before key).toNat + if key = destination then amount else 0

namespace Passed

variable {amount amount' : Nat} {source destination : Key} {before between after : Key → Amount}

theorem nothing : Passed 0 source destination before before := fun key => by rw [ite_self, ite_self]

theorem trans (h : Passed amount source destination before between)
    (h' : Passed amount' source destination between after) :
    Passed (amount + amount') source destination before after := by
  intro key
  have hfirst := h key
  have hthen := h' key
  split_ifs at hfirst hthen ⊢ <;> omega

section Apart

variable (h : Passed amount source destination before after)
include h

theorem left (hapart : destination ≠ source) :
    (after source).toNat + amount = (before source).toNat := by
  have hsource := h source
  rwa [if_pos rfl, if_neg hapart.symm, Nat.add_zero] at hsource

theorem arrived (hapart : destination ≠ source) :
    (after destination).toNat = (before destination).toNat + amount := by
  have hdestination := h destination
  rwa [if_neg hapart, if_pos rfl, Nat.add_zero] at hdestination

theorem kept {key : Key} (hsource : key ≠ source) (hdestination : key ≠ destination) :
    after key = before key := by
  have hkey := h key
  rw [if_neg hsource, if_neg hdestination] at hkey
  exact UInt64.toNat_inj.mp hkey

/-- A key that has passed on all it had has nothing. -/
theorem emptied (hapart : destination ≠ source) (hall : (before source).toNat = amount) :
    after source = 0 := by
  have hleft := h.left hapart
  exact UInt64.toNat_inj.mp (by rw [UInt64.toNat_zero]; omega)

end Apart

end Passed

namespace Chain

variable {chain chain' chain'' : Chain} {sender wallet : Key}

/-! ### Bystanders -/

theorem lamportsOf_apply_of_bystander {call : Call} (hsender : wallet ≠ sender)
    (htarget : wallet ≠ call.target) (h : chain.apply sender call = .ok chain') :
    chain'.lamportsOf wallet = chain.lamportsOf wallet := by
  rcases apply_eq_ok_iff.mp h with ⟨-, ⟨-, debited, hdebit, hcredit⟩ | ⟨-, amount, -, htransfer⟩⟩
  · have hleft := lamportsOf_debit hdebit wallet
    have hgiven := lamportsOf_credit hcredit wallet
    rw [if_neg hsender] at hleft
    rw [if_neg htarget] at hgiven
    exact UInt64.toNat_inj.mp (hgiven.trans hleft)
  · exact lamportsOf_transferTokens htransfer wallet

theorem lamportsOf_applyFrom_of_bystander {calls : List Call} {index : Nat}
    (hsender : wallet ≠ sender) (htargets : ∀ call ∈ calls, wallet ≠ call.target)
    (h : applyFrom sender index chain calls = .ok chain') :
    chain'.lamportsOf wallet = chain.lamportsOf wallet := by
  induction calls generalizing index chain with
  | nil =>
    cases h
    rfl
  | cons call rest ih =>
    obtain ⟨htarget, hrest⟩ := List.forall_mem_cons.mp htargets
    obtain ⟨mid, happly, hcarried⟩ := applyFrom_cons_eq_ok_iff.mp h
    exact (ih hrest hcarried).trans (lamportsOf_apply_of_bystander hsender htarget happly)

/-- **Bystanders keep their lamports**, whether calls succeed or fail. -/
theorem lamportsOf_execute_of_bystander {calls : List Call} {answer : Except Error Signature}
    (hsender : wallet ≠ sender) (htargets : ∀ call ∈ calls, wallet ≠ call.target)
    (h : chain.execute sender calls = (answer, chain')) :
    chain'.lamportsOf wallet = chain.lamportsOf wallet := by
  cases answer with
  | error e => rw [eq_of_execute_eq_error h]
  | ok signature =>
    obtain ⟨staged, happly, -, rfl⟩ := execute_eq_ok_iff.mp h
    have hstaged := lamportsOf_applyFrom_of_bystander hsender htargets happly
    exact hstaged

/-- A single call is carried out when it is carried out first. -/
theorem execute_singleton_eq_ok_iff {call : Call} {signature : Signature} :
    chain.execute sender [call] = (.ok signature, chain') ↔
      ∃ staged, chain.apply sender call = .ok staged ∧
        signature = .numbered staged.transactions.length ∧
        chain' = { staged with transactions := staged.transactions ++ [signature] } := by
  have happly {staged : Chain} :
      applyFrom sender 0 chain [call] = .ok staged ↔ chain.apply sender call = .ok staged := by
    rw [applyFrom_cons_eq_ok_iff]
    simp only [applyFrom, Except.ok.injEq, exists_eq_right]
  simp only [execute_eq_ok_iff, happly]

/-- Whether calls are carried out is told by the chain that they would leave behind. -/
theorem isOk_execute (calls : List Call) :
    (chain.execute sender calls).1.isOk = (applyFrom sender 0 chain calls).isOk := by
  unfold execute
  cases applyFrom sender 0 chain calls <;> rfl

/-- The first call has to be carried out, and the rest on the chain that it leaves behind. -/
theorem isOk_applyFrom_cons_iff {call : Call} {rest : List Call} {index : Nat} :
    (applyFrom sender index chain (call :: rest)).isOk = true ↔
      ∃ mid, chain.apply sender call = .ok mid ∧
        (applyFrom sender (index + 1) mid rest).isOk = true := by
  simp only [isOk_iff_exists, applyFrom_cons_eq_ok_iff]
  constructor
  · rintro ⟨last, mid, happly, hrest⟩
    exact ⟨mid, happly, last, hrest⟩
  · rintro ⟨mid, happly, last, hrest⟩
    exact ⟨last, mid, happly, hrest⟩

/-! ### Sending -/

variable {recipient source destination : Key} {sol token sol' token' : Nat}

/-- Lamports passed from a wallet to another and units from a token account to another, so many of
each. -/
structure Sends (sender recipient source destination : Key) (sol token : Nat)
    (chain chain' : Chain) : Prop where
  /-- The lamports of the wallets. -/
  lamports : Passed sol sender recipient chain.lamportsOf chain'.lamportsOf
  /-- The units in the token accounts. -/
  units : Passed token source destination chain.tokensIn chain'.tokensIn

theorem Sends.nothing : Sends sender recipient source destination 0 0 chain chain :=
  ⟨.nothing, .nothing⟩

/-- What is sent at once and what is sent after it adds up. -/
theorem Sends.trans (h : Sends sender recipient source destination sol token chain chain')
    (h' : Sends sender recipient source destination sol' token' chain' chain'') :
    Sends sender recipient source destination (sol + sol') (token + token') chain chain'' :=
  ⟨h.lamports.trans h'.lamports, h.units.trans h'.units⟩

/-! ### Plain transfers -/

/-- A plain transfer concerns lamports only. -/
theorem exists_lamports_of_apply_plain {lamports : Amount}
    (h : chain.apply sender (.native recipient lamports) = .ok chain') :
    ∃ table, chain' = { chain with lamports := table } := by
  rcases apply_eq_ok_iff.mp h with ⟨-, ⟨-, _, hdebit, hcredit⟩ | ⟨-, _, hdecode, -⟩⟩
  · obtain ⟨_, -, rfl⟩ := debit_eq_ok_iff.mp hdebit
    obtain ⟨_, -, rfl⟩ := credit_eq_ok_iff.mp hcredit
    exact ⟨_, rfl⟩
  · cases hdecode

/-- A plain transfer sends its lamports. -/
theorem sends_of_apply_plain {lamports : Amount}
    (h : chain.apply sender (.native recipient lamports) = .ok chain') :
    Sends sender recipient source destination lamports.toNat 0 chain chain' := by
  refine ⟨fun wallet => ?_, fun account => ?_⟩
  · rcases apply_eq_ok_iff.mp h with ⟨-, ⟨-, debited, hdebit, hcredit⟩ | ⟨-, _, hdecode, -⟩⟩
    · have hleft : (debited.lamportsOf wallet).toNat +
          (if wallet = sender then lamports.toNat else 0) = (chain.lamportsOf wallet).toNat :=
        lamportsOf_debit hdebit wallet
      have hgiven : (chain'.lamportsOf wallet).toNat = (debited.lamportsOf wallet).toNat +
          if wallet = recipient then lamports.toNat else 0 := lamportsOf_credit hcredit wallet
      omega
    · cases hdecode
  · obtain ⟨table, rfl⟩ := exists_lamports_of_apply_plain h
    rw [ite_self, ite_self]
    rfl

/-- **A plain transfer is carried out** exactly when the recipient is neither the token program nor
turns calls back, the sender has the lamports, and the recipient has room for them. Whoever sends to
itself always has. -/
theorem isOk_apply_plain_iff {lamports : Amount} :
    (chain.apply sender (.native recipient lamports)).isOk = true ↔
      recipient ∉ chain.failing ∧ recipient ≠ chain.tokenProgram ∧
        lamports.toNat ≤ (chain.lamportsOf sender).toNat ∧
        (recipient = sender ∨
          (chain.lamportsOf recipient).toNat + lamports.toNat < UInt64.size) := by
  have hroom {debited : Chain} (hdebit : chain.debit sender lamports = .ok debited) :
      (debited.credit recipient lamports).isOk = true ↔ recipient = sender ∨
        (chain.lamportsOf recipient).toNat + lamports.toNat < UInt64.size := by
    have hleft := lamportsOf_debit hdebit recipient
    rw [isOk_credit_iff]
    by_cases hself : recipient = sender
    · rw [if_pos hself] at hleft
      exact iff_of_true (hleft ▸ Amount.toNat_lt _) (.inl hself)
    · rw [if_neg hself, Nat.add_zero] at hleft
      rw [hleft, or_iff_right hself]
  simp only [isOk_iff_exists, apply_eq_ok_iff]
  constructor
  · rintro ⟨chain', hruns, ⟨htarget, debited, hdebit, hcredit⟩ | ⟨-, _, hdecode, -⟩⟩
    · refine ⟨hruns, htarget, isOk_debit_iff.mp (isOk_iff_exists.mpr ⟨_, hdebit⟩), ?_⟩
      exact (hroom hdebit).mp (isOk_iff_exists.mpr ⟨_, hcredit⟩)
    · cases hdecode
  · rintro ⟨hruns, htarget, hcovered, hfits⟩
    obtain ⟨debited, hdebit⟩ := isOk_iff_exists.mp (isOk_debit_iff.mpr hcovered)
    obtain ⟨chain', hcredit⟩ := isOk_iff_exists.mp ((hroom hdebit).mpr hfits)
    exact ⟨chain', hruns, .inl ⟨htarget, debited, hdebit, hcredit⟩⟩

/-! ### Transfers that the library builds -/

/-- Nothing stands in the way of a token transfer that an account asks for: the token program runs,
the source is recorded as the account's and covers the amount, and the destination has room. -/
structure Transferable (chain : Chain) (source destination account : Key) (amount : Amount) :
    Prop where
  /-- Calls to the token program are not turned back. -/
  running : chain.tokenProgram ∉ chain.failing
  /-- The source is the account's. -/
  owned : chain.ownerOf? source = some account
  /-- It holds enough. -/
  covered : amount.toNat ≤ (chain.tokensIn source).toNat
  /-- What the destination holds afterwards fits. -/
  room : (chain.tokensIn destination).toNat + amount.toNat < UInt64.size

variable {account : Key} {amount : Amount} {call : Call} {signature : Signature}

instance : Decidable (chain.Transferable source destination account amount) :=
  decidable_of_iff
    (chain.tokenProgram ∉ chain.failing ∧ chain.ownerOf? source = some account ∧
      amount.toNat ≤ (chain.tokensIn source).toNat ∧
      (chain.tokensIn destination).toNat + amount.toNat < UInt64.size)
    ⟨fun ⟨running, owned, covered, room⟩ => ⟨running, owned, covered, room⟩,
      fun ⟨running, owned, covered, room⟩ => ⟨running, owned, covered, room⟩⟩

/-- A built transfer is read by its own token program as what it was built from. -/
theorem apply_transfer_eq_ok_iff
    (built : Call.tokenTransfer chain.tokenProgram source destination account amount = .ok call) :
    chain.apply account call = .ok chain' ↔
      chain.tokenProgram ∉ chain.failing ∧ ∃ debited,
        chain.debitTokens source account amount = .ok debited ∧
        debited.creditTokens destination .zero amount = .ok chain' := by
  have hdecode := Token.Instruction.decode?_transferData amount []
  rw [List.append_nil] at hdecode
  obtain ⟨-, rfl⟩ := Call.tokenTransfer_eq_ok_iff.mp built
  rw [apply_eq_ok_iff]
  simp [hdecode, transferTokens_eq_ok_iff]

/-- A built transfer sends its units. -/
theorem sends_of_apply_transfer {amount : Amount} {call : Call}
    (built : Call.tokenTransfer chain.tokenProgram source destination account amount = .ok call)
    (h : chain.apply account call = .ok chain') :
    Sends account recipient source destination 0 amount.toNat chain chain' := by
  obtain ⟨-, debited, hdebit, hcredit⟩ := (apply_transfer_eq_ok_iff built).mp h
  refine ⟨fun wallet => ?_, fun account => ?_⟩
  · obtain ⟨_, -, -, rfl⟩ := debitTokens_eq_ok_iff.mp hdebit
    obtain ⟨_, -, rfl⟩ := creditTokens_eq_ok_iff.mp hcredit
    rw [ite_self, ite_self]
    rfl
  · have hleft := tokensIn_debitTokens hdebit account
    have hgiven := tokensIn_creditTokens hcredit account
    omega

/-- A built transfer can be carried out exactly when the token program runs, the source is recorded
as the account's and covers the amount, and the destination has room for it. Whoever sends to the
source itself always has. -/
theorem isOk_apply_transfer_iff
    (built : Call.tokenTransfer chain.tokenProgram source destination account amount = .ok call) :
    (chain.apply account call).isOk = true ↔
      chain.tokenProgram ∉ chain.failing ∧ chain.ownerOf? source = some account ∧
        amount.toNat ≤ (chain.tokensIn source).toNat ∧
        (destination = source ∨
          (chain.tokensIn destination).toNat + amount.toNat < UInt64.size) := by
  have hroom {debited : Chain} (hdebit : chain.debitTokens source account amount = .ok debited) :
      (debited.creditTokens destination .zero amount).isOk = true ↔ destination = source ∨
        (chain.tokensIn destination).toNat + amount.toNat < UInt64.size := by
    have hleft := tokensIn_debitTokens hdebit destination
    rw [isOk_creditTokens_iff]
    by_cases hself : destination = source
    · rw [if_pos hself] at hleft
      exact iff_of_true (hleft ▸ Amount.toNat_lt _) (.inl hself)
    · rw [if_neg hself, Nat.add_zero] at hleft
      rw [hleft, or_iff_right hself]
  simp only [isOk_iff_exists, apply_transfer_eq_ok_iff built]
  constructor
  · rintro ⟨chain', hruns, debited, hdebit, hcredit⟩
    obtain ⟨howned, hcovered⟩ := isOk_debitTokens_iff.mp (isOk_iff_exists.mpr ⟨_, hdebit⟩)
    exact ⟨hruns, howned, hcovered, (hroom hdebit).mp (isOk_iff_exists.mpr ⟨_, hcredit⟩)⟩
  · rintro ⟨hruns, howned, hcovered, hfits⟩
    obtain ⟨debited, hdebit⟩ :=
      isOk_iff_exists.mp (isOk_debitTokens_iff.mpr ⟨howned, hcovered⟩)
    obtain ⟨chain', hcredit⟩ := isOk_iff_exists.mp ((hroom hdebit).mpr hfits)
    exact ⟨chain', hruns, debited, hdebit, hcredit⟩

/-- **A built transfer is carried out** exactly when nothing stands in its way. -/
theorem isOk_execute_transfer_iff
    (built : Call.tokenTransfer chain.tokenProgram source destination account amount = .ok call)
    (hapart : destination ≠ source) :
    (chain.execute account [call]).1.isOk = true ↔
      chain.Transferable source destination account amount := by
  have halone : (chain.execute account [call]).1.isOk = true ↔
      (chain.apply account call).isOk = true := by
    rw [isOk_execute, isOk_applyFrom_cons_iff, isOk_iff_exists]
    exact exists_congr fun _ => and_iff_left rfl
  rw [halone, isOk_apply_transfer_iff built, or_iff_right hapart]
  constructor
  · rintro ⟨running, owned, covered, room⟩
    exact ⟨running, owned, covered, room⟩
  · rintro ⟨running, owned, covered, room⟩
    exact ⟨running, owned, covered, room⟩

/-- A built transfer that is carried out passes its amount on. To a chain with another token program
it is a plain transfer of nothing. -/
theorem passed_execute_transfer {program : Key}
    (built : Call.tokenTransfer program source destination account amount = .ok call)
    (h : chain.execute account [call] = (.ok signature, chain')) :
    Passed (if program = chain.tokenProgram then amount.toNat else 0) source destination
      chain.tokensIn chain'.tokensIn := by
  obtain ⟨staged, happly, -, rfl⟩ := execute_singleton_eq_ok_iff.mp h
  -- The transactions are no part of any balance.
  change Passed _ source destination chain.tokensIn staged.tokensIn
  split
  · next hprogram =>
    subst hprogram
    have hsends : Sends account account source destination 0 amount.toNat chain staged :=
      sends_of_apply_transfer built happly
    exact hsends.units
  · next hprogram =>
    obtain ⟨-, rfl⟩ := Call.tokenTransfer_eq_ok_iff.mp built
    rcases apply_eq_ok_iff.mp happly with ⟨-, ⟨-, debited, hdebit, hcredit⟩ | ⟨htarget, -⟩⟩
    · obtain ⟨_, -, rfl⟩ := debit_eq_ok_iff.mp hdebit
      obtain ⟨_, -, rfl⟩ := credit_eq_ok_iff.mp hcredit
      exact .nothing
    · exact absurd htarget hprogram

/-- Whatever program a chain takes for the token program, a built transfer moves no lamports. -/
theorem lamportsOf_execute_transfer {program : Key}
    (built : Call.tokenTransfer program source destination account amount = .ok call)
    (h : chain.execute account [call] = (.ok signature, chain')) (wallet : Key) :
    chain'.lamportsOf wallet = chain.lamportsOf wallet := by
  obtain ⟨staged, happly, -, rfl⟩ := execute_singleton_eq_ok_iff.mp h
  have hvalue : call.value = 0 := by rw [(Call.tokenTransfer_eq_ok_iff.mp built).2]
  change staged.lamportsOf wallet = chain.lamportsOf wallet
  rcases apply_eq_ok_iff.mp happly with ⟨-, ⟨-, debited, hdebit, hcredit⟩ | ⟨-, _, -, htransfer⟩⟩
  · have hleft := lamportsOf_debit hdebit wallet
    have hgiven := lamportsOf_credit hcredit wallet
    rw [hvalue, UInt64.toNat_zero, ite_self] at hleft hgiven
    exact UInt64.toNat_inj.mp (hgiven.trans hleft)
  · exact lamportsOf_transferTokens htransfer wallet

/-- A built transfer takes no more units from the account than its amount. -/
theorem tokensOwnedBy_execute_transfer_le {program : Key}
    (built : Call.tokenTransfer program source destination account amount = .ok call)
    (h : chain.execute account [call] = (.ok signature, chain')) :
    chain.tokensOwnedBy account ≤ chain'.tokensOwnedBy account + amount.toNat := by
  obtain ⟨staged, happly, -, rfl⟩ := execute_singleton_eq_ok_iff.mp h
  change chain.tokensOwnedBy account ≤ staged.tokensOwnedBy account + amount.toNat
  have htarget : call.target = program := by rw [(Call.tokenTransfer_eq_ok_iff.mp built).2]
  by_cases hprogram : call.target = chain.tokenProgram
  · have hclass := Call.classify_of_tokenTransfer built
    rw [← htarget, hprogram] at hclass
    exact (paysOut_of_apply hclass happly).token_le
  · -- To a chain with another token program the call is a plain transfer of nothing.
    have := (paysOut_of_apply_native hprogram happly).token_le
    omega

/-! ### Network fees -/

theorem chargeFee_eq_ok_iff {payer : Key} {lamports : Amount} :
    chain.chargeFee payer lamports = (.ok (), chain') ↔
      chain.debit payer lamports = .ok chain' := by
  unfold chargeFee
  cases chain.debit payer lamports <;> simp [commit]

/-- A fee concerns lamports only. -/
theorem exists_lamports_of_chargeFee {payer : Key} {lamports : Amount}
    (h : chain.chargeFee payer lamports = (.ok (), chain')) :
    ∃ table, chain' = { chain with lamports := table } := by
  obtain ⟨_, -, rfl⟩ := debit_eq_ok_iff.mp (chargeFee_eq_ok_iff.mp h)
  exact ⟨_, rfl⟩

theorem isOk_chargeFee_iff {payer : Key} {lamports : Amount} :
    (chain.chargeFee payer lamports).1.isOk = true ↔
      lamports.toNat ≤ (chain.lamportsOf payer).toNat := by
  rw [← isOk_debit_iff]
  unfold chargeFee
  cases chain.debit payer lamports <;> simp [commit]

theorem eq_of_chargeFee_eq_error {payer : Key} {lamports : Amount} {e : Error}
    (h : chain.chargeFee payer lamports = (.error e, chain')) : chain' = chain := by
  unfold chargeFee commit at h
  split at h <;> cases h
  rfl

end Chain

end SpendGuard
