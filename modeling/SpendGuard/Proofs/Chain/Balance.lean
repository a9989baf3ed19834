import Mathlib.Tactic.Common
import SpendGuard.Chain
import SpendGuard.Proofs.Success

/-!
# Balances on the chain

The four changes that calls are made of: taking lamports or units from somewhere and giving them
to somewhere else. Each is described once, by when it happens and by what the chain is afterwards
(`debit_eq_ok_iff` and its like), in exact natural numbers. A call that is carried out is one debit
and one credit, of lamports or of units (`apply_eq_ok_iff`).
-/

namespace SpendGuard

namespace Chain

variable {chain chain' : Chain}

/-! ### Views -/

/-- Whose a token account is, if there is one. -/
def ownerOf? (chain : Chain) (account : Key) : Option Key :=
  (chain.tokenAccounts.get? account).map (·.owner)

/-- The units in all token accounts that are recorded as owned by a key. -/
def tokensOwnedBy (chain : Chain) (owner : Key) : Nat :=
  chain.tokenAccounts.sum fun _ a => if a.owner = owner then a.amount.toNat else 0

/-- An account that does not exist holds nothing. -/
theorem tokensIn_eq_zero {account : Key} (h : chain.ownerOf? account = none) :
    chain.tokensIn account = 0 := by
  have hnone : chain.tokenAccounts.get? account = none := by simpa [ownerOf?] using h
  simp [tokensIn, hnone]

theorem lamportsOf_put (table : Table Key Amount) (wallet other : Key) (amount : Amount) :
    lamportsOf { chain with lamports := table.put wallet amount } other =
      if other = wallet then amount else lamportsOf { chain with lamports := table } other := by
  unfold lamportsOf
  split
  · next h => rw [h, Table.get?_put_self]; rfl
  · next h => rw [Table.get?_put_of_ne _ _ h]

theorem ownerOf?_put (account other : Key) (held : TokenAccount) :
    ownerOf? { chain with tokenAccounts := chain.tokenAccounts.put account held } other =
      if other = account then some held.owner else chain.ownerOf? other := by
  unfold ownerOf?
  split
  · next h => rw [h, Table.get?_put_self]; rfl
  · next h => rw [Table.get?_put_of_ne _ _ h]

theorem tokensIn_put (account other : Key) (held : TokenAccount) :
    tokensIn { chain with tokenAccounts := chain.tokenAccounts.put account held } other =
      if other = account then held.amount else chain.tokensIn other := by
  unfold tokensIn
  split
  · next h => rw [h, Table.get?_put_self]; rfl
  · next h => rw [Table.get?_put_of_ne _ _ h]

/-- Storing a token account changes what its owners hold by the old and the new amount. -/
theorem tokensOwnedBy_put (account owner : Key) (held : TokenAccount) :
    tokensOwnedBy { chain with tokenAccounts := chain.tokenAccounts.put account held } owner +
      (if chain.ownerOf? account = some owner then (chain.tokensIn account).toNat else 0) =
    chain.tokensOwnedBy owner + if held.owner = owner then held.amount.toNat else 0 := by
  rw [tokensOwnedBy, tokensOwnedBy, ← Table.sum_put _ chain.tokenAccounts account held]
  congr 1
  unfold ownerOf? tokensIn
  cases chain.tokenAccounts.get? account <;> simp

/-! ### The four changes -/

/-- Lamports are taken when the wallet has them. -/
theorem debit_eq_ok_iff {wallet : Key} {amount : Amount} :
    chain.debit wallet amount = .ok chain' ↔
      ∃ left : Amount, amount.toNat + left.toNat = (chain.lamportsOf wallet).toNat ∧
        chain' = { chain with lamports := chain.lamports.put wallet left } := by
  simp only [← Amount.sub?_eq_some_iff]
  unfold debit
  cases Amount.sub? (chain.lamportsOf wallet) amount with
  | none => simp
  | some left => simp [eq_comm]

/-- Lamports are given when the sum fits. -/
theorem credit_eq_ok_iff {wallet : Key} {amount : Amount} :
    chain.credit wallet amount = .ok chain' ↔
      ∃ total : Amount, total.toNat = (chain.lamportsOf wallet).toNat + amount.toNat ∧
        chain' = { chain with lamports := chain.lamports.put wallet total } := by
  simp only [← Amount.add?_eq_some_iff]
  unfold credit
  cases Amount.add? (chain.lamportsOf wallet) amount with
  | none => simp
  | some total => simp [eq_comm]

/-- Units are taken when the account exists, belongs to the authority and has them. -/
theorem debitTokens_eq_ok_iff {account authority : Key} {amount : Amount} :
    chain.debitTokens account authority amount = .ok chain' ↔
      ∃ left : Amount, chain.ownerOf? account = some authority ∧
        amount.toNat + left.toNat = (chain.tokensIn account).toNat ∧
        chain' = { chain with
          tokenAccounts := chain.tokenAccounts.put account ⟨authority, left⟩ } := by
  simp only [← Amount.sub?_eq_some_iff]
  unfold debitTokens ownerOf? tokensIn
  cases chain.tokenAccounts.get? account with
  | none => simp
  | some held =>
    obtain ⟨owner, held⟩ := held
    by_cases howner : owner = authority
    · subst howner
      cases hleft : Amount.sub? held amount with
      | none => simp [hleft]
      | some left => simp [hleft, eq_comm]
    · simp [howner]

/-- Units are given when the sum fits; an account that does not exist begins empty, and it is
`owner`'s. -/
theorem creditTokens_eq_ok_iff {account owner : Key} {amount : Amount} :
    chain.creditTokens account owner amount = .ok chain' ↔
      ∃ total : Amount, total.toNat = (chain.tokensIn account).toNat + amount.toNat ∧
        chain' = { chain with
          tokenAccounts := chain.tokenAccounts.put account
            ⟨(chain.ownerOf? account).getD owner, total⟩ } := by
  simp only [← Amount.add?_eq_some_iff]
  have hamount : ((chain.tokenAccounts.get? account).getD ⟨owner, 0⟩).amount =
      chain.tokensIn account := by
    unfold tokensIn
    cases chain.tokenAccounts.get? account <;> rfl
  have howner : ((chain.tokenAccounts.get? account).getD ⟨owner, 0⟩).owner =
      (chain.ownerOf? account).getD owner := by
    unfold ownerOf?
    cases chain.tokenAccounts.get? account <;> rfl
  simp only [creditTokens, hamount, howner]
  cases Amount.add? (chain.tokensIn account) amount with
  | none => simp
  | some total => simp [eq_comm]

theorem isOk_debit_iff {wallet : Key} {amount : Amount} :
    (chain.debit wallet amount).isOk = true ↔
      amount.toNat ≤ (chain.lamportsOf wallet).toNat := by
  simp only [isOk_iff_exists, debit_eq_ok_iff]
  constructor
  · rintro ⟨_, left, hleft, rfl⟩
    omega
  · intro hle
    obtain ⟨left, hleft⟩ := Amount.exists_toNat_eq (Nat.lt_of_le_of_lt
      (Nat.sub_le (chain.lamportsOf wallet).toNat amount.toNat) (Amount.toNat_lt _))
    exact ⟨_, left, by omega, rfl⟩

theorem isOk_credit_iff {wallet : Key} {amount : Amount} :
    (chain.credit wallet amount).isOk = true ↔
      (chain.lamportsOf wallet).toNat + amount.toNat < UInt64.size := by
  simp only [isOk_iff_exists, credit_eq_ok_iff]
  constructor
  · rintro ⟨_, total, htotal, rfl⟩
    rw [← htotal]
    exact Amount.toNat_lt total
  · intro hfits
    obtain ⟨total, htotal⟩ := Amount.exists_toNat_eq hfits
    exact ⟨_, total, htotal, rfl⟩

theorem isOk_debitTokens_iff {account authority : Key} {amount : Amount} :
    (chain.debitTokens account authority amount).isOk = true ↔
      chain.ownerOf? account = some authority ∧
        amount.toNat ≤ (chain.tokensIn account).toNat := by
  simp only [isOk_iff_exists, debitTokens_eq_ok_iff]
  constructor
  · rintro ⟨_, left, howner, hleft, rfl⟩
    exact ⟨howner, by omega⟩
  · rintro ⟨howner, hle⟩
    obtain ⟨left, hleft⟩ := Amount.exists_toNat_eq (Nat.lt_of_le_of_lt
      (Nat.sub_le (chain.tokensIn account).toNat amount.toNat) (Amount.toNat_lt _))
    exact ⟨_, left, howner, by omega, rfl⟩

theorem isOk_creditTokens_iff {account owner : Key} {amount : Amount} :
    (chain.creditTokens account owner amount).isOk = true ↔
      (chain.tokensIn account).toNat + amount.toNat < UInt64.size := by
  simp only [isOk_iff_exists, creditTokens_eq_ok_iff]
  constructor
  · rintro ⟨_, total, htotal, rfl⟩
    rw [← htotal]
    exact Amount.toNat_lt total
  · intro hfits
    obtain ⟨total, htotal⟩ := Amount.exists_toNat_eq hfits
    exact ⟨_, total, htotal, rfl⟩

/-! ### What the changes do to the views -/

theorem lamportsOf_debit {wallet : Key} {amount : Amount}
    (h : chain.debit wallet amount = .ok chain') (other : Key) :
    (chain'.lamportsOf other).toNat + (if other = wallet then amount.toNat else 0) =
      (chain.lamportsOf other).toNat := by
  obtain ⟨left, hleft, rfl⟩ := debit_eq_ok_iff.mp h
  rw [lamportsOf_put]
  split
  · next hother =>
    subst hother
    omega
  · rfl

theorem lamportsOf_credit {wallet : Key} {amount : Amount}
    (h : chain.credit wallet amount = .ok chain') (other : Key) :
    (chain'.lamportsOf other).toNat =
      (chain.lamportsOf other).toNat + if other = wallet then amount.toNat else 0 := by
  obtain ⟨total, htotal, rfl⟩ := credit_eq_ok_iff.mp h
  rw [lamportsOf_put]
  split
  · next hother =>
    subst hother
    exact htotal
  · rfl

theorem tokensIn_debitTokens {account authority : Key} {amount : Amount}
    (h : chain.debitTokens account authority amount = .ok chain') (other : Key) :
    (chain'.tokensIn other).toNat + (if other = account then amount.toNat else 0) =
      (chain.tokensIn other).toNat := by
  obtain ⟨left, -, hleft, rfl⟩ := debitTokens_eq_ok_iff.mp h
  rw [tokensIn_put]
  split
  · next hother =>
    subst hother
    dsimp only
    omega
  · rfl

theorem tokensIn_creditTokens {account owner : Key} {amount : Amount}
    (h : chain.creditTokens account owner amount = .ok chain') (other : Key) :
    (chain'.tokensIn other).toNat =
      (chain.tokensIn other).toNat + if other = account then amount.toNat else 0 := by
  obtain ⟨total, htotal, rfl⟩ := creditTokens_eq_ok_iff.mp h
  rw [tokensIn_put]
  split
  · next hother =>
    subst hother
    exact htotal
  · rfl

theorem tokensOwnedBy_debitTokens {account authority : Key} {amount : Amount}
    (h : chain.debitTokens account authority amount = .ok chain') (owner : Key) :
    chain'.tokensOwnedBy owner + (if authority = owner then amount.toNat else 0) =
      chain.tokensOwnedBy owner := by
  obtain ⟨left, howner, hleft, rfl⟩ := debitTokens_eq_ok_iff.mp h
  have hput := chain.tokensOwnedBy_put account owner ⟨authority, left⟩
  rw [howner] at hput
  by_cases hauthority : authority = owner
  · simp only [hauthority, if_true] at hput ⊢
    omega
  · simpa [hauthority] using hput

theorem tokensOwnedBy_creditTokens {account owner : Key} {amount : Amount}
    (h : chain.creditTokens account owner amount = .ok chain') (other : Key) :
    chain'.tokensOwnedBy other =
      chain.tokensOwnedBy other +
        if chain'.ownerOf? account = some other then amount.toNat else 0 := by
  obtain ⟨total, htotal, rfl⟩ := creditTokens_eq_ok_iff.mp h
  have hput := chain.tokensOwnedBy_put account other ⟨(chain.ownerOf? account).getD owner, total⟩
  rw [ownerOf?_put, if_pos rfl]
  cases howner : chain.ownerOf? account with
  | none =>
    have hempty : (chain.tokensIn account).toNat = 0 :=
      congrArg UInt64.toNat (tokensIn_eq_zero howner)
    simp only [howner, Option.getD_none, reduceCtorEq, if_false, Option.some.injEq] at hput ⊢
    by_cases howned : owner = other
    · simp only [howned, if_true] at hput ⊢
      omega
    · simpa [howned] using hput
  | some held =>
    simp only [howner, Option.getD_some, Option.some.injEq] at hput ⊢
    by_cases hheld : held = other
    · simp only [hheld, if_true] at hput ⊢
      omega
    · simpa [hheld] using hput

/-! ### Owners -/

/-- Token accounts keep their owners, whatever else happens. -/
def KeepsOwners (chain chain' : Chain) : Prop :=
  ∀ account owner, chain.ownerOf? account = some owner → chain'.ownerOf? account = some owner

theorem KeepsOwners.trans {chain'' : Chain} (h : chain.KeepsOwners chain')
    (h' : chain'.KeepsOwners chain'') : chain.KeepsOwners chain'' :=
  fun account owner howner => h' account owner (h account owner howner)

theorem keepsOwners_debitTokens {account authority : Key} {amount : Amount}
    (h : chain.debitTokens account authority amount = .ok chain') : chain.KeepsOwners chain' := by
  obtain ⟨left, hauthority, -, rfl⟩ := debitTokens_eq_ok_iff.mp h
  intro other owner howner
  rw [ownerOf?_put]
  split
  · next hother =>
    rw [hother, hauthority] at howner
    exact howner
  · exact howner

theorem keepsOwners_creditTokens {account owner : Key} {amount : Amount}
    (h : chain.creditTokens account owner amount = .ok chain') : chain.KeepsOwners chain' := by
  obtain ⟨total, -, rfl⟩ := creditTokens_eq_ok_iff.mp h
  intro other held howner
  rw [ownerOf?_put]
  split
  · next hother =>
    rw [← hother, howner]
    rfl
  · exact howner

/-! ### Calls -/

/-- A transfer takes units from a token account of the sender, who has to be the authority it
names, and gives them to another account. -/
theorem transferTokens_eq_ok_iff {sender : Key} {amount : Amount} {accounts : List Key} :
    chain.transferTokens sender amount accounts = .ok chain' ↔
      ∃ source destination others debited,
        accounts = source :: destination :: sender :: others ∧
        chain.debitTokens source sender amount = .ok debited ∧
        debited.creditTokens destination .zero amount = .ok chain' := by
  constructor
  · intro h
    unfold transferTokens at h
    split at h
    · next source destination authority others =>
      split at h
      · cases h
      · next hauthority =>
        obtain rfl : authority = sender := not_not.mp hauthority
        split at h
        · cases h
        · next debited hdebit => exact ⟨source, destination, others, debited, rfl, hdebit, h⟩
    · cases h
  · rintro ⟨source, destination, others, debited, rfl, hdebit, hcredit⟩
    simp [transferTokens, hdebit, hcredit]

/-- Units move without lamports. -/
theorem lamportsOf_transferTokens {sender : Key} {amount : Amount} {accounts : List Key}
    (h : chain.transferTokens sender amount accounts = .ok chain') (wallet : Key) :
    chain'.lamportsOf wallet = chain.lamportsOf wallet := by
  obtain ⟨_, _, _, _, -, hdebit, hcredit⟩ := transferTokens_eq_ok_iff.mp h
  obtain ⟨_, -, -, rfl⟩ := debitTokens_eq_ok_iff.mp hdebit
  obtain ⟨_, -, rfl⟩ := creditTokens_eq_ok_iff.mp hcredit
  rfl

/-- A call is carried out in one of two ways, unless its target turns calls back: its lamports go
from the sender to the target, or, for the token program, the units of the transfer it spells go
from one token account to another. -/
theorem apply_eq_ok_iff {sender : Key} {call : Call} :
    chain.apply sender call = .ok chain' ↔
      call.target ∉ chain.failing ∧
      ((call.target ≠ chain.tokenProgram ∧ ∃ debited,
          chain.debit sender call.value = .ok debited ∧
          debited.credit call.target call.value = .ok chain') ∨
        (call.target = chain.tokenProgram ∧ ∃ amount,
          Token.Instruction.decode? call.data = some (.transfer amount) ∧
          chain.transferTokens sender amount call.accounts = .ok chain')) := by
  unfold apply
  by_cases hfailing : call.target ∈ chain.failing
  · simp [hfailing]
  rw [if_neg hfailing]
  by_cases htarget : call.target = chain.tokenProgram
  · rw [if_neg (not_not.mpr htarget)]
    constructor
    · intro h
      split at h
      · cases h
      · next amount hdecode => exact ⟨hfailing, .inr ⟨htarget, amount, hdecode, h⟩⟩
      · cases h
    · rintro ⟨-, ⟨hne, -⟩ | ⟨-, amount, hdecode, htransfer⟩⟩
      · exact absurd htarget hne
      · rw [hdecode]
        exact htransfer
  · rw [if_pos htarget]
    cases hdebit : chain.debit sender call.value with
    | error e => simp [htarget]
    | ok debited => simp [htarget, hfailing]

end Chain

end SpendGuard
