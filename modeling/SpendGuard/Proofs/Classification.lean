import Mathlib.Tactic.Common
import SpendGuard.Classification

/-!
# What classified calls move

A call passes classification in one of two ways: it attaches lamports and is not addressed to the
token program, or it is addressed to the token program, attaches none and spells a transfer
(`Call.classify_eq_ok_iff`). The transfers that the library builds itself pass. A batch of one call
moves what the call moves.
-/

namespace SpendGuard

namespace Spend

@[simp]
theorem zero_add? (s : Spend) : zero.add? s = some s := by
  rw [add?_eq_some_iff]
  exact ⟨(Nat.zero_add _).symm, (Nat.zero_add _).symm⟩

@[simp]
theorem add?_nothing (s : Spend) : s.add? ⟨0, 0⟩ = some s := by
  rw [add?_eq_some_iff]
  exact ⟨rfl, rfl⟩

end Spend

namespace Call

/-- A token transfer is read from a call exactly when the data spells one and the call names a
source, a destination and an authority. -/
theorem tokenTransfer?_eq_ok_iff {call : Call} {transfer : TokenTransfer} :
    call.tokenTransfer? = .ok transfer ↔
      transferDataLength ≤ call.data.length ∧
      Token.Instruction.decode? call.data = some (.transfer transfer.amount) ∧
      ∃ source authority others,
        call.accounts = source :: transfer.recipient :: authority :: others := by
  unfold tokenTransfer?
  by_cases hshort : call.data.length < transferDataLength
  · rw [if_pos hshort]
    exact iff_of_false (by simp) fun h => absurd h.1 (by omega)
  rw [if_neg hshort]
  constructor
  · intro h
    split at h
    · cases h
    · next amount hdecode =>
      split at h
      · next source destination authority others haccounts =>
        cases h
        exact ⟨by omega, hdecode, source, authority, others, haccounts⟩
      · cases h
    · cases h
  · rintro ⟨-, hdecode, source, authority, others, haccounts⟩
    rw [hdecode, haccounts]

/-- What a call moves, when it passes: its lamports if it is addressed to anyone but the token
program, the amount of the transfer it spells otherwise. -/
theorem classify_eq_ok_iff {tokenProgram : Key} {call : Call} {spend : Spend} :
    call.classify tokenProgram = .ok spend ↔
      (call.target ≠ tokenProgram ∧ call.value ≠ 0 ∧ spend = ⟨call.value, 0⟩) ∨
      (call.target = tokenProgram ∧ call.value = 0 ∧
        ∃ transfer, call.tokenTransfer? = .ok transfer ∧ spend = ⟨0, transfer.amount⟩) := by
  have hpos : 0 < call.value ↔ call.value ≠ 0 := by
    rw [Amount.pos_iff, ne_eq, ← UInt64.toNat_inj, UInt64.toNat_zero]
    omega
  unfold classify
  by_cases htarget : call.target = tokenProgram
  · by_cases hvalue : call.value = 0
    · cases hread : call.tokenTransfer? with
      | error e => simp [htarget, hvalue, Except.map]
      | ok transfer => simp [htarget, hvalue, Except.map, eq_comm]
    · simp [htarget, hpos, hvalue]
  · by_cases hvalue : call.value = 0
    · simp [htarget, hvalue]
    · simp [htarget, hvalue, eq_comm]

/-- What is no token transfer is objected to; there is no other error. -/
theorem disallowed_of_tokenTransfer? {call : Call} {e : Error}
    (h : call.tokenTransfer? = .error e) : ∃ reason, e = .disallowedCall reason := by
  unfold tokenTransfer? at h
  split at h
  · cases h
    exact ⟨_, rfl⟩
  split at h
  · cases h
    exact ⟨_, rfl⟩
  · split at h
    · cases h
    · cases h
      exact ⟨_, rfl⟩
  · cases h
    exact ⟨_, rfl⟩

/-- A call that does not pass is objected to; there is no other error. -/
theorem disallowed_of_classify {tokenProgram : Key} {call : Call} {e : Error}
    (h : call.classify tokenProgram = .error e) : ∃ reason, e = .disallowedCall reason := by
  unfold classify at h
  split at h
  · split at h
    · cases h
      exact ⟨_, rfl⟩
    · cases hread : call.tokenTransfer? with
      | error e' =>
        rw [hread] at h
        cases h
        exact disallowed_of_tokenTransfer? hread
      | ok transfer =>
        rw [hread] at h
        cases h
  · split at h
    · cases h
      exact ⟨_, rfl⟩
    · cases h

/-- Transfers are built for the standard token program only, and attach no lamports. -/
theorem tokenTransfer_eq_ok_iff {program source destination authority : Key} {amount : Amount}
    {call : Call} :
    tokenTransfer program source destination authority amount = .ok call ↔
      program = Token.standardProgram ∧
        call = ⟨program, 0, Token.Instruction.transferData amount,
          [source, destination, authority]⟩ := by
  unfold tokenTransfer
  by_cases hprogram : program = Token.standardProgram <;> simp [hprogram, eq_comm]

/-- A transfer that is not built is for another program than the standard one. -/
theorem encoding_of_tokenTransfer {program source destination authority : Key} {amount : Amount}
    {e : Error} (h : tokenTransfer program source destination authority amount = .error e) :
    program ≠ Token.standardProgram ∧ ∃ text, e = .encoding text := by
  unfold tokenTransfer at h
  split at h
  · cases h
  · next hprogram =>
    cases h
    exact ⟨hprogram, _, rfl⟩

/-- A transfer that the library builds itself is one that classification counts. -/
theorem classify_of_tokenTransfer {program source destination authority : Key} {amount : Amount}
    {call : Call} (h : tokenTransfer program source destination authority amount = .ok call) :
    call.classify program = .ok ⟨0, amount⟩ := by
  obtain ⟨-, rfl⟩ := tokenTransfer_eq_ok_iff.mp h
  have hdecode : Token.Instruction.decode? (Token.Instruction.transferData amount) =
      some (.transfer amount) := by
    simpa using Token.Instruction.decode?_transferData amount []
  refine classify_eq_ok_iff.mpr (.inr ⟨rfl, rfl, ⟨destination, amount⟩, ?_, rfl⟩)
  refine tokenTransfer?_eq_ok_iff.mpr ⟨?_, hdecode, source, authority, [], rfl⟩
  simp [transferDataLength, Token.Instruction.transferData]

end Call

namespace Batch

/-- A batch passes when it is not empty and all its calls pass one after the other. -/
theorem classify_eq_ok_iff {tokenProgram : Key} {calls : List Call} {spend : Spend} :
    classify tokenProgram calls = .ok spend ↔
      calls ≠ [] ∧ classifyFrom tokenProgram 0 .zero calls = .ok spend := by
  unfold classify
  cases calls with
  | nil => simp
  | cons call rest => simp

/-- A batch of one call moves what the call moves, and passes when it does. -/
theorem classify_singleton_eq_ok_iff {tokenProgram : Key} {call : Call} {spend : Spend} :
    classify tokenProgram [call] = .ok spend ↔ call.classify tokenProgram = .ok spend := by
  cases hcall : call.classify tokenProgram <;> simp [classify, classifyFrom, hcall]

theorem classify_singleton {tokenProgram : Key} {call : Call} {spend : Spend}
    (h : call.classify tokenProgram = .ok spend) :
    classify tokenProgram [call] = .ok spend :=
  classify_singleton_eq_ok_iff.mpr h

/-- A batch of one call that does not pass is objected to as the call is, at its place. -/
theorem classify_singleton_of_error {tokenProgram : Key} {call : Call} {e : Error}
    (h : call.classify tokenProgram = .error e) :
    classify tokenProgram [call] = .error (locate 0 e) := by
  simp [classify, classifyFrom, h]

/-- A batch that does not pass is objected to, or moves more than fits. -/
theorem error_of_classifyFrom {tokenProgram : Key} {index : Nat} {total : Spend}
    {calls : List Call} {e : Error} (h : classifyFrom tokenProgram index total calls = .error e) :
    (∃ reason, e = .disallowedCall reason) ∨ e = .overflow := by
  induction calls generalizing index total with
  | nil => cases h
  | cons call rest ih =>
    rw [classifyFrom] at h
    cases hcall : call.classify tokenProgram with
    | error e' =>
      obtain ⟨reason, rfl⟩ := Call.disallowed_of_classify hcall
      rw [hcall] at h
      cases h
      exact .inl ⟨.inCall index reason, rfl⟩
    | ok spend =>
      rw [hcall] at h
      dsimp only at h
      cases hsum : total.add? spend with
      | none =>
        rw [hsum] at h
        cases h
        exact .inr rfl
      | some sum =>
        rw [hsum] at h
        exact ih h

theorem error_of_classify {tokenProgram : Key} {calls : List Call} {e : Error}
    (h : classify tokenProgram calls = .error e) :
    (∃ reason, e = .disallowedCall reason) ∨ e = .overflow := by
  unfold classify at h
  split at h
  · cases h
    exact .inl ⟨.emptyBatch, rfl⟩
  · exact error_of_classifyFrom h

end Batch

end SpendGuard
