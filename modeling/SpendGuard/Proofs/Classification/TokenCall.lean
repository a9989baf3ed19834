import SpendGuard.Proofs.Classification
import SpendGuard.Proofs.Success

/-!
# Token calls that pass

The instructions of a token program are told apart by their first byte. Several carry an amount
right after it, an approval for one, and would be counted as what they are not if that byte were
overlooked. It is not: bytes are read as a transfer exactly when they begin with how a transfer is
written (`Token.Instruction.decode?_eq_some_transfer_iff`), and a call to the token program passes
exactly when its data does, it attaches no lamports and it names three accounts or more
(`Call.classify_token_eq_ok_iff`). Whatever follows the amount is ignored.
-/

namespace SpendGuard

/-! ### Bytes that spell a transfer -/

namespace Token.Instruction

variable {bytes : List UInt8} {amount : Amount}

/-- Only one tag stands for a transfer, and the amount comes first after it. -/
theorem ofTag?_eq_some_transfer_iff {tag : Nat} :
    ofTag? tag bytes = some (transfer amount) ↔
      tag = 3 ∧ ∃ trailing, takeAmount? bytes = some (amount, trailing) := by
  unfold ofTag?
  split <;> simp_all [Option.bind_eq_some_iff]

/-- Bytes are read as a transfer when they begin with how it is written. -/
theorem decode?_eq_some_transfer_iff :
    decode? bytes = some (transfer amount) ↔
      ∃ trailing, bytes = transferData amount ++ trailing := by
  cases bytes with
  | nil => simp [decode?, transferData]
  | cons tag rest =>
    have htag : tag.toNat = 3 ↔ tag = 3 := by rw [← UInt8.toNat_inj]; rfl
    simp only [decode?, ofTag?_eq_some_transfer_iff, takeAmount?_eq_some_iff, htag, transferData,
      List.cons_append, List.cons.injEq, exists_and_left]

/-- They do when the first byte is the tag and eight more follow, which are the amount. -/
theorem begins_with_transferData_iff :
    (∃ trailing, bytes = transferData amount ++ trailing) ↔
      9 ≤ bytes.length ∧ bytes[0]? = some 3 ∧
        amount.toNat = Bytes.ofLittleEndian ((bytes.drop 1).take 8) := by
  constructor
  · rintro ⟨trailing, rfl⟩
    have hwidth : (Bytes.littleEndian 8 amount.toNat).length = 8 := Bytes.length_littleEndian _ _
    have hread : Bytes.ofLittleEndian (Bytes.littleEndian 8 amount.toNat) = amount.toNat := by
      rw [Bytes.ofLittleEndian_littleEndian, Nat.mod_eq_of_lt (Amount.toNat_lt amount)]
    refine ⟨?_, rfl, ?_⟩
    · rw [transferData, List.length_append, List.length_cons, hwidth]
      omega
    · rw [transferData, List.cons_append, List.drop_one, List.tail_cons, List.take_left' hwidth,
        hread]
  · rintro ⟨hlong, htag, hamount⟩
    obtain ⟨tag, rest, rfl⟩ := List.exists_cons_of_length_pos (Nat.lt_of_lt_of_le (by decide) hlong)
    obtain rfl : tag = 3 := Option.some.inj htag
    have hwidth : (rest.take 8).length = 8 := by
      rw [List.length_cons] at hlong
      rw [List.length_take]
      omega
    have hwritten := Bytes.littleEndian_ofLittleEndian (rest.take 8)
    rw [hwidth] at hwritten
    rw [List.drop_one, List.tail_cons] at hamount
    refine ⟨rest.drop 8, ?_⟩
    rw [transferData, hamount, hwritten, List.cons_append, List.take_append_drop]

end Token.Instruction

/-! ### Calls that spell one -/

namespace Call

variable {tokenProgram : Key} {call : Call} {transfer : TokenTransfer} {spend : Spend}

theorem tokenTransfer?_eq_ok_iff_transferData :
    call.tokenTransfer? = .ok transfer ↔
      (∃ trailing, call.data = Token.Instruction.transferData transfer.amount ++ trailing) ∧
        ∃ source authority others,
          call.accounts = source :: transfer.recipient :: authority :: others := by
  rw [tokenTransfer?_eq_ok_iff, Token.Instruction.decode?_eq_some_transfer_iff]
  constructor
  · rintro ⟨-, hdata, haccounts⟩
    exact ⟨hdata, haccounts⟩
  · rintro ⟨hdata, haccounts⟩
    exact ⟨(Token.Instruction.begins_with_transferData_iff.mp hdata).1, hdata, haccounts⟩

/-- A call to the token program passes when it spells a transfer and attaches no lamports. -/
theorem classify_token_eq_ok_iff (htarget : call.target = tokenProgram) :
    call.classify tokenProgram = .ok spend ↔
      call.value = 0 ∧ ∃ transfer, call.tokenTransfer? = .ok transfer ∧
        spend = ⟨0, transfer.amount⟩ := by
  rw [classify_eq_ok_iff]
  simp only [htarget, ne_eq, not_true_eq_false, false_and, true_and, false_or]

/-- So it is one of these calls, up to what follows the amount and the three accounts. -/
theorem classify_token_eq_ok_iff_exists (htarget : call.target = tokenProgram) :
    call.classify tokenProgram = .ok spend ↔
      ∃ amount trailing source destination authority others,
        call = ⟨tokenProgram, 0, Token.Instruction.transferData amount ++ trailing,
          source :: destination :: authority :: others⟩ ∧ spend = ⟨0, amount⟩ := by
  rw [classify_token_eq_ok_iff htarget]
  constructor
  · rintro ⟨hvalue, ⟨destination, amount⟩, hread, rfl⟩
    obtain ⟨⟨trailing, hdata⟩, source, authority, others, haccounts⟩ :=
      tokenTransfer?_eq_ok_iff_transferData.mp hread
    refine ⟨amount, trailing, source, destination, authority, others, ?_, rfl⟩
    obtain ⟨target, value, data, accounts⟩ := call
    exact (mk.injEq ..).mpr ⟨htarget, hvalue, hdata, haccounts⟩
  · rintro ⟨amount, trailing, source, destination, authority, others, rfl, rfl⟩
    exact ⟨rfl, ⟨destination, amount⟩, tokenTransfer?_eq_ok_iff_transferData.mpr
      ⟨⟨trailing, rfl⟩, source, authority, others, rfl⟩, rfl⟩

/-- Whether it passes can be told from its value, its length, its first byte and how many accounts
it names. -/
theorem isOk_classify_token_iff (htarget : call.target = tokenProgram) :
    (call.classify tokenProgram).isOk = true ↔
      call.value = 0 ∧ 9 ≤ call.data.length ∧ call.data[0]? = some 3 ∧
        3 ≤ call.accounts.length := by
  rw [isOk_iff_exists]
  constructor
  · rintro ⟨spend, hpass⟩
    obtain ⟨hvalue, transfer, hread, -⟩ := (classify_token_eq_ok_iff htarget).mp hpass
    obtain ⟨hdata, source, authority, others, haccounts⟩ :=
      tokenTransfer?_eq_ok_iff_transferData.mp hread
    obtain ⟨hlong, htag, -⟩ := Token.Instruction.begins_with_transferData_iff.mp hdata
    refine ⟨hvalue, hlong, htag, ?_⟩
    rw [haccounts]
    exact Nat.le_add_left _ _
  · rintro ⟨hvalue, hlong, htag, hmany⟩
    -- Eight bytes are an amount, whichever they are.
    have hwidth : ((call.data.drop 1).take 8).length = 8 := by
      rw [List.length_take, List.length_drop]
      omega
    have hfits := Bytes.ofLittleEndian_lt ((call.data.drop 1).take 8)
    rw [hwidth] at hfits
    obtain ⟨amount, hamount⟩ := Amount.exists_toNat_eq hfits
    obtain ⟨source, destination, authority, others, haccounts⟩ :
        ∃ source destination authority others,
          call.accounts = source :: destination :: authority :: others := by
      match call.accounts, hmany with
      | source :: destination :: authority :: others, _ =>
        exact ⟨source, destination, authority, others, rfl⟩
    have hdata := Token.Instruction.begins_with_transferData_iff.mpr ⟨hlong, htag, hamount⟩
    exact ⟨_, (classify_token_eq_ok_iff htarget).mpr ⟨hvalue, ⟨destination, amount⟩,
      tokenTransfer?_eq_ok_iff_transferData.mpr
        ⟨hdata, source, authority, others, haccounts⟩, rfl⟩⟩

/-- What passes moves no lamports and the amount that eight bytes spell, to the second account. -/
theorem reads_of_classify_token (htarget : call.target = tokenProgram)
    (hpass : call.classify tokenProgram = .ok spend) :
    ∃ recipient amount, call.accounts[1]? = some recipient ∧
      amount.toNat = Bytes.ofLittleEndian ((call.data.drop 1).take 8) ∧
      spend = ⟨0, amount⟩ ∧ call.tokenTransfer? = .ok ⟨recipient, amount⟩ := by
  obtain ⟨-, transfer, hread, rfl⟩ := (classify_token_eq_ok_iff htarget).mp hpass
  obtain ⟨hdata, source, authority, others, haccounts⟩ :=
    tokenTransfer?_eq_ok_iff_transferData.mp hread
  obtain ⟨-, -, hamount⟩ := Token.Instruction.begins_with_transferData_iff.mp hdata
  refine ⟨transfer.recipient, transfer.amount, ?_, hamount, rfl, hread⟩
  rw [haccounts]
  rfl

/-- What is not read as a transfer is objected to, be it another instruction or none. -/
theorem disallowed_of_decode? (htarget : call.target = tokenProgram)
    (hother : ∀ amount, Token.Instruction.decode? call.data ≠ some (.transfer amount)) :
    ∃ reason, call.classify tokenProgram = .error (.disallowedCall reason) := by
  have hfails : ¬ (call.classify tokenProgram).isOk = true := by
    rw [isOk_iff_exists]
    rintro ⟨spend, hpass⟩
    obtain ⟨-, transfer, hread, -⟩ := (classify_token_eq_ok_iff htarget).mp hpass
    exact hother transfer.amount (tokenTransfer?_eq_ok_iff.mp hread).2.1
  obtain ⟨e, herror⟩ := not_isOk_iff_exists.mp hfails
  obtain ⟨reason, rfl⟩ := disallowed_of_classify herror
  exact ⟨reason, herror⟩

/-- A transfer that is built for the standard token program passes and is read back. -/
theorem reads_of_tokenTransfer (source destination authority : Key) (amount : Amount) :
    ∃ call, tokenTransfer Token.standardProgram source destination authority amount = .ok call ∧
      call.classify Token.standardProgram = .ok ⟨0, amount⟩ ∧
      call.tokenTransfer? = .ok ⟨destination, amount⟩ := by
  have hbuilt : tokenTransfer Token.standardProgram source destination authority amount =
      .ok ⟨Token.standardProgram, 0, Token.Instruction.transferData amount,
        [source, destination, authority]⟩ :=
    tokenTransfer_eq_ok_iff.mpr ⟨rfl, rfl⟩
  refine ⟨_, hbuilt, classify_of_tokenTransfer hbuilt, ?_⟩
  refine tokenTransfer?_eq_ok_iff_transferData.mpr ⟨⟨[], ?_⟩, source, authority, [], rfl⟩
  rw [List.append_nil]

/-- **The token calls that pass are the transfers.** For every token program:

* A call to it passes exactly when it attaches no lamports, its data is nine bytes or longer and
  begins with a three, and it names three accounts or more. It then moves the amount that the next
  eight bytes spell, and is read as a transfer of that amount to the second account.
* So the calls that pass are the ones that are written as a transfer, whatever follows.
* Data that is not read as a transfer is objected to, be it another instruction or none at all.
* A transfer that is built for the standard token program passes, for its amount, and is read as
  what it was built from. -/
theorem only_transfers_pass (tokenProgram : Key) :
    (∀ call : Call, call.target = tokenProgram →
      ((call.classify tokenProgram).isOk = true ↔
        call.value = 0 ∧ 9 ≤ call.data.length ∧ call.data[0]? = some 3 ∧
          3 ≤ call.accounts.length) ∧
      (∀ spend, call.classify tokenProgram = .ok spend →
        ∃ recipient amount, call.accounts[1]? = some recipient ∧
          amount.toNat = Bytes.ofLittleEndian ((call.data.drop 1).take 8) ∧
          spend = ⟨0, amount⟩ ∧ call.tokenTransfer? = .ok ⟨recipient, amount⟩) ∧
      (∀ spend, call.classify tokenProgram = .ok spend ↔
        ∃ amount trailing source destination authority others,
          call = ⟨tokenProgram, 0, Token.Instruction.transferData amount ++ trailing,
            source :: destination :: authority :: others⟩ ∧ spend = ⟨0, amount⟩) ∧
      ((∀ amount, Token.Instruction.decode? call.data ≠ some (.transfer amount)) →
        ∃ reason, call.classify tokenProgram = .error (.disallowedCall reason))) ∧
    ∀ source destination authority amount, ∃ call,
      tokenTransfer Token.standardProgram source destination authority amount = .ok call ∧
        call.classify Token.standardProgram = .ok ⟨0, amount⟩ ∧
        call.tokenTransfer? = .ok ⟨destination, amount⟩ :=
  ⟨fun _ htarget => ⟨isOk_classify_token_iff htarget, fun _ => reads_of_classify_token htarget,
    fun _ => classify_token_eq_ok_iff_exists htarget, disallowed_of_decode? htarget⟩,
    reads_of_tokenTransfer⟩

/-- Five units behind a tag, and one byte more. -/
def fiveTagged (tag : UInt8) : Call :=
  ⟨Token.standardProgram, 0, [tag, 5, 0, 0, 0, 0, 0, 0, 0, 255],
    [.zero, Token.standardProgram, .zero]⟩

/-- Tagged as a transfer it passes, and five units are read from it. Tagged as an approval it does
not, though the same five are in the same place. -/
theorem fiveTagged_passes :
    (∃ recipient amount, (fiveTagged 3).accounts[1]? = some recipient ∧
      amount.toNat = Bytes.ofLittleEndian (((fiveTagged 3).data.drop 1).take 8) ∧
      (⟨0, 5⟩ : Spend) = ⟨0, amount⟩ ∧ (fiveTagged 3).tokenTransfer? = .ok ⟨recipient, amount⟩) ∧
    (fiveTagged 3).tokenTransfer? = .ok ⟨Token.standardProgram, 5⟩ ∧
    Token.Instruction.decode? (fiveTagged 4).data = some (.approve 5) ∧
    ∃ reason, (fiveTagged 4).classify Token.standardProgram = .error (.disallowedCall reason) := by
  obtain ⟨htoken, -⟩ := only_transfers_pass Token.standardProgram
  have happrove : Token.Instruction.decode? (fiveTagged 4).data = some (.approve 5) := by decide
  refine ⟨(htoken (fiveTagged 3) rfl).2.1 _ (by decide), by decide, happrove,
    (htoken (fiveTagged 4) rfl).2.2.2 fun amount hread => ?_⟩
  cases happrove.symm.trans hread

end Call

end SpendGuard
