import SpendGuard.Proofs.Dispatcher.Settlement
import SpendGuard.Proofs.Ledger.HandedOver

/-!
# What an operation hands over

An operation reaches the executor with calls in two places: its own calls are run, and its sponsor
is paid back. An executor that keeps a record tells what got there (`Dispatcher.handedOver`), and
everything else comes out as it does without one (`Dispatcher.handleAt_recording`), since vetting
only looks. Nothing is handed over for an operation that fails a check. For any other these are its
own calls, once and in one piece, if the ledger still accepts them when they are run, and then at
most one transfer to the sponsor (`Dispatcher.HandsOver`).
-/

namespace SpendGuard

variable {σ : Type} {x : Executor σ} {l : Ledger} {now : Instant} {world : σ}

/-! ### Repayments -/

namespace Ledger

variable {caller : Key} {amount compute : Amount}

/-- What can be handed over when a sponsor asks to be paid back. -/
inductive Repays (l : Ledger) (amount : Amount) : List (List Call) → Prop
  /-- Nothing. -/
  | nothing : Repays l amount []
  /-- A transfer of the amount from the account's own token account to that of its sponsor. -/
  | transfer {call : Call}
      (built : Call.tokenTransfer l.profile.tokenProgram l.tokenAccount
        (l.profile.tokenAccountOf l.profile.sponsor) l.address amount = .ok call) :
      Repays l amount [[call]]

/-- Repayments depend on what is fixed about an account only. -/
theorem Repays.of_sameAccount {l' : Ledger} {repaid : List (List Call)} (hsame : l.SameAccount l')
    (h : l'.Repays amount repaid) : l.Repays amount repaid := by
  cases h with
  | nothing => exact .nothing
  | transfer built =>
    rw [tokenAccount, hsame.profile, hsame.address] at built
    exact .transfer built

/-- A record of nothing more is the record as it was. -/
theorem noting_append_nil {α : Type} {answer : α} (record : List (List Call)) :
    (answer, l, world, record) = noting (record ++ []) (answer, l, world) := by
  rw [List.append_nil record, noting]

theorem exists_reclaimGas_recording :
    ∃ repaid, l.Repays amount repaid ∧ ∀ record,
      l.reclaimGas x.recording now caller amount compute (world, record) =
        noting (record ++ repaid) (l.reclaimGas x now caller amount compute world) := by
  unfold reclaimGas
  split
  · exact ⟨[], .nothing, noting_append_nil⟩
  split
  · exact ⟨[], .nothing, noting_append_nil⟩
  split
  · exact ⟨[], .nothing, noting_append_nil⟩
  next call built =>
  split
  · exact ⟨[], .nothing, noting_append_nil⟩
  · exact ⟨[[call]], .transfer built, fun record => settle_recording⟩

end Ledger

theorem Sponsor.exists_settle_recording {s : Sponsor} {quote : FeeQuote} {remaining : Amount} :
    ∃ repaid, l.Repays quote.token repaid ∧ ∀ record,
      s.settle x.recording l now quote remaining (world, record) =
        Ledger.noting (record ++ repaid) (s.settle x l now quote remaining world) := by
  rcases hcharge : x.chargeFee s.address quote.lamports world with ⟨answer, charged⟩
  -- The charge leaves the record alone.
  have hrecorded (record : List (List Call)) :
      x.recording.chargeFee s.address quote.lamports (world, record) =
        (answer, charged, record) := by
    simp only [Executor.recording, hcharge]
  simp only [settle, hcharge, hrecorded]
  cases answer with
  | error e => exact ⟨[], .nothing, Ledger.noting_append_nil⟩
  | ok _ =>
    by_cases hfree : quote.token = 0
    · simp only [if_pos hfree]
      exact ⟨[], .nothing, Ledger.noting_append_nil⟩
    · simp only [if_neg hfree]
      obtain ⟨repaid, hrepaid, hreclaim⟩ : ∃ repaid, l.Repays quote.token repaid ∧ ∀ record,
          l.reclaimGas x.recording now s.address quote.token remaining (charged, record) =
            Ledger.noting (record ++ repaid)
              (l.reclaimGas x now s.address quote.token remaining charged) :=
        Ledger.exists_reclaimGas_recording
      refine ⟨repaid, hrepaid, fun record => ?_⟩
      rw [hreclaim]
      rcases l.reclaimGas x now s.address quote.token remaining charged with ⟨e | receipt, _, _⟩
      · rfl
      · rfl

namespace Dispatcher

variable {scheme : SignatureScheme} {d : Dispatcher} {clock : Readings} {op : Operation}
  {sponsored : Option (Sponsor × FeeQuote)} {execution : Except Error Receipt}
  {record : List (List Call)}

theorem vet_recording :
    d.vet scheme x.recording l now op (world, record) = d.vet scheme x l now op world := rfl

theorem runCalls_recording {calls : List Call} :
    d.runCalls x.recording l now calls (world, record) =
      Ledger.noting (record ++ l.handsOver now d.identity calls)
        (d.runCalls x l now calls world) := by
  unfold runCalls
  split
  · exact Ledger.execute_recording
  · exact Ledger.executeBatch_recording

theorem exists_payBack_recording :
    ∃ repaid, (repaid = [] ∨ ∃ s quote, sponsored = some (s, quote) ∧ l.Repays quote.token repaid) ∧
      ∀ record, d.payBack x.recording now op sponsored execution l (world, record) =
        Ledger.noting (record ++ repaid) (d.payBack x now op sponsored execution l world) := by
  match sponsored with
  | none => exact ⟨[], .inl rfl, Ledger.noting_append_nil⟩
  | some (s, quote) =>
    obtain ⟨repaid, hrepaid, hsettle⟩ : ∃ repaid, l.Repays quote.token repaid ∧ ∀ record,
        s.settle x.recording l now quote (d.budget.remainingAfter op.calls.length)
            (world, record) =
          Ledger.noting (record ++ repaid)
            (s.settle x l now quote (d.budget.remainingAfter op.calls.length) world) :=
      Sponsor.exists_settle_recording
    refine ⟨repaid, .inr ⟨s, quote, rfl, hrepaid⟩, fun record => ?_⟩
    simp only [payBack, hsettle]
    rcases s.settle x l now quote (d.budget.remainingAfter op.calls.length) world with
      ⟨e | _, _, _⟩
    · cases execution <;> rfl
    · rfl

/-! ### Operations -/

/-- What is handed over for an operation. -/
inductive HandsOver (scheme : SignatureScheme) (x : Executor σ) (d : Dispatcher) (l : Ledger)
    (clock : Readings) (op : Operation) (world : σ) : List (List Call) → Prop
  /-- Nothing, when it fails a check. -/
  | refused (fails : ∀ sponsored, ¬ Vetted scheme x d l clock.vetting op world sponsored) :
      HandsOver scheme x d l clock op world []
  /-- Its calls, in one piece, if they are still accepted when they are run; and then at most the
  repayment of whoever fronts the fee. -/
  | admitted {sponsored : Option (Sponsor × FeeQuote)} {repaid : List (List Call)}
      (vetted : Vetted scheme x d l clock.vetting op world sponsored)
      (repayment : repaid = [] ∨
        ∃ s quote, sponsored = some (s, quote) ∧ l.Repays quote.token repaid) :
      HandsOver scheme x d l clock op world
        (l.handsOver clock.running d.identity op.calls ++ repaid)

theorem exists_handleAt_recording (scheme : SignatureScheme) (x : Executor σ) (d : Dispatcher)
    (l : Ledger) (clock : Readings) (op : Operation) (world : σ) :
    ∃ handed, d.HandsOver scheme x l clock op world handed ∧ ∀ record,
      let plain := d.handleAt scheme x l clock op world
      d.handleAt scheme x.recording l clock op (world, record) =
        (plain.1, plain.2.1, plain.2.2.1, plain.2.2.2, record ++ handed) := by
  simp only [handleAt, vet_recording]
  cases hvet : d.vet scheme x l clock.vetting op world with
  | error e =>
    refine ⟨[], .refused fun sponsored vetted => ?_, fun record => by rw [List.append_nil]⟩
    cases hvet.symm.trans (vet_eq_ok_iff.mpr vetted)
  | ok sponsored =>
    obtain ⟨request, -, hruns⟩ := exists_outcome_runCalls x d l clock.running op.calls world
    have hsame := hruns.sameAccount
    simp only [runCalls_recording, Ledger.noting]
    generalize d.runCalls x l clock.running op.calls world = ran at hsame
    obtain ⟨repaid, hrepaid, hpaid⟩ : ∃ repaid, (repaid = [] ∨ ∃ s quote,
        sponsored = some (s, quote) ∧ ran.2.1.Repays quote.token repaid) ∧ ∀ record,
          d.payBack x.recording clock.settling op sponsored ran.1 ran.2.1 (ran.2.2, record) =
            Ledger.noting (record ++ repaid)
              (d.payBack x clock.settling op sponsored ran.1 ran.2.1 ran.2.2) :=
      exists_payBack_recording
    have hrepayment : repaid = [] ∨
        ∃ s quote, sponsored = some (s, quote) ∧ l.Repays quote.token repaid := by
      refine hrepaid.imp_right ?_
      rintro ⟨s, quote, hfronted, h⟩
      exact ⟨s, quote, hfronted, h.of_sameAccount hsame⟩
    refine ⟨_, .admitted (vet_eq_ok_iff.mp hvet) hrepayment, fun record => ?_⟩
    rw [hpaid, Ledger.noting, List.append_assoc]

/-- What is handed over for an operation, as a record tells that is begun with it. -/
def handedOver (scheme : SignatureScheme) (x : Executor σ) (d : Dispatcher) (l : Ledger)
    (clock : Readings) (op : Operation) (world : σ) : List (List Call) :=
  (d.handleAt scheme x.recording l clock op (world, [])).2.2.2.2

/-- **Keeping a record** changes nothing else, and it is continued by what is handed over. -/
theorem handleAt_recording (scheme : SignatureScheme) (x : Executor σ) (d : Dispatcher)
    (l : Ledger) (clock : Readings) (op : Operation) (world : σ) (record : List (List Call)) :
    let plain := d.handleAt scheme x l clock op world
    d.handleAt scheme x.recording l clock op (world, record) =
      (plain.1, plain.2.1, plain.2.2.1, plain.2.2.2,
        record ++ d.handedOver scheme x l clock op world) := by
  obtain ⟨handed, -, hrecorded⟩ := exists_handleAt_recording scheme x d l clock op world
  rw [handedOver, hrecorded, hrecorded, List.nil_append]

/-- **What is handed over** for an operation. -/
theorem handsOver_handedOver (scheme : SignatureScheme) (x : Executor σ) (d : Dispatcher)
    (l : Ledger) (clock : Readings) (op : Operation) (world : σ) :
    d.HandsOver scheme x l clock op world (d.handedOver scheme x l clock op world) := by
  obtain ⟨handed, hhanded, hrecorded⟩ := exists_handleAt_recording scheme x d l clock op world
  rw [handedOver, hrecorded, List.nil_append]
  exact hhanded

end Dispatcher

end SpendGuard
