import SpendGuard.Proofs.Dispatcher.Answers
import SpendGuard.Proofs.Ledger.Exit
import SpendGuard.Simulation

/-!
# What fails in a simulation

Most of what can go wrong in a step is an outcome of the step, and is told in words. What is left is
steps that cannot be made sense of (`Step.Fault`): a recipient that is no key, or a transfer of
units that cannot be built. All calls of a step are built before anything is done with the first, so
a step that fails has changed nothing.

The owner's operations are made up on the spot, for this account, with the next nonce and with the
secret that belongs to the account's owner, which no step can change (`Simulation.Owned`). So they
may be rejected for what they ask, but never for what they are
(`Simulation.only_malformed_steps_fail`).
-/

namespace SpendGuard

/-! ### Malformed steps -/

/-- What cannot be made sense of in a transfer, and how that is told. -/
inductive Transfer.Fault (profile : Profile) (t : Transfer) : Failure → Prop
  /-- The recipient is given as a text that is no key. -/
  | recipient {text : String} {reason : KeyError} (written : t.recipient = some text)
      (unreadable : Key.ofText text = .error reason) :
      Fault profile t (.badKey .recipient text reason)
  /-- Units are sent, of a token whose transfers cannot be built. -/
  | program (units : t.asset = .token) (other : profile.tokenProgram ≠ Token.standardProgram) :
      Fault profile t (.refused Call.unbuildable)

/-- What cannot be made sense of in a step, and how that is told. -/
inductive Step.Fault (profile : Profile) : Step → Failure → Prop
  /-- A transfer of an operation cannot. -/
  | transfer {transfers : List Transfer} {sponsored : Bool} {t : Transfer} {f : Failure}
      (mem : t ∈ transfers) (fault : t.Fault profile f) :
      Fault profile (.execute transfers sponsored) f
  /-- The recipient of a withdrawal is given as a text that is no key. -/
  | recipient {text : String} {reason : KeyError} (unreadable : Key.ofText text = .error reason) :
      Fault profile (.executeWithdraw (some text)) (.badKey .recipient text reason)

namespace Simulation

variable {scheme : SignatureScheme} {s : Simulation} {l : Ledger} {spare default : Key}
  {recipient : Option String} {t : Transfer} {transfers : List Transfer} {n : Nat} {step : Step}
  {calls : List Call} {sponsored : Bool} {f : Failure} {e : Error}

/-! ### Building calls -/

/-- A recipient cannot be made out when it is given as a text that is no key. -/
theorem recipientOr_eq_error_iff :
    recipientOr default recipient = .error f ↔ ∃ text reason, recipient = some text ∧
      Key.ofText text = .error reason ∧ f = .badKey .recipient text reason := by
  cases recipient with
  | none => simp [recipientOr]
  | some text =>
    simp only [recipientOr, Key.ofTextAs, Option.some.injEq, exists_and_left, exists_eq_left']
    cases Key.ofText text <;> simp [Except.mapError, eq_comm]

theorem fault_of_transferCall (h : transferCall l spare t = .error f) : t.Fault l.profile f := by
  simp only [transferCall, bind, bind_eq_error_iff] at h
  obtain hrecipient | ⟨recipient, -, hbuilt⟩ := h
  · obtain ⟨text, reason, written, unreadable, rfl⟩ := recipientOr_eq_error_iff.mp hrecipient
    exact .recipient written unreadable
  cases hasset : t.asset with
  | sol =>
    rw [hasset] at hbuilt
    cases hbuilt
  | token =>
    rw [hasset] at hbuilt
    by_cases hprogram : l.profile.tokenProgram = Token.standardProgram
    · rw [Call.tokenTransfer, if_pos hprogram] at hbuilt
      cases hbuilt
    · rw [Call.tokenTransfer_of_ne hprogram] at hbuilt
      cases hbuilt
      exact .program hasset hprogram

/-- No call is built for a transfer with a fault. -/
theorem not_isOk_transferCall (h : t.Fault l.profile f) :
    ¬ (transferCall l spare t).isOk = true := by
  intro hok
  obtain ⟨call, hcall⟩ := isOk_iff_exists.mp hok
  simp only [transferCall, bind, bind_eq_ok_iff] at hcall
  obtain ⟨recipient, hrecipient, hbuilt⟩ := hcall
  cases h with
  | recipient written unreadable =>
    cases hrecipient.symm.trans
      (recipientOr_eq_error_iff.mpr ⟨_, _, written, unreadable, rfl⟩)
  | program units other =>
    rw [units, Call.tokenTransfer_of_ne other] at hbuilt
    cases hbuilt

/-- The calls are built in order; the first transfer that has a fault ends it. -/
theorem fault_of_transferCalls (h : transferCalls l n transfers = .error f) :
    ∃ t ∈ transfers, t.Fault l.profile f := by
  induction transfers generalizing n with
  | nil => cases h
  | cons t rest ih =>
    simp only [transferCalls, bind, bind_eq_error_iff] at h
    obtain hfirst | ⟨call, -, hrest | ⟨calls, -, hnothing⟩⟩ := h
    · exact ⟨t, List.mem_cons_self, fault_of_transferCall hfirst⟩
    · obtain ⟨t', hmem, hfault⟩ := ih hrest
      exact ⟨t', List.mem_cons_of_mem t hmem, hfault⟩
    · cases hnothing

/-- No calls are built when there is a fault in any transfer, wherever it stands. -/
theorem not_isOk_transferCalls (hmem : t ∈ transfers) (h : t.Fault l.profile f) :
    ¬ (transferCalls l n transfers).isOk = true := by
  intro hok
  obtain ⟨calls, hcalls⟩ := isOk_iff_exists.mp hok
  induction transfers generalizing n calls with
  | nil => cases hmem
  | cons first rest ih =>
    simp only [transferCalls, bind, bind_eq_ok_iff] at hcalls
    obtain ⟨call, hfirst, calls', hrest, -⟩ := hcalls
    rcases List.mem_cons.mp hmem with rfl | hmem
    · exact not_isOk_transferCall h (isOk_iff_exists.mpr ⟨call, hfirst⟩)
    · exact ih hmem (isOk_iff_exists.mpr ⟨calls', hrest⟩) calls' hrest

/-! ### Steps that fail -/

theorem step_execute_of_error (h : transferCalls s.ledger s.keysMade transfers = .error f) :
    s.step scheme (.execute transfers sponsored) = (.error f, s) := by
  simp only [Simulation.step, h]

/-- An operation whose calls can be built is handled, and what it is answered with is told. -/
theorem step_execute_of_ok (h : transferCalls s.ledger s.keysMade transfers = .ok calls) :
    s.step scheme (.execute transfers sponsored) =
      (.ok (told operationText (s.handle scheme calls sponsored).1),
        { (s.handle scheme calls sponsored).2 with
          keysMade := s.keysMade + transfers.length }) := by
  simp only [Simulation.step, h]
  rfl

theorem step_executeWithdraw_of_error
    (h : recipientOr (scheme.publicKey s.secret) recipient = .error f) :
    s.step scheme (.executeWithdraw recipient) = (.error f, s) := by
  simp only [Simulation.step, h]

theorem step_executeWithdraw_of_ok {key : Key}
    (h : recipientOr (scheme.publicKey s.secret) recipient = .ok key) :
    s.step scheme (.executeWithdraw recipient) =
      let withdrawn := s.ledger.executeWithdraw Chain.executor s.clock (scheme.publicKey s.secret)
        key s.chain
      (.ok (told withdrawalText withdrawn.1),
        { s with ledger := withdrawn.2.1, chain := withdrawn.2.2 }) := by
  simp only [Simulation.step, h]

/-- A step that fails is malformed, and leaves everything as it was. -/
theorem fault_of_step (h : (s.step scheme step).1 = .error f) :
    step.Fault s.ledger.profile f ∧ (s.step scheme step).2 = s := by
  cases step with
  | advance | reclaim | requestWithdraw | status => cases h
  | execute transfers sponsored =>
    cases hcalls : transferCalls s.ledger s.keysMade transfers with
    | error f' =>
      rw [step_execute_of_error hcalls] at h ⊢
      cases h
      obtain ⟨t, hmem, hfault⟩ := fault_of_transferCalls hcalls
      exact ⟨.transfer hmem hfault, rfl⟩
    | ok calls =>
      rw [step_execute_of_ok hcalls] at h
      cases h
  | executeWithdraw recipient =>
    cases hrecipient : recipientOr (scheme.publicKey s.secret) recipient with
    | error f' =>
      rw [step_executeWithdraw_of_error hrecipient] at h ⊢
      cases h
      obtain ⟨text, reason, rfl, unreadable, rfl⟩ := recipientOr_eq_error_iff.mp hrecipient
      exact ⟨.recipient unreadable, rfl⟩
    | ok key =>
      rw [step_executeWithdraw_of_ok hrecipient] at h
      cases h

/-- A malformed step fails. -/
theorem isOk_step_of_fault (h : step.Fault s.ledger.profile f) :
    (s.step scheme step).1.isOk = false := by
  cases h with
  | transfer mem fault =>
    obtain ⟨f', hfails⟩ := not_isOk_iff_exists.mp (not_isOk_transferCalls mem fault)
    rw [step_execute_of_error hfails, isOk_error]
  | recipient unreadable =>
    rw [step_executeWithdraw_of_error
      (recipientOr_eq_error_iff.mpr ⟨_, _, rfl, unreadable, rfl⟩), isOk_error]

/-- **A step fails** exactly when it is malformed. -/
theorem isOk_step_eq_false_iff :
    (s.step scheme step).1.isOk = false ↔ ∃ f, step.Fault s.ledger.profile f := by
  constructor
  · intro hfails
    obtain ⟨f, hf⟩ := not_isOk_iff_exists.mp (Bool.eq_false_iff.mp hfails)
    exact ⟨f, (fault_of_step hf).1⟩
  · rintro ⟨f, hfault⟩
    exact isOk_step_of_fault hfault

/-! ### Whose account it is -/

/-- The secret of a simulation belongs to the account's owner. -/
def Owned (scheme : SignatureScheme) (s : Simulation) : Prop :=
  s.ledger.profile.owner = scheme.publicKey s.secret

/-- What has become of a simulation after steps, whether they failed or not. -/
def after (scheme : SignatureScheme) (s : Simulation) (steps : List Step) : Simulation :=
  steps.foldl (fun s step => (s.step scheme step).2) s

/-- The owner is made to fit the secret at the beginning. -/
theorem owned_start {secret : List UInt8} {now : Instant} {c : Configuration} {scenario : Scenario}
    (h : start scheme secret now c scenario = .ok s) : s.Owned scheme := by
  simp only [start, bind, bind_eq_ok_iff] at h
  obtain ⟨configured, -, program, -, funded, -, stocked, -, sponsored, -, hbegun⟩ := h
  cases hbegun
  rfl

/-- A step neither moves the account nor changes its profile, nor does it change the secret. -/
theorem keeps_step (scheme : SignatureScheme) (s : Simulation) (step : Step) :
    s.ledger.SameAccount (s.step scheme step).2.ledger ∧
      (s.step scheme step).2.secret = s.secret := by
  cases step with
  | advance | status => exact ⟨.refl _, rfl⟩
  | execute transfers sponsored =>
    cases hcalls : transferCalls s.ledger s.keysMade transfers with
    | error f =>
      rw [step_execute_of_error hcalls]
      exact ⟨.refl _, rfl⟩
    | ok calls =>
      rw [step_execute_of_ok hcalls]
      exact ⟨Dispatcher.sameAccount_handleAt .., rfl⟩
  | reclaim amount compute => exact ⟨(s.ledger.outcome_reclaimGas ..).sameAccount, rfl⟩
  | requestWithdraw =>
    exact ⟨(s.ledger.outcome_requestWithdraw Chain.executor s.clock s.chain
      (scheme.publicKey s.secret)).sameAccount, rfl⟩
  | executeWithdraw recipient =>
    cases hrecipient : recipientOr (scheme.publicKey s.secret) recipient with
    | error f =>
      rw [step_executeWithdraw_of_error hrecipient]
      exact ⟨.refl _, rfl⟩
    | ok key =>
      rw [step_executeWithdraw_of_ok hrecipient]
      exact ⟨(s.ledger.outcome_executeWithdraw ..).sameAccount, rfl⟩

/-- So the secret goes on belonging to the owner, whatever comes of a step. -/
theorem owned_step (h : s.Owned scheme) : (s.step scheme step).2.Owned scheme := by
  obtain ⟨hsame, hsecret⟩ := keeps_step scheme s step
  rw [Owned, hsame.profile, hsecret]
  exact h

/-- It does through all steps. -/
theorem owned_after (h : s.Owned scheme) (steps : List Step) :
    (s.after scheme steps).Owned scheme := by
  induction steps generalizing s with
  | nil => exact h
  | cons step rest ih => exact ih (owned_step h)

/-! ### Operations that are rejected -/

/-- The operation that the owner is made to sign for calls. -/
def operation (scheme : SignatureScheme) (s : Simulation) (calls : List Call) (sponsored : Bool) :
    Operation :=
  let paymaster := if sponsored then some s.sponsor.address else none
  let unsigned : Operation := ⟨s.ledger.address, s.dispatcher.nextNonce, calls, paymaster, .zero⟩
  unsigned.sign scheme s.secret

/-- What comes of calls is what the dispatcher answers to that operation. -/
theorem handle_fst :
    (s.handle scheme calls sponsored).1 =
      (s.dispatcher.handle scheme Chain.executor s.ledger s.clock
        (s.operation scheme calls sponsored) s.chain).1 := rfl

/-- An operation that is rejected was not at fault itself, if its signature verifies. -/
theorem not_faulted_of_handle (owned : s.Owned scheme)
    (verifies : scheme.verify (scheme.publicKey s.secret)
      (s.operation scheme calls sponsored).message
      (s.operation scheme calls sponsored).signature = true)
    (h : (s.handle scheme calls sponsored).1 = .error e) : e.faultsOperation = false := by
  rw [handle_fst] at h
  rw [← owned] at verifies
  exact Dispatcher.not_faulted_of_handle rfl verifies rfl h

/-! ### Together -/

/-- **Only malformed steps fail.**

* In whatever state a simulation is, a step fails exactly when it has a fault: it is given a
  recipient that is no key, or a transfer of units that cannot be built.
* What is told then is such a fault, and the clock, the account, the dispatcher and the chain are
  what they were.
* Otherwise an operation is handled, and what it is answered with is told, though it be an error.
  Provided that the signature made with the owner's secret verifies, no such error says that the
  operation is for another account, not signed by the owner, or out of turn.
* The secret is the owner's from the beginning, and stays so, whatever steps are run. -/
theorem only_malformed_steps_fail (scheme : SignatureScheme) :
    (∀ (s : Simulation) (step : Step),
      ((s.step scheme step).1.isOk = false ↔ ∃ f, step.Fault s.ledger.profile f) ∧
      ∀ f, (s.step scheme step).1 = .error f → step.Fault s.ledger.profile f ∧
        (s.step scheme step).2.clock = s.clock ∧ (s.step scheme step).2.ledger = s.ledger ∧
        (s.step scheme step).2.dispatcher = s.dispatcher ∧
        (s.step scheme step).2.chain = s.chain) ∧
    (∀ (s : Simulation) (transfers : List Transfer) (sponsored : Bool) (calls : List Call),
      transferCalls s.ledger s.keysMade transfers = .ok calls →
      (s.step scheme (.execute transfers sponsored)).1 =
        .ok (told operationText (s.handle scheme calls sponsored).1) ∧
      (s.Owned scheme →
        scheme.verify (scheme.publicKey s.secret) (s.operation scheme calls sponsored).message
          (s.operation scheme calls sponsored).signature = true →
        ∀ e, (s.handle scheme calls sponsored).1 = .error e → e.faultsOperation = false)) ∧
    ∀ secret now c scenario begun, start scheme secret now c scenario = .ok begun →
      ∀ steps, (begun.after scheme steps).Owned scheme := by
  refine ⟨fun s step => ⟨isOk_step_eq_false_iff, fun f hfails => ?_⟩,
    fun s transfers sponsored calls hcalls => ⟨?_, fun owned verifies e => ?_⟩,
    fun secret now c scenario begun hbegun steps => owned_after (owned_start hbegun) steps⟩
  · obtain ⟨hfault, hsame⟩ := fault_of_step hfails
    rw [hsame]
    exact ⟨hfault, rfl, rfl, rfl, rfl⟩
  · rw [step_execute_of_ok hcalls]
  · exact not_faulted_of_handle owned verifies

/-- The small account with a sponsor, a minute after the beginning. -/
def small : Simulation where
  clock := 60
  ledger := .small 0
  dispatcher := .sponsoring
  sponsor := .thrifty
  chain := .stocked
  secret := []
  keysMade := 3

/-- Two payments, the second of which is to nobody who can be made out. -/
def misspelt : Step := .execute [⟨.sol, none, 1⟩, ⟨.sol, some "nope", 1⟩] false

/-- One lamport more than the small account may spend in a day. -/
def overspending : List Transfer := [⟨.sol, none, 11⟩]

/-- Nothing but the token program is configured, and nobody has anything. -/
def penniless : Scenario := ⟨some 0, 0, 0, 0, []⟩

/-- The misspelt step fails, and nothing is paid; overspending is told, and not for a fault of the
operation; and a simulation that begins with the standard token belongs to the owner. -/
theorem misspelt_fails_and_overspending_is_told :
    let failed := small.step .credulous misspelt
    let call := Call.native (madeKey 4) 11
    (failed.1 = .error (.badKey .recipient "nope" .wrongSize) ∧ failed.2.ledger = small.ledger ∧
      failed.2.dispatcher = small.dispatcher ∧ failed.2.chain = small.chain) ∧
    ((small.step .credulous (.execute overspending true)).1 =
        .ok "REJECTED: Daily SOL limit exceeded: attempted total 11 > limit 10" ∧
      ∃ e, (small.handle .credulous [call] true).1 = .error e ∧ e.faultsOperation = false) ∧
    ∃ begun, start .credulous [] 0
        (.onlyTokenProgram "TokenkegQfeZyiNwAJbNbGKPFXCWuBvf9Ss623VQ5DA") penniless = .ok begun ∧
      (begun.after .credulous [misspelt, .requestWithdraw]).Owned .credulous := by
  obtain ⟨hfails, htold, howned⟩ := only_malformed_steps_fail .credulous
  have hmisspelt : (small.step .credulous misspelt).1 =
      .error (.badKey .recipient "nope" .wrongSize) := by decide +kernel
  obtain ⟨-, -, hledger, hdispatcher, hchain⟩ := (hfails small misspelt).2 _ hmisspelt
  have hcalls : transferCalls small.ledger small.keysMade overspending =
      .ok [Call.native (madeKey 4) 11] := rfl
  obtain ⟨htext, hfaultless⟩ := htold small overspending true _ hcalls
  have hrejected : (small.handle .credulous [Call.native (madeKey 4) 11] true).1 =
      .error (.capExceeded .daily .sol 11 10) := by decide +kernel
  have hbegins : (start .credulous [] 0
      (.onlyTokenProgram "TokenkegQfeZyiNwAJbNbGKPFXCWuBvf9Ss623VQ5DA") penniless).isOk = true := by
    decide +kernel
  obtain ⟨begun, hbegun⟩ := isOk_iff_exists.mp hbegins
  refine ⟨⟨hmisspelt, hledger, hdispatcher, hchain⟩, ⟨?_, _, hrejected, ?_⟩, begun, hbegun,
    howned _ _ _ _ _ hbegun _⟩
  · rw [htext, hrejected]
    decide +kernel
  · exact hfaultless rfl rfl _ hrejected

end Simulation

end SpendGuard
