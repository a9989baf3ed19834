import SpendGuard.Dispatcher
import SpendGuard.Proofs.Ledger.Run

/-!
# Vetted operations

The checks that an operation has to pass before anything happens, as one record
(`Dispatcher.Vetted`): the account, the owner's signature, the turn, the sponsor with enough compute
to be paid back, and the ledger's own judgement. Vetting succeeds exactly when all of them hold
(`Dispatcher.vet_eq_ok_iff`). An operation that fails one changes nothing at all, and one that
passes uses up its nonce, whatever becomes of its calls and of the payment
(`Dispatcher.dispatcher_handleAt_of_vetted`).
-/

namespace SpendGuard

namespace Dispatcher

variable {σ : Type}

/-! ### The checks -/

/-- Who fronts the fee of an operation, and what it comes to: nobody when the operation names no
paymaster, else the dispatcher's sponsor, who has to agree. -/
inductive Sponsored (x : Executor σ) (d : Dispatcher) (l : Ledger) (op : Operation) (world : σ) :
    Option (Sponsor × FeeQuote) → Prop
  /-- No paymaster is named. -/
  | unsponsored (unnamed : op.paymaster = none) : Sponsored x d l op world none
  /-- The sponsor is named, can be paid back afterwards, and agrees. -/
  | sponsored {sponsor : Sponsor} {quote : FeeQuote} (named : op.paymaster = some sponsor.address)
      (known : d.sponsor = some sponsor)
      (compute : Ledger.reclaimCompute ≤ d.budget.remainingAfter op.calls.length)
      (valid : sponsor.validate x l op.calls.length world = .ok quote) :
      Sponsored x d l op world (some (sponsor, quote))

/-- An operation passes every check there is before its nonce is used up. -/
structure Vetted (scheme : SignatureScheme) (x : Executor σ) (d : Dispatcher) (l : Ledger)
    (now : Instant) (op : Operation) (world : σ) (sponsored : Option (Sponsor × FeeQuote)) :
    Prop where
  /-- It is for the account. -/
  account : op.account = l.address
  /-- The owner signed it. -/
  signed : scheme.verify l.profile.owner op.message op.signature = true
  /-- It is next in turn. -/
  inTurn : op.nonce = d.nextNonce
  /-- Its fee is fronted as it asks. -/
  fee : Sponsored x d l op world sponsored
  /-- The ledger would accept its calls together with the fee. -/
  judged : ∃ spend,
    l.preflight now d.identity op.calls (sponsored.map fun p => p.2.token) = .ok spend

variable {scheme : SignatureScheme} {x : Executor σ} {d : Dispatcher} {l : Ledger} {now : Instant}
  {op : Operation} {world : σ} {sponsored : Option (Sponsor × FeeQuote)}

theorem sponsorFor_eq_ok_iff {paymaster : Key} {sponsor : Sponsor} :
    d.sponsorFor paymaster = .ok sponsor ↔
      d.sponsor = some sponsor ∧ sponsor.address = paymaster := by
  unfold sponsorFor
  cases d.sponsor with
  | none => simp
  | some s =>
    dsimp only
    split
    · next hs =>
      constructor
      · rintro ⟨⟩
        exact ⟨rfl, hs⟩
      · rintro ⟨⟨⟩, -⟩
        rfl
    · next hs =>
      refine iff_of_false (by simp) ?_
      rintro ⟨⟨⟩, hs'⟩
      exact hs hs'

theorem sponsorship_eq_ok_iff :
    d.sponsorship x l op world = .ok sponsored ↔ Sponsored x d l op world sponsored := by
  unfold sponsorship
  cases hpaymaster : op.paymaster with
  | none =>
    constructor
    · rintro ⟨⟩
      exact .unsponsored hpaymaster
    · rintro (_ | ⟨named, _, _, _⟩)
      · rfl
      · rw [hpaymaster] at named
        cases named
  | some paymaster =>
    simp only [bind, Except.bind, pure, Except.pure, throw, throwThe, MonadExceptOf.throw]
    constructor
    · intro h
      split at h
      · cases h
      next sponsor hsponsor =>
      obtain ⟨known, rfl⟩ := sponsorFor_eq_ok_iff.mp hsponsor
      split at h
      · cases h
      next hcompute =>
      split at h
      · cases h
      next quote valid =>
      cases h
      exact .sponsored hpaymaster known (UInt64.not_lt.mp hcompute) valid
    · rintro (unnamed | ⟨named, known, compute, valid⟩)
      · rw [hpaymaster] at unnamed
        cases unnamed
      · rw [hpaymaster] at named
        cases named
        rw [sponsorFor_eq_ok_iff.mpr ⟨known, rfl⟩]
        simp only [UInt64.not_lt.mpr compute, if_false, valid]

/-- **Vetting succeeds** exactly when every check does. -/
theorem vet_eq_ok_iff :
    d.vet scheme x l now op world = .ok sponsored ↔
      Vetted scheme x d l now op world sponsored := by
  simp only [vet, Operation.verify, bind, Except.bind, pure, Except.pure, throw, throwThe,
    MonadExceptOf.throw]
  constructor
  · -- One case distinction for each check, in the order in which they are made.
    intro h
    split at h
    · cases h
    next account =>
    split at h
    · cases h
    next hsigned =>
    split at h
    · cases h
    next inTurn =>
    split at h
    · cases h
    next sponsored' hfee =>
    split at h
    · cases h
    next spend judged =>
    cases h
    have signed : scheme.verify l.profile.owner op.message op.signature = true := by
      by_contra hbad
      rw [if_neg hbad] at hsigned
      cases hsigned
    exact ⟨not_not.mp account, signed, not_not.mp inTurn, sponsorship_eq_ok_iff.mp hfee, spend,
      judged⟩
  · rintro ⟨account, signed, inTurn, fee, spend, judged⟩
    rw [if_neg (not_not.mpr account), if_pos signed]
    dsimp only
    rw [if_neg (not_not.mpr inTurn), sponsorship_eq_ok_iff.mpr fee]
    dsimp only
    rw [judged]

/-! ### Handling -/

/-- The calls of an operation are run as one request of the dispatcher. -/
theorem exists_outcome_runCalls (x : Executor σ) (d : Dispatcher) (l : Ledger) (now : Instant)
    (calls : List Call) (world : σ) :
    ∃ request, request.spending? = some calls ∧
      Ledger.Outcome x l now world request ((d.runCalls x l now calls world).1.map .executed)
        (d.runCalls x l now calls world).2.1 (d.runCalls x l now calls world).2.2 := by
  unfold runCalls
  split
  · next call => exact ⟨_, rfl, l.outcome_execute x now world d.identity call⟩
  · exact ⟨_, rfl, l.outcome_executeBatch x now world d.identity calls⟩

theorem sameAccount_settle (x : Executor σ) (sponsor : Sponsor) (l : Ledger) (now : Instant)
    (quote : FeeQuote) (remaining : Amount) (world : σ) :
    l.SameAccount (sponsor.settle x l now quote remaining world).2.1 := by
  unfold Sponsor.settle
  split
  · exact .refl l
  next world' _ =>
  split
  · exact .refl l
  have hreclaim := (l.outcome_reclaimGas x now world' sponsor.address quote.token
    remaining).sameAccount
  split <;> next heq => rwa [heq] at hreclaim

/-- Paying the sponsor back is at most a request of the sponsor. -/
theorem sameAccount_payBack (x : Executor σ) (d : Dispatcher) (now : Instant) (op : Operation)
    (sponsored : Option (Sponsor × FeeQuote)) (execution : Except Error Receipt) (l : Ledger)
    (world : σ) : l.SameAccount (d.payBack x now op sponsored execution l world).2.1 := by
  unfold payBack
  split
  · exact .refl l
  next sponsor quote =>
  have hsettle := sameAccount_settle x sponsor l now quote
    (d.budget.remainingAfter op.calls.length) world
  dsimp only
  split
  · next heq => rwa [heq] at hsettle
  · next heq =>
    rw [heq] at hsettle
    split <;> exact hsettle

/-- **An operation that fails a check** is told why, and nothing else happens: no nonce is used up,
and neither the account nor the executor's world changes. -/
theorem handleAt_of_not_vetted {clock : Readings}
    (h : ∀ sponsored, ¬ Vetted scheme x d l clock.vetting op world sponsored) :
    ∃ e, d.handleAt scheme x l clock op world = (.error e, d, l, world) := by
  unfold handleAt
  cases hvet : d.vet scheme x l clock.vetting op world with
  | error e => exact ⟨e, rfl⟩
  | ok sponsored => exact absurd (vet_eq_ok_iff.mp hvet) (h sponsored)

/-- **An operation that passes every check** uses up its nonce, whatever becomes of its calls and of
the payment. -/
theorem dispatcher_handleAt_of_vetted {clock : Readings}
    (h : Vetted scheme x d l clock.vetting op world sponsored) :
    (d.handleAt scheme x l clock op world).2.1 = { d with nextNonce := d.nextNonce + 1 } := by
  rw [handleAt, vet_eq_ok_iff.mpr h]

theorem sameAccount_handleAt (scheme : SignatureScheme) (x : Executor σ) (d : Dispatcher)
    (l : Ledger) (clock : Readings) (op : Operation) (world : σ) :
    l.SameAccount (d.handleAt scheme x l clock op world).2.2.1 := by
  -- Running the calls and paying the sponsor back are the two steps that touch the account.
  unfold handleAt
  cases d.vet scheme x l clock.vetting op world with
  | error e => exact .refl l
  | ok sponsored =>
    obtain ⟨request, -, hruns⟩ := exists_outcome_runCalls x d l clock.running op.calls world
    exact hruns.sameAccount.trans (sameAccount_payBack x d clock.settling op sponsored _ _ _)

end Dispatcher

/-! ### Data for examples

A scheme that trusts everyone, and operations of the small account. -/

/-- A scheme under which every signature is good. -/
def SignatureScheme.credulous : SignatureScheme where
  publicKey _ := .repeating 1
  sign _ _ := .zero
  verify _ _ _ := true

/-- An operation that pays one lamport from the small account. -/
def Operation.paying (nonce : Amount) : Operation :=
  ⟨.repeating 5, nonce, [.native (.repeating 6) 1], none, .zero⟩

end SpendGuard
