import SpendGuard.Proofs.Chain.Conservation
import SpendGuard.Proofs.Dispatcher.Foresight
import SpendGuard.Proofs.Ledger.Refusal
import SpendGuard.Proofs.Sponsor

/-!
# What an operation is answered with

Three errors find fault with an operation itself: it is for another account, the owner did not sign
it, or it is not next in turn (`Error.faultsOperation`). Only the dispatcher says so, and only while
it vets. Whatever the sponsor, the account and an in-memory chain have to object to is something
else, in every phase. So an operation that is addressed, signed and numbered as it should be is
never faulted, no matter what becomes of its calls and its fee (`Dispatcher.not_faulted_of_handle`).
-/

namespace SpendGuard

/-- Whether an error finds fault with an operation itself, not with what it asks for. -/
def Error.faultsOperation : Error → Bool
  | wrongAccount _ _ | invalidSignature | invalidNonce _ _ => true
  | _ => false

/-! ### The account -/

section Account

variable {profile : Profile} {state : State} {amount : Spend} {now : Instant} {caps : Caps}
  {asset : Asset} {counters : Counters} {charged : Amount} {e : Error}

theorem Caps.Breach.not_faulted (h : caps.Breach asset counters charged e) :
    e.faultsOperation = false := by
  cases h <;> rfl

theorem Policy.Obstacle.not_faulted (h : Policy.Obstacle profile state amount now e) :
    e.faultsOperation = false := by
  cases h with
  | coolingDown => rfl
  | breach _ capped => exact capped.not_faulted

/-- No reason that an account has to refuse a request, on an in-memory chain, is a fault of an
operation. -/
theorem Ledger.Refusal.not_faulted {l : Ledger} {chain : Chain} {request : Request}
    (h : Ledger.Refusal Chain.executor l now chain request e) : e.faultsOperation = false := by
  cases h with
  | unauthorized | disallowed | unsummable | compute | unbuildable | unrequested | unreleased => rfl
  | unaccepted _ judged => exact judged.not_faulted
  | overCap judged => exact judged.not_faulted
  | reported executor =>
    obtain ⟨fault, rfl⟩ := Chain.callFailed_of_reports executor
    rfl

end Account

/-! ### The sponsor -/

namespace Sponsor

variable {s : Sponsor} {l : Ledger} {now : Instant} {quote : FeeQuote} {remaining : Amount}
  {callCount : Nat} {chain : Chain} {e : Error}

theorem not_faulted_of_validate (h : s.validate Chain.executor l callCount chain = .error e) :
    e.faultsOperation = false := by
  simp only [validate, bind, throw_if_eq_error_iff, bind_eq_error_iff] at h
  obtain ⟨-, rfl⟩ | ⟨-, hquote | ⟨quote, -, ⟨-, rfl⟩ | ⟨-, hbalance | ⟨balance, -, hfunds⟩⟩⟩⟩ := h
  · rfl
  · rw [FeeSchedule.overflow_of_quote hquote]
    rfl
  · rfl
  · cases hbalance
  · obtain ⟨-, rfl⟩ | ⟨-, hnothing⟩ := hfunds
    · rfl
    · cases hnothing

theorem not_faulted_of_settle
    (h : (s.settle Chain.executor l now quote remaining chain).1 = .error e) :
    e.faultsOperation = false := by
  rcases settle_eq_error_iff.mp h with huncharged | ⟨-, charged, -, hrefused⟩
  · have hcharge := chain.chargeFee_spec s.address quote.lamports
    change (chain.chargeFee s.address quote.lamports).1 = .error e at huncharged
    split at hcharge
    · obtain ⟨_, hpaid, -⟩ := hcharge
      rw [hpaid] at huncharged
      cases huncharged
    · rw [hcharge] at huncharged
      cases huncharged
      rfl
  · exact (Ledger.refusal_of_reclaimGas hrefused).not_faulted

end Sponsor

/-! ### The dispatcher -/

namespace Dispatcher

variable {scheme : SignatureScheme} {d : Dispatcher} {l : Ledger} {now : Instant} {op : Operation}
  {sponsored : Option (Sponsor × FeeQuote)} {execution : Except Error Receipt} {calls : List Call}
  {paymaster : Key} {chain : Chain} {e : Error}

theorem not_faulted_of_sponsorFor (h : d.sponsorFor paymaster = .error e) :
    e.faultsOperation = false := by
  unfold sponsorFor at h
  split at h
  · cases h
    rfl
  · split at h <;> cases h
    rfl

theorem not_faulted_of_sponsorship (h : d.sponsorship Chain.executor l op chain = .error e) :
    e.faultsOperation = false := by
  unfold sponsorship at h
  split at h
  · cases h
  · simp only [bind, throw_if_eq_error_iff, bind_eq_error_iff] at h
    obtain hunknown | ⟨sponsor, -, ⟨-, rfl⟩ | ⟨-, hinvalid | ⟨_, -, hnothing⟩⟩⟩ := h
    · exact not_faulted_of_sponsorFor hunknown
    · rfl
    · exact Sponsor.not_faulted_of_validate hinvalid
    · cases hnothing

/-- An operation that is for the account, signed by its owner and next in turn is not faulted by the
dispatcher. -/
theorem not_faulted_of_vet (addressed : op.account = l.address)
    (signed : scheme.verify l.profile.owner op.message op.signature = true)
    (inTurn : op.nonce = d.nextNonce) (h : d.vet scheme Chain.executor l now op chain = .error e) :
    e.faultsOperation = false := by
  have hsigned : op.verify scheme l.profile.owner = .ok () := if_pos signed
  simp only [vet, bind, throw_if_eq_error_iff, bind_eq_error_iff, hsigned] at h
  obtain ⟨hstranger, -⟩ | ⟨-, hforged | ⟨_, -, ⟨hturn, -⟩ | ⟨-, hvetted⟩⟩⟩ := h
  · exact absurd addressed hstranger
  · cases hforged
  · exact absurd inTurn hturn
  · obtain hunfunded | ⟨_, -, hrefused | ⟨_, -, hnothing⟩⟩ := hvetted
    · exact not_faulted_of_sponsorship hunfunded
    · have hrefusal :
          Ledger.Refusal Chain.executor l now chain (.preflight d.identity op.calls _) e :=
        Ledger.refusal_of_preflight hrefused
      exact hrefusal.not_faulted
    · cases hnothing

theorem not_faulted_of_runCalls
    (h : (d.runCalls Chain.executor l now calls chain).1 = .error e) :
    e.faultsOperation = false := by
  unfold runCalls at h
  split at h
  · exact (Ledger.refusal_of_execute h).not_faulted
  · exact (Ledger.refusal_of_executeBatch h).not_faulted

/-- Paying back does not fault an operation whose calls were not faulted. -/
theorem not_faulted_of_payBack (ran : ∀ e, execution = .error e → e.faultsOperation = false)
    (h : (d.payBack Chain.executor now op sponsored execution l chain).1 = .error e) :
    e.faultsOperation = false := by
  cases sponsored with
  | none => exact ran e (map_eq_error_iff.mp h)
  | some fee =>
    obtain hfailed | ⟨-, hunsettled⟩ := payBack_eq_error_iff.mp h
    · exact ran e hfailed
    · exact Sponsor.not_faulted_of_settle hunsettled

/-- **An operation is not faulted without reason.** On an in-memory chain, when it is for the
account, signed by its owner and next in turn, whatever error it ends in is about something else. -/
theorem not_faulted_of_handle (addressed : op.account = l.address)
    (signed : scheme.verify l.profile.owner op.message op.signature = true)
    (inTurn : op.nonce = d.nextNonce)
    (h : (d.handle scheme Chain.executor l now op chain).1 = .error e) :
    e.faultsOperation = false := by
  unfold handle handleAt at h
  cases hvet : d.vet scheme Chain.executor l now op chain with
  | error e' =>
    rw [hvet] at h
    cases h
    exact not_faulted_of_vet addressed signed inTurn hvet
  | ok sponsored =>
    rw [hvet] at h
    exact not_faulted_of_payBack (fun _ hfailed => not_faulted_of_runCalls hfailed) h

end Dispatcher

end SpendGuard
