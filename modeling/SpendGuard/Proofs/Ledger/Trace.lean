import SpendGuard.Proofs.Ledger.Outflow

/-!
# Failures leave no trace

Counters, anchors and the cooldown stamp are stored before anything leaves the account, and put back
when the executor fails. So a request that comes to nothing, on whichever check or in the executor,
leaves the account with the state it had, in every field, and an in-memory chain with every balance,
owner and transaction it had. What only looks at the account stores nothing at all, though its
answer may show windows that are over as fresh ones: everything that looks can be left out of a
session (`Ledger.session_filter_looks`).
-/

namespace SpendGuard

/-! ### Looking at an account -/

/-- What can be looked up about an account. -/
inductive Inquiry where
  /-- Its token account. -/
  | tokenAccount
  /-- The stored state, as it is. -/
  | state
  /-- What may still be spent. -/
  | allowance
  /-- When the running cooldown ends. -/
  | cooldownUntil
  /-- Where the emergency withdrawal stands. -/
  | withdrawalStatus
  /-- When the pending withdrawal is released. -/
  | withdrawalReadyAt
deriving DecidableEq

/-- What is found. -/
inductive Finding where
  /-- A token account. -/
  | account (key : Key)
  /-- A stored state. -/
  | state (state : State)
  /-- What may still be spent. -/
  | allowance (allowance : Allowance)
  /-- A point in time, if there is one. -/
  | moment (moment : Option Instant)
  /-- Where a withdrawal stands. -/
  | status (status : Withdrawal.Status)
deriving DecidableEq

/-- What can be done with an account: it is asked for something, or looked at. -/
inductive Interaction where
  /-- A request. -/
  | request (request : Request)
  /-- An inquiry. -/
  | inquiry (inquiry : Inquiry)
deriving DecidableEq

/-- Whether an interaction only looks at the account. A preflight does, too: it is asked for a
judgement and reserves nothing. -/
def Interaction.looks : Interaction → Bool
  | .inquiry _ | .request (.preflight _ _ _) => true
  | .request _ => false

namespace Ledger

variable {σ : Type}

/-- What an inquiry finds at an instant. -/
def lookUp (l : Ledger) (now : Instant) : Inquiry → Finding
  | .tokenAccount => .account l.tokenAccount
  | .state => .state l.state
  | .allowance => .allowance (l.allowance now)
  | .cooldownUntil => .moment (l.cooldownUntil now)
  | .withdrawalStatus => .status l.withdrawalStatus
  | .withdrawalReadyAt => .moment l.withdrawalReadyAt

/-- Answers a request or an inquiry at an instant. -/
def attend (x : Executor σ) (l : Ledger) (now : Instant) (world : σ) :
    Interaction → (Except Error Grant ⊕ Finding) × Ledger × σ
  | .request request => Prod.map .inl id (l.perform x now world request)
  | .inquiry inquiry => (.inr (l.lookUp now inquiry), l, world)

/-- What becomes of an account and of the executors' world with interactions, one after the other,
each at its instant and on its executor. -/
def session (l : Ledger) (world : σ) : List (Attempt σ Interaction) → Ledger × σ
  | [] => (l, world)
  | ⟨x, now, interaction⟩ :: rest =>
    let (_, l, world) := l.attend x now world interaction
    session l world rest

theorem session_cons (x : Executor σ) (l : Ledger) (world : σ) (now : Instant)
    (interaction : Interaction) (rest : List (Attempt σ Interaction)) :
    session l world (⟨x, now, interaction⟩ :: rest) =
      session (l.attend x now world interaction).2.1 (l.attend x now world interaction).2.2
        rest := rfl

/-- What only looks changes neither the account nor the executor's world. -/
theorem attend_of_looks {x : Executor σ} {l : Ledger} {now : Instant} {world : σ}
    {interaction : Interaction} (h : interaction.looks = true) :
    (l.attend x now world interaction).2 = (l, world) := by
  match interaction, h with
  | .inquiry _, _ | .request (.preflight _ _ _), _ => rfl

/-- Whatever only looks can be left out of a session. -/
theorem session_filter_looks (l : Ledger) (world : σ)
    (interactions : List (Attempt σ Interaction)) :
    session l world (interactions.filter fun i => !i.asked.looks) =
      session l world interactions := by
  induction interactions generalizing l world with
  | nil => rfl
  | cons i rest ih =>
    obtain ⟨x, now, interaction⟩ := i
    by_cases hlooks : interaction.looks = true
    · have hsame : (l.attend x now world interaction).2 = (l, world) := attend_of_looks hlooks
      rw [List.filter_cons_of_neg (by simp [hlooks]), ih, session_cons, hsame]
    · rw [List.filter_cons_of_pos (by simp [hlooks])]
      exact ih _ _

/-! ### Failing -/

/-- What fails leaves the account as it was. -/
theorem Outcome.ledger_eq_of_error {x : Executor σ} {l l' : Ledger} {now : Instant}
    {world world' : σ} {request : Request} {e : Error}
    (h : Outcome x l now world request (.error e) l' world') : l' = l := by
  cases h with
  | refused => rfl
  | failed => rfl

section Error

variable {x : Executor σ} {l : Ledger} {now : Instant} {world : σ} {request : Request} {e : Error}

theorem ledger_perform_of_error (h : (l.perform x now world request).1 = .error e) :
    (l.perform x now world request).2.1 = l := by
  have houtcome := l.outcome_perform x now world request
  rw [h] at houtcome
  exact houtcome.ledger_eq_of_error

/-- What fails on an in-memory chain leaves the chain as it was, too. -/
theorem perform_chain_of_error {chain : Chain}
    (h : (l.perform Chain.executor now chain request).1 = .error e) :
    (l.perform Chain.executor now chain request).2 = (l, chain) := by
  have houtcome := l.outcome_perform Chain.executor now chain request
  rw [h] at houtcome
  exact Prod.ext houtcome.ledger_eq_of_error houtcome.chain_eq_of_error

end Error

/-- **Failures leave no trace.** Whatever an account is asked, by whomever, at whatever time and
whatever the executor does: if the answer is an error, the account is what it was, in every field of
its state; on an in-memory chain the chain, too, is what it was. What only looks at the account, a
preflight included, never changes it, however many windows are over by then, and leaves no trace in
what comes after it. -/
theorem failure_leaves_no_trace (x : Executor σ) (l : Ledger) (now : Instant) (world : σ) :
    (∀ request e, (l.perform x now world request).1 = .error e →
      (l.perform x now world request).2.1 = l) ∧
    (∀ chain request e, (l.perform Chain.executor now chain request).1 = .error e →
      (l.perform Chain.executor now chain request).2 = (l, chain)) ∧
    (∀ interaction, interaction.looks = true →
      (l.attend x now world interaction).2 = (l, world)) ∧
    ∀ interactions, session l world interactions =
      session l world (interactions.filter fun i => !i.asked.looks) := by
  refine ⟨fun _ _ herror => ledger_perform_of_error herror,
    fun _ _ _ herror => perform_chain_of_error herror,
    fun _ hlooks => attend_of_looks hlooks, fun interactions => ?_⟩
  rw [session_filter_looks]

/-- The small account after it has spent something, with a withdrawal pending. -/
def busy : Ledger :=
  { small 0 with state := ⟨⟨3, 8⟩, ⟨1, 5⟩, 0, 0, some 10, some 20⟩ }

/-- A batch large enough to start a cooldown, at a time when a new day begins, fails on a chain that
turns one of its calls back. -/
theorem busy_after_failure :
    let chain := Chain.funded.failCallsTo Token.standardProgram
    (busy.perform Chain.executor 86400 chain spendBoth).1 =
        .error (.callFailed (.inCall 1 (.reverted Token.standardProgram))) ∧
      (busy.perform Chain.executor 86400 chain spendBoth).2 = (busy, chain) ∧
      busy.lookUp 86400 .allowance = .allowance ⟨⟨10, 42⟩, ⟨20, 95⟩⟩ ∧
      (busy.attend Chain.executor 86400 chain (.inquiry .allowance)).2 = (busy, chain) := by
  intro chain
  have hnone := failure_leaves_no_trace Chain.executor busy 86400 chain
  have herror : (busy.perform Chain.executor 86400 chain spendBoth).1 =
      .error (.callFailed (.inCall 1 (.reverted Token.standardProgram))) := by decide
  exact ⟨herror, hnone.2.1 chain spendBoth _ herror, by decide,
    hnone.2.2.1 (.inquiry .allowance) rfl⟩

end Ledger

end SpendGuard
