import Mathlib.Data.List.Nodup
import SpendGuard.Proofs.Dispatcher.HandedOver

/-!
# Every operation has one turn

A dispatcher and its account in service: operations arrive in any order, altered, repeated or ahead
of time, and between them anyone may make requests of the account directly or change the executor's
world. An operation is **admitted** when it passes every check, and only then are its calls handed
over, once (`Dispatcher.HandsOver`). The nonces of the admitted operations count up from zero
without a gap, so none is admitted twice, and nothing is handed over twice for the same operation
(`Service.admitted_in_turn`). Nothing is assumed of signatures, of the executor or of the clock,
which may move on, or be set back, while an operation is handled.
-/

namespace SpendGuard

/-- An account in service: who takes its operations, the account, and the executor's world. -/
structure Service (σ : Type) where
  /-- What takes operations. -/
  dispatcher : Dispatcher
  /-- The account. -/
  ledger : Ledger
  /-- The executor's world. -/
  world : σ

/-- What can happen to an account in service. -/
inductive Event (σ : Type) where
  /-- An operation is handed in, and this is what the clock shows in its phases. -/
  | operation (clock : Dispatcher.Readings) (op : Operation)
  /-- A request is made of the account directly. -/
  | request (now : Instant) (request : Request)
  /-- The executor's world changes by itself, and with it perhaps how it answers from then on. -/
  | outside (change : σ → σ)

/-- Whether an operation is handed in. -/
def Event.isOperation {σ : Type} : Event σ → Bool
  | operation _ _ => true
  | request _ _ | outside _ => false

namespace Service

variable {σ : Type} (scheme : SignatureScheme) (x : Executor σ)

/-- What becomes of everything with one event. -/
def step (s : Service σ) : Event σ → Service σ
  | .operation clock op =>
    let (_, dispatcher, ledger, world) := s.dispatcher.handleAt scheme x s.ledger clock op s.world
    ⟨dispatcher, ledger, world⟩
  | .request now request =>
    let (_, ledger, world) := s.ledger.perform x now s.world request
    { s with ledger, world }
  | .outside change => { s with world := change s.world }

/-- What becomes of everything with events, one after the other. -/
def run (s : Service σ) (events : List (Event σ)) : Service σ := events.foldl (step scheme x) s

/-- The operation of an event, when it is admitted. -/
def admits? (s : Service σ) : Event σ → Option Operation
  | .operation clock op =>
    match s.dispatcher.vet scheme x s.ledger clock.vetting op s.world with
    | .ok _ => some op
    | .error _ => none
  | .request _ _ | .outside _ => none

/-- The operations that are admitted in the course of events, in order. -/
def admitted (s : Service σ) : List (Event σ) → List Operation
  | [] => []
  | event :: rest => (s.admits? scheme x event).toList ++ admitted (s.step scheme x event) rest

/-- The operation of an event with what is handed over for it, when anything is. -/
def hands? (s : Service σ) : Event σ → Option (Operation × List (List Call))
  | .operation clock op =>
    match s.dispatcher.handedOver scheme x s.ledger clock op s.world with
    | [] => none
    | handed => some (op, handed)
  | .request _ _ | .outside _ => none

/-- The operations for which anything is handed over in the course of events, in order, each with
what is handed over for it. -/
def handedOver (s : Service σ) : List (Event σ) → List (Operation × List (List Call))
  | [] => []
  | event :: rest => (s.hands? scheme x event).toList ++ handedOver (s.step scheme x event) rest

variable {scheme x} {s : Service σ} {event : Event σ} {op : Operation}

/-! ### One event -/

/-- An operation is admitted when it passes every check. -/
theorem admits?_eq_some_iff :
    s.admits? scheme x event = some op ↔
      ∃ clock sponsored, event = .operation clock op ∧
        Dispatcher.Vetted scheme x s.dispatcher s.ledger clock.vetting op s.world sponsored := by
  cases event with
  | operation clock op' =>
    simp only [← Dispatcher.vet_eq_ok_iff, admits?]
    cases hvet : s.dispatcher.vet scheme x s.ledger clock.vetting op' s.world with
    | error e =>
      refine iff_of_false (by simp) ?_
      rintro ⟨_, _, ⟨⟩, h⟩
      rw [hvet] at h
      cases h
    | ok sponsored =>
      constructor
      · rintro ⟨⟩
        exact ⟨clock, sponsored, rfl, hvet⟩
      · rintro ⟨_, _, ⟨⟩, _⟩
        rfl
  | request | outside => simp [admits?]

theorem sameAccount_step (scheme : SignatureScheme) (x : Executor σ) (s : Service σ)
    (event : Event σ) : s.ledger.SameAccount (s.step scheme x event).ledger := by
  cases event with
  | operation clock op =>
    exact Dispatcher.sameAccount_handleAt scheme x s.dispatcher s.ledger clock op s.world
  | request now request => exact (s.ledger.outcome_perform x now s.world request).sameAccount
  | outside change => exact .refl s.ledger

/-- With an event that admits nothing the dispatcher stays as it is. -/
theorem dispatcher_step_of_none (h : s.admits? scheme x event = none) :
    (s.step scheme x event).dispatcher = s.dispatcher := by
  cases event with
  | operation clock op =>
    have hfails (sponsored) :
        ¬ Dispatcher.Vetted scheme x s.dispatcher s.ledger clock.vetting op s.world sponsored := by
      intro hvetted
      rw [admits?_eq_some_iff.mpr ⟨clock, sponsored, rfl, hvetted⟩] at h
      cases h
    obtain ⟨e, he⟩ := Dispatcher.handleAt_of_not_vetted hfails
    rw [step, he]
  | request | outside => rfl

/-- With an operation that is admitted, which is the one whose turn it is, the turn passes on. -/
theorem nextNonce_step_of_some (h : s.admits? scheme x event = some op) :
    event.isOperation = true ∧ op.nonce = s.dispatcher.nextNonce ∧
      (s.step scheme x event).dispatcher.nextNonce = s.dispatcher.nextNonce + 1 := by
  obtain ⟨clock, sponsored, rfl, hvetted⟩ := admits?_eq_some_iff.mp h
  exact ⟨rfl, hvetted.inTurn,
    congrArg Dispatcher.nextNonce (Dispatcher.dispatcher_handleAt_of_vetted hvetted)⟩

/-- Nothing is handed over for an operation that is not admitted. -/
theorem admits?_of_hands? {handed : List (List Call)}
    (h : s.hands? scheme x event = some (op, handed)) : s.admits? scheme x event = some op := by
  cases event with
  | operation clock op' =>
    have hhands := Dispatcher.handsOver_handedOver scheme x s.dispatcher s.ledger clock op' s.world
    rw [hands?] at h
    generalize s.dispatcher.handedOver scheme x s.ledger clock op' s.world = batches at h hhands
    cases hhands with
    | refused => cases h
    | admitted vetted =>
      obtain rfl : op' = op := by
        split at h <;> cases h
        rfl
      exact admits?_eq_some_iff.mpr ⟨clock, _, rfl, vetted⟩
  | request | outside => cases h

/-! ### Courses of events -/

/-- As long as nonces do not run out, the admitted operations have consecutive nonces, and the next
one follows them. -/
theorem nonces_admitted (scheme : SignatureScheme) (x : Executor σ) (s : Service σ)
    (events : List (Event σ))
    (hfew : s.dispatcher.nextNonce.toNat + events.countP Event.isOperation < 2 ^ 64) :
    (s.admitted scheme x events).map (·.nonce.toNat) =
        List.range' s.dispatcher.nextNonce.toNat (s.admitted scheme x events).length ∧
      (s.run scheme x events).dispatcher.nextNonce.toNat =
        s.dispatcher.nextNonce.toNat + (s.admitted scheme x events).length := by
  -- The bound leaves room for every operation still to come, so no nonce wraps around.
  induction events generalizing s with
  | nil => exact ⟨rfl, rfl⟩
  | cons event rest ih =>
    rw [List.countP_cons] at hfew
    cases hadmits : s.admits? scheme x event with
    | none =>
      have hsame := dispatcher_step_of_none hadmits
      have ih := ih (s.step scheme x event) (by rw [hsame]; omega)
      rw [hsame] at ih
      rw [admitted, hadmits]
      exact ih
    | some op =>
      obtain ⟨hoperation, hturn, hnext⟩ := nextNonce_step_of_some hadmits
      rw [if_pos hoperation] at hfew
      have hnext : (s.step scheme x event).dispatcher.nextNonce.toNat =
          s.dispatcher.nextNonce.toNat + 1 := by
        rw [hnext, UInt64.toNat_add, UInt64.toNat_one, Nat.mod_eq_of_lt (by omega)]
      obtain ⟨hmap, hrun⟩ := ih (s.step scheme x event) (by rw [hnext]; omega)
      rw [hnext] at hmap hrun
      rw [admitted, hadmits]
      refine ⟨?_, ?_⟩
      · simp only [Option.toList_some, List.singleton_append, List.map_cons, List.length_cons,
          List.range'_succ, hturn, hmap]
      · simp only [Option.toList_some, List.singleton_append, List.length_cons]
        rw [run, List.foldl_cons, ← run, hrun]
        omega

/-- So no operation is admitted twice. -/
theorem nodup_admitted (scheme : SignatureScheme) (x : Executor σ) (s : Service σ)
    (events : List (Event σ))
    (hfew : s.dispatcher.nextNonce.toNat + events.countP Event.isOperation < 2 ^ 64) :
    (s.admitted scheme x events).Nodup := by
  -- Operations with different nonces are different.
  refine List.Nodup.of_map (·.nonce.toNat) ?_
  rw [(nonces_admitted scheme x s events hfew).1]
  exact List.nodup_range'

/-- Admitted operations are for the account and signed by its owner. -/
theorem signed_of_mem_admitted {events : List (Event σ)} (hop : op ∈ s.admitted scheme x events) :
    op.account = s.ledger.address ∧
      scheme.verify s.ledger.profile.owner op.message op.signature = true := by
  induction events generalizing s with
  | nil => cases hop
  | cons event rest ih =>
    rw [admitted, List.mem_append, Option.mem_toList] at hop
    rcases hop with hop | hop
    · obtain ⟨clock, sponsored, -, hvetted⟩ := admits?_eq_some_iff.mp hop
      exact ⟨hvetted.account, hvetted.signed⟩
    · have hsame := sameAccount_step scheme x s event
      rw [← hsame.address, ← hsame.profile]
      exact ih hop

/-- The operations for which anything is handed over are admitted ones, in the same order. -/
theorem handedOver_sublist (scheme : SignatureScheme) (x : Executor σ) (s : Service σ)
    (events : List (Event σ)) :
    ((s.handedOver scheme x events).map Prod.fst).Sublist (s.admitted scheme x events) := by
  induction events generalizing s with
  | nil => exact .refl _
  | cons event rest ih =>
    rw [handedOver, admitted, List.map_append]
    refine List.Sublist.append ?_ (ih _)
    cases hhands : s.hands? scheme x event with
    | none => exact List.nil_sublist _
    | some p =>
      rw [admits?_of_hands? hhands]
      exact .refl _

/-- **Every operation has one turn.** A fresh dispatcher takes fewer than `2 ^ 64` operations, with
anything else happening in between, on a clock that may show anything in each phase of an operation.

* At every moment its next nonce is the number of operations admitted so far, and their nonces are
  zero, one, two and so on, in this order; so no operation is admitted twice. All of them are for
  the account and signed by its owner.
* An operation that fails any of the checks is refused, and the dispatcher, the account and the
  executor's world stay exactly as they were.
* What is handed over for an operation is what an executor that keeps a record finds in it, and
  keeping it changes nothing else. For an operation that fails a check it is nothing, and for any
  other at most its calls, once, and then at most one repayment to its sponsor
  (`Dispatcher.HandsOver`). So in the whole course nothing is handed over twice for an operation. -/
theorem admitted_in_turn (scheme : SignatureScheme) (x : Executor σ) (identity : Key)
    (sponsor : Option Sponsor) (budget : ComputeBudget) (l : Ledger) (world : σ)
    (events : List (Event σ)) (hfew : events.countP Event.isOperation < 2 ^ 64) :
    let start : Service σ := ⟨.fresh identity sponsor budget, l, world⟩
    (∀ before, before <+: events →
      (start.run scheme x before).dispatcher.nextNonce.toNat =
          (start.admitted scheme x before).length ∧
        (start.admitted scheme x before).map (·.nonce.toNat) =
          List.range (start.admitted scheme x before).length) ∧
    (start.admitted scheme x events).Nodup ∧
    (∀ op ∈ start.admitted scheme x events, op.account = l.address ∧
      scheme.verify l.profile.owner op.message op.signature = true) ∧
    (∀ before clock op after, events = before ++ .operation clock op :: after →
      let s := start.run scheme x before
      let handling := s.dispatcher.handleAt scheme x s.ledger clock op s.world
      let handed := s.dispatcher.handedOver scheme x s.ledger clock op s.world
      ((∀ sponsored,
          ¬ Dispatcher.Vetted scheme x s.dispatcher s.ledger clock.vetting op s.world sponsored) →
        ∃ e, handling = (.error e, s.dispatcher, s.ledger, s.world)) ∧
      (∀ record, s.dispatcher.handleAt scheme x.recording s.ledger clock op (s.world, record) =
        (handling.1, handling.2.1, handling.2.2.1, handling.2.2.2, record ++ handed)) ∧
      s.dispatcher.HandsOver scheme x s.ledger clock op s.world handed) ∧
    ((start.handedOver scheme x events).map Prod.fst).Nodup := by
  intro start
  have hroom {n : Nat} (hle : n ≤ events.countP Event.isOperation) :
      start.dispatcher.nextNonce.toNat + n < 2 ^ 64 :=
    Nat.lt_of_le_of_lt ((Nat.zero_add n).le.trans hle) hfew
  have hturns (before : List (Event σ)) (hbefore : before <+: events) :
      (start.run scheme x before).dispatcher.nextNonce.toNat =
          (start.admitted scheme x before).length ∧
        (start.admitted scheme x before).map (·.nonce.toNat) =
          List.range (start.admitted scheme x before).length := by
    obtain ⟨hmap, hrun⟩ := nonces_admitted scheme x start before
      (hroom hbefore.sublist.countP_le)
    exact ⟨hrun.trans (Nat.zero_add _), hmap.trans List.range_eq_range'.symm⟩
  have honce : (start.admitted scheme x events).Nodup :=
    nodup_admitted scheme x start events (hroom (Nat.le_refl _))
  refine ⟨hturns, honce, fun op => signed_of_mem_admitted, ?_,
    honce.sublist (handedOver_sublist scheme x start events)⟩
  -- What one operation does is the same in any state, so in each that events lead to.
  intro before clock op after _ s handling handed
  exact ⟨Dispatcher.handleAt_of_not_vetted,
    Dispatcher.handleAt_recording scheme x s.dispatcher s.ledger clock op s.world,
    Dispatcher.handsOver_handedOver scheme x s.dispatcher s.ledger clock op s.world⟩

/-- A small account in service, for which every signature is good. -/
def small : Service Unit := ⟨.fresh (.repeating 2) none .standard, .small 0, ()⟩

/-- Two operations for the small account, one handed in ahead of its turn and one handed in again,
with a direct request in between. -/
def hastyEvents : List (Event Unit) :=
  [.operation ⟨60, 60, 60⟩ (.paying 1), .operation ⟨60, 61, 61⟩ (.paying 0),
    .operation ⟨62, 62, 62⟩ (.paying 0), .request 63 (.requestWithdraw (.repeating 1)),
    .operation ⟨64, 60, 65⟩ (.paying 1)]

/-- Each of the two has its turn once, and hands its call over then. -/
theorem hastyEvents_in_turn :
    hastyEvents.countP Event.isOperation < 2 ^ 64 ∧
      small.admitted .credulous .obliging hastyEvents = [.paying 0, .paying 1] ∧
      small.handedOver .credulous .obliging hastyEvents =
        [(.paying 0, [(Operation.paying 0).calls]), (.paying 1, [(Operation.paying 1).calls])] ∧
      (small.run .credulous .obliging hastyEvents).dispatcher.nextNonce.toNat =
        (small.admitted .credulous .obliging hastyEvents).length := by
  have hfew : hastyEvents.countP Event.isOperation < 2 ^ 64 := by decide
  have hturns := (admitted_in_turn .credulous .obliging (.repeating 2) none .standard (.small 0) ()
    hastyEvents hfew).1 hastyEvents (List.prefix_refl _)
  exact ⟨hfew, by decide, by decide, hturns.1⟩

end Service

end SpendGuard
