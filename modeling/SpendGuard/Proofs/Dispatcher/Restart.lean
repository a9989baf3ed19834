import SpendGuard.Proofs.Codec.RoundTrip
import SpendGuard.Proofs.Dispatcher.Turns

/-!
# Operations across a restart

What is saved of an account is its address, its profile and its state, and nothing of the dispatcher
that served it. So an account comes back as it was (`Service.restart_eq`), but its new dispatcher
counts from zero again, and an operation that was carried out before the restart has another turn
after it: it is admitted again if it is handed in when as many operations have been admitted since
as its nonce says and the ledger accepts it, and then never once more. What is handed over for it is
so at most once before the restart and once after it (`Service.admitted_again_after_restart`).
-/

namespace SpendGuard

namespace Service

variable {σ : Type}

/-- An account in service whose ledger is saved, loaded again and given another dispatcher. The
executor's world goes on as it is. -/
def restart (s : Service σ) (dispatcher : Dispatcher) : Except Error (Service σ) :=
  (Ledger.load s.ledger.save).map fun ledger => ⟨dispatcher, ledger, s.world⟩

/-- A restart changes nothing but the dispatcher. -/
theorem restart_eq (s : Service σ) (dispatcher : Dispatcher) :
    s.restart dispatcher = .ok ⟨dispatcher, s.ledger, s.world⟩ := by
  rw [restart, Ledger.load_save, Except.map]

theorem sameAccount_run (scheme : SignatureScheme) (x : Executor σ) (s : Service σ)
    (events : List (Event σ)) : s.ledger.SameAccount (s.run scheme x events).ledger := by
  induction events generalizing s with
  | nil => exact .refl s.ledger
  | cons event rest ih => exact (sameAccount_step scheme x s event).trans (ih _)

/-- **An operation has at most one more turn after a restart.** The account is loaded as it was
saved, and its new dispatcher is fresh. An operation that was admitted before the restart is
admitted at most once in the course of fewer than `2 ^ 64` operations after it, and so its calls are
handed over at most once more; and when it is handed in, it is admitted exactly if as many
operations have been admitted since the restart as its nonce says, its fee is fronted as it asks,
and the ledger accepts its calls together with the fee. -/
theorem admitted_again_after_restart (scheme : SignatureScheme) (x : Executor σ)
    (old : Service σ) (identity : Key) (sponsor : Option Sponsor) (budget : ComputeBudget)
    (before after : List (Event σ)) (hfew : after.countP Event.isOperation < 2 ^ 64) :
    let saved := old.run scheme x before
    let new : Service σ := ⟨.fresh identity sponsor budget, saved.ledger, saved.world⟩
    saved.restart (.fresh identity sponsor budget) = .ok new ∧
    ∀ op ∈ old.admitted scheme x before,
      (new.admitted scheme x after).count op ≤ 1 ∧
      ((new.handedOver scheme x after).map Prod.fst).count op ≤ 1 ∧
      ∀ first clock rest, after = first ++ .operation clock op :: rest →
        let s := new.run scheme x first
        (s.admits? scheme x (.operation clock op) = some op ↔
          (new.admitted scheme x first).length = op.nonce.toNat ∧
            ∃ sponsored, Dispatcher.Sponsored x s.dispatcher s.ledger op s.world sponsored ∧
              ∃ spend, s.ledger.preflight clock.vetting s.dispatcher.identity op.calls
                (sponsored.map fun p => p.2.token) = .ok spend) ∧
        s.dispatcher.HandsOver scheme x s.ledger clock op s.world
          (s.dispatcher.handedOver scheme x s.ledger clock op s.world) := by
  intro saved new
  have hroom {events : List (Event σ)} (hevents : events.countP Event.isOperation < 2 ^ 64) :
      new.dispatcher.nextNonce.toNat + events.countP Event.isOperation < 2 ^ 64 :=
    Nat.lt_of_le_of_lt (Nat.zero_add _).le hevents
  have honce : (new.admitted scheme x after).Nodup :=
    nodup_admitted scheme x new after (hroom hfew)
  have hhanded := honce.sublist (handedOver_sublist scheme x new after)
  refine ⟨restart_eq saved _, fun op hop => ⟨List.nodup_iff_count_le_one.mp honce op,
    List.nodup_iff_count_le_one.mp hhanded op, fun first clock rest heq => ?_⟩⟩
  intro s
  refine ⟨?_, Dispatcher.handsOver_handedOver ..⟩
  have hfirst : first.countP Event.isOperation < 2 ^ 64 := by
    rw [heq, List.countP_append] at hfew
    omega
  have hturn : s.dispatcher.nextNonce.toNat = (new.admitted scheme x first).length :=
    (nonces_admitted scheme x new first (hroom hfirst)).2.trans (Nat.zero_add _)
  -- The account and the owner are those of before the restart.
  have hsame : old.ledger.SameAccount s.ledger :=
    (sameAccount_run scheme x old before).trans (sameAccount_run scheme x new first)
  obtain ⟨haccount, hsigned⟩ := signed_of_mem_admitted hop
  rw [admits?_eq_some_iff]
  constructor
  · rintro ⟨_, sponsored, ⟨⟩, hvetted⟩
    exact ⟨hturn.symm.trans (congrArg UInt64.toNat hvetted.inTurn).symm, sponsored, hvetted.fee,
      hvetted.judged⟩
  · rintro ⟨hnonce, sponsored, fee, judged⟩
    refine ⟨clock, sponsored, rfl, haccount.trans hsame.address.symm, ?_, ?_, fee, judged⟩
    · rw [hsame.profile]
      exact hsigned
    · exact UInt64.toNat_inj.mp (hnonce.symm.trans hturn.symm)

/-- The small account in service on a chain where it holds something. -/
def funded : Service Chain := ⟨.fresh (.repeating 2) none .standard, .small 0, .funded⟩

/-- An operation that was carried out before a restart is carried out again after it, and pays
twice. -/
theorem paying_twice :
    let op := Operation.paying 0
    let saved := funded.step .credulous Chain.executor (.operation ⟨60, 60, 60⟩ op)
    let new : Service Chain := ⟨.fresh (.repeating 2) none .standard, saved.ledger, saved.world⟩
    (funded.dispatcher.handleAt .credulous Chain.executor funded.ledger ⟨60, 60, 60⟩ op
        funded.world).1.isOk = true ∧
      saved.restart (.fresh (.repeating 2) none .standard) = .ok new ∧
      (new.dispatcher.handleAt .credulous Chain.executor new.ledger ⟨61, 61, 61⟩ op
        new.world).1.isOk = true ∧
      (funded.world.lamportsOf (.repeating 5)).toNat =
        ((new.step .credulous Chain.executor (.operation ⟨61, 61, 61⟩ op)).world.lamportsOf
          (.repeating 5)).toNat + 2 :=
  ⟨by decide, restart_eq _ _, by decide, by decide⟩

/-- Handed in twice after the restart, the operation is admitted once, and its call is handed over
once. -/
theorem paying_once_more :
    let saved := funded.run .credulous Chain.executor [.operation ⟨60, 60, 60⟩ (.paying 0)]
    let new : Service Chain := ⟨.fresh (.repeating 2) none .standard, saved.ledger, saved.world⟩
    let after : List (Event Chain) :=
      [.operation ⟨61, 61, 61⟩ (.paying 0), .operation ⟨62, 62, 62⟩ (.paying 0)]
    after.countP Event.isOperation < 2 ^ 64 ∧
      new.admitted .credulous Chain.executor after = [.paying 0] ∧
      (new.admitted .credulous Chain.executor after).count (.paying 0) ≤ 1 ∧
      new.handedOver .credulous Chain.executor after =
        [(.paying 0, [(Operation.paying 0).calls])] := by
  intro saved new after
  have hfew : after.countP Event.isOperation < 2 ^ 64 := by decide
  have hrestart := admitted_again_after_restart .credulous Chain.executor funded (.repeating 2) none
    .standard [.operation ⟨60, 60, 60⟩ (.paying 0)] after hfew
  exact ⟨hfew, by decide, (hrestart.2 (.paying 0) (by decide)).1, by decide⟩

end Service

end SpendGuard
