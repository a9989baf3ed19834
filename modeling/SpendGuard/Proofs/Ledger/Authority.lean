import SpendGuard.Proofs.Ledger.Cooldown
import SpendGuard.Proofs.Ledger.Timelock

/-!
# Only the right key changes anything

Every request is restricted to the key that holds one role, and that is looked at before anything
else: whoever else asks is told so, whatever was asked and whatever state the account is in
(`Ledger.perform_of_stranger`). Nothing has happened then, neither to the account nor in the
executor's world, so strangers can be left out of a run and everybody else is answered as before
(`Ledger.run_filter_authorized`). Those who hold a role change no more than what it is for: windows
are for spending and for the sponsor, the cooldown for spending, the withdrawal for the owner.
-/

namespace SpendGuard

/-- A request is **authorized** when it comes from the key that it is restricted to. -/
def Request.Authorized (profile : Profile) (request : Request) : Prop :=
  request.caller = profile.holder request.role

instance (profile : Profile) (request : Request) : Decidable (request.Authorized profile) :=
  inferInstanceAs (Decidable (request.caller = profile.holder request.role))

/-- The run with only those of its entries that were authorized. -/
def Course.onlyAuthorized {σ : Type} (profile : Profile) (c : Course σ) : Course σ :=
  { c with entries := c.entries.filter fun e => e.request.Authorized profile }

namespace Ledger

variable {σ : Type} {x : Executor σ} {l l' : Ledger} {now : Instant} {world world' : σ}
  {request : Request} {answer : Except Error Grant}

/-! ### Strangers -/

/-- A stranger is told so, and nothing happens. -/
theorem perform_of_stranger (stranger : ¬ request.Authorized l.profile) :
    l.perform x now world request =
      (.error (.unauthorized request.caller request.role), l, world) := by
  have hrefused : l.authorize request.caller request.role =
      .error (.unauthorized request.caller request.role) := if_neg stranger
  -- Whatever is asked, this is the first thing that is looked at.
  cases request with
  | execute caller call =>
    rw [perform, execute, show l.authorize caller .dispatcher = _ from hrefused]
    rfl
  | executeBatch caller calls =>
    rw [perform, executeBatch, show l.authorize caller .dispatcher = _ from hrefused]
    rfl
  | reclaimGas caller amount compute =>
    rw [perform, reclaimGas, show l.authorize caller .sponsor = _ from hrefused]
    rfl
  | preflight caller calls fee =>
    rw [perform, preflight, show l.authorize caller .dispatcher = _ from hrefused]
    rfl
  | requestWithdraw caller =>
    rw [perform, requestWithdraw, show l.authorize caller .owner = _ from hrefused]
    rfl
  | executeWithdraw caller recipient =>
    rw [perform, executeWithdraw, show l.authorize caller .owner = _ from hrefused]
    rfl

/-! ### What a role is for -/

section Outcome

variable (h : Outcome x l now world request answer l' world')
include h

/-- Neither an error nor anything but spending and repayments moves a window. -/
theorem Outcome.window_eq_of_role
    (hother : answer.isOk = false ∨ request.spending? = none ∧ request.role ≠ .sponsor)
    (asset : Asset) (period : Period) :
    l'.state.window asset period = l.state.window asset period := by
  refine h.window_eq ?_ asset period
  cases h with
  | executed _ asked =>
    rcases hother with hfailed | ⟨hnone, -⟩
    · cases hfailed
    · cases asked.symm.trans hnone
  | reclaimed =>
    rcases hother with hfailed | ⟨-, hrole⟩
    · cases hfailed
    · exact absurd rfl hrole
  | refused | failed | foreseen | requested | withdrawnNothing | withdrawn => rfl

/-- Neither an error nor anything but spending begins a cooldown. -/
theorem Outcome.lastLargeSpend_eq_of_role
    (hother : answer.isOk = false ∨ request.spending? = none) :
    l'.state.lastLargeSpend = l.state.lastLargeSpend := by
  refine h.lastLargeSpend_of_not_large ?_
  rintro ⟨receipt, rfl, -⟩
  obtain ⟨calls, hcalls⟩ := h.exists_calls_of_executed rfl
  rcases hother with hfailed | hnone
  · cases hfailed
  · cases hcalls.symm.trans hnone

end Outcome

/-! ### Runs -/

variable (l world) (attempts : List (Attempt σ Request))

/-- Strangers can be left out of a run: everybody else is answered as before, and everything ends up
where it did. -/
theorem run_filter_authorized :
    l.run world (attempts.filter fun q => q.asked.Authorized l.profile) =
      (l.run world attempts).onlyAuthorized l.profile := by
  induction attempts generalizing l world with
  | nil => rfl
  | cons q rest ih =>
    obtain ⟨x, now, request⟩ := q
    by_cases hmine : request.Authorized l.profile
    · -- Who is authorized does not change on the way, since the profile does not.
      have hprofile := (l.outcome_perform x now world request).sameAccount.profile
      have hrest := ih (l.perform x now world request).2.1 (l.perform x now world request).2.2
      rw [hprofile] at hrest
      rw [List.filter_cons_of_pos (by simpa using hmine), run_cons, run_cons, runAfter, runAfter,
        hrest]
      simp [Course.onlyAuthorized, hmine]
    · -- The rest starts where the stranger found account and world.
      rw [List.filter_cons_of_neg (by simpa using hmine), run_cons, runAfter,
        perform_of_stranger hmine, ih]
      simp [Course.onlyAuthorized, hmine]

variable {l world attempts}

/-- Every stranger in a run is told so. -/
theorem answer_of_stranger {e : Entry} (he : e ∈ (l.run world attempts).entries)
    (stranger : ¬ e.request.Authorized l.profile) :
    e.answer = .error (.unauthorized e.request.caller e.request.role) := by
  obtain ⟨n, hn⟩ := List.mem_iff_getElem?.mp he
  -- It was a stranger to the account as it was by then, too.
  rw [← (l.sameAccount_run world (attempts.take n)).profile] at stranger
  obtain ⟨x, hanswer⟩ := answer_of_getElem?_entries hn
  rw [hanswer, perform_of_stranger stranger]

/-- **Only the right key changes anything, and only its own part.** Requests are answered one after
the other, on whatever clock, and each on an executor of its own.

* When strangers are left out of a run, everybody else is answered as before, and the account and
  the executors' world end up as they did.
* Every stranger was told that the key is not the one that the request is restricted to. Whatever a
  stranger asks for after a run, this is the answer, and nothing happens.
* Windows are moved only by spending that was carried out and by a repayment of the sponsor, a
  cooldown is begun only by spending that was carried out, and the pending withdrawal is touched
  only by what the owner was granted. -/
theorem only_the_right_key (l : Ledger) (world : σ) (attempts : List (Attempt σ Request)) :
    let before := l.run world attempts
    l.run world (attempts.filter fun q => q.asked.Authorized l.profile) =
        before.onlyAuthorized l.profile ∧
      (∀ e ∈ before.entries, ¬ e.request.Authorized l.profile →
        e.answer = .error (.unauthorized e.request.caller e.request.role)) ∧
      ∀ x now request,
        let after := before.ledger.perform x now before.world request
        (¬ request.Authorized l.profile →
          after = (.error (.unauthorized request.caller request.role), before.ledger,
            before.world)) ∧
        (after.1.isOk = false ∨ request.spending? = none ∧ request.role ≠ .sponsor →
          ∀ asset period, after.2.1.state.window asset period =
            before.ledger.state.window asset period) ∧
        (after.1.isOk = false ∨ request.spending? = none →
          after.2.1.state.lastLargeSpend = before.ledger.state.lastLargeSpend) ∧
        (after.1.isOk = false ∨ request.role ≠ .owner →
          after.2.1.state.withdrawRequestedAt = before.ledger.state.withdrawRequestedAt) := by
  intro before
  refine ⟨l.run_filter_authorized world attempts, fun e he => answer_of_stranger he,
    fun x now request => ?_⟩
  have houtcome := before.ledger.outcome_perform x now before.world request
  refine ⟨fun stranger => ?_, houtcome.window_eq_of_role, houtcome.lastLargeSpend_eq_of_role,
    houtcome.withdrawRequestedAt_eq_of_role⟩
  rw [← (l.sameAccount_run world attempts).profile] at stranger
  exact perform_of_stranger stranger

/-- Two spends of the dispatcher and a withdrawal request of the owner. -/
def regulars : List (Attempt Chain Request) :=
  Chain.executor.serving
    [(200, .execute (.repeating 2) (.native (.repeating 6) 3)),
      (400, .requestWithdraw (.repeating 1)),
      (600, .execute (.repeating 2) (.native (.repeating 6) 4))]

/-- The same among strangers: a key without a role, and keys that hold another one. -/
def crowd : List (Attempt Chain Request) :=
  Chain.executor.serving
    [(100, .execute (.repeating 9) (.native (.repeating 9) 5)),
      (200, .execute (.repeating 2) (.native (.repeating 6) 3)),
      (250, .executeBatch (.repeating 1) []), (300, .reclaimGas (.repeating 2) 3 50000),
      (400, .requestWithdraw (.repeating 1)), (500, .requestWithdraw (.repeating 3)),
      (600, .execute (.repeating 2) (.native (.repeating 6) 4)),
      (172900, .executeWithdraw (.repeating 9) (.repeating 9))]

/-- On a chain the crowd comes to what the regulars come to by themselves. The sponsor cannot begin
the wait for a withdrawal anew, and the owner's asking again moves no window. -/
theorem crowd_without_strangers :
    let before := (small 0).run .funded crowd
    let again := (before.ledger.perform Chain.executor 700 before.world
      (.requestWithdraw (.repeating 1))).2.1
    before.entries.map (·.answer.isOk) = [false, true, false, false, true, false, true, false] ∧
      (small 0).run .funded regulars = before.onlyAuthorized .small ∧
      (∀ e ∈ before.entries, e.request = .requestWithdraw (.repeating 3) →
        e.answer = .error (.unauthorized (.repeating 3) .owner)) ∧
      again.state.window .sol .daily = ⟨0, 7⟩ ∧ again.state.withdrawRequestedAt = some 700 := by
  obtain ⟨hfilter, hstrangers, hnext⟩ := only_the_right_key (small 0) .funded crowd
  obtain ⟨-, hwindow, -, -⟩ := hnext Chain.executor 700 (.requestWithdraw (.repeating 1))
  have hregulars : (crowd.filter fun q => q.asked.Authorized (small 0).profile) = regulars := rfl
  rw [hregulars] at hfilter
  refine ⟨by decide, hfilter, fun e he hasked => ?_, ?_, by decide⟩
  · have hstranger : ¬ e.request.Authorized (small 0).profile := by
      rw [hasked]
      decide
    rw [hstrangers e he hstranger, hasked]
    rfl
  · exact (hwindow (.inr ⟨rfl, by decide⟩) .sol .daily).trans (by decide)

end Ledger

end SpendGuard
