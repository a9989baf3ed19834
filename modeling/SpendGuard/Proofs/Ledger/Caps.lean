import SpendGuard.Proofs.Ledger.Counting

/-!
# Caps hold throughout

A counter moves in three ways: it stays, it starts again from zero with a new window, or it grows by
an amount that its cap was asked about. None of them takes it above the larger of its cap and what
it held before (`Window.Moves.spent_le`), and so no run does (`Ledger.spent_run_le`). An account
that was created, or restored, within its caps stays within them, on whatever clock and with
whatever executors. One that was restored beyond a cap is back within all of them as soon as it
spends anything, because a spend is held against every cap, also of an asset that it does not touch;
what the sponsor reclaims is held against those of the token only.
-/

namespace SpendGuard

/-- Rolling and growing take a window no higher than its cap, or than it was. -/
theorem Window.Moves.spent_le {period : Period} {now : Instant} {cap : Amount} {w w' : Window}
    {counted : Nat} (h : w.Moves period now cap counted w') :
    w'.spent.toNat ≤ max cap.toNat w.spent.toNat := by
  cases h with
  | kept => exact Nat.le_max_right _ _
  | grown anchor spent capped =>
    have hrolled := Window.spent_roll_le period now w
    rcases capped with hnothing | hcap
    · omega
    · exact Nat.le_trans hcap (Nat.le_max_left _ _)

namespace Ledger

/-- Every counter of an account is within its cap. -/
def WithinCaps (l : Ledger) : Prop :=
  ∀ asset period, (l.state.window asset period).spent.toNat ≤
    ((l.profile.limits.of asset).of period).toNat

instance (l : Ledger) : Decidable l.WithinCaps :=
  decidable_of_iff _ (Asset.forall_iff.trans (and_congr Period.forall_iff Period.forall_iff)).symm

theorem withinCaps_fresh (address : Key) (profile : Profile) (start : Instant) :
    (fresh address profile start).WithinCaps := by
  intro asset period
  have hzero : ((fresh address profile start).state.window asset period).spent = 0 := by
    cases asset <;> cases period <;> rfl
  rw [hzero]
  exact Nat.zero_le _

/-- After calls were carried out all counters are within their caps, wherever they were before. -/
theorem Outcome.withinCaps_of_executed {σ : Type} {x : Executor σ} {l l' : Ledger} {now : Instant}
    {world world' : σ} {request : Request} {receipt : Receipt}
    (h : Outcome x l now world request (.ok (.executed receipt)) l' world') : l'.WithinCaps := by
  cases h with
  | executed _ _ _ judged _ =>
    intro asset period
    exact (Policy.grown_of_spend judged asset period).2

variable {σ : Type} (l : Ledger) (world : σ)

/-- A run takes no counter above the larger of its cap and what it held at first. -/
theorem spent_run_le (attempts : List (Attempt σ Request)) (asset : Asset) (period : Period) :
    ((l.run world attempts).ledger.state.window asset period).spent.toNat ≤
      max ((l.profile.limits.of asset).of period).toNat
        (l.state.window asset period).spent.toNat := by
  induction attempts generalizing l world with
  | nil => exact Nat.le_max_right _ _
  | cons q rest ih =>
    obtain ⟨x, now, request⟩ := q
    have houtcome := l.outcome_perform x now world request
    have hstep := (houtcome.moves asset period).spent_le
    have hrest := ih (l.perform x now world request).2.1 (l.perform x now world request).2.2
    -- The profile has not changed, so the rest is held against the same cap.
    rw [houtcome.sameAccount.profile] at hrest
    exact Nat.le_trans hrest (Nat.max_le.mpr ⟨Nat.le_max_left _ _, hstep⟩)

/-- An account within its caps stays within them. -/
theorem withinCaps_run {l : Ledger} (h : l.WithinCaps) (attempts : List (Attempt σ Request)) :
    (l.run world attempts).ledger.WithinCaps := by
  intro asset period
  have hbound := l.spent_run_le world attempts asset period
  rw [(l.sameAccount_run world attempts).profile]
  exact Nat.le_trans hbound (Nat.max_le.mpr ⟨Nat.le_refl _, h asset period⟩)

/-- **Caps hold throughout.** Requests are answered one after the other, on whatever clock, and each
on an executor of its own, which makes of the calls what it likes; what holds after any run holds
after each of its requests.

* No counter is ever above the larger of its cap and what it held at first.
* So an account that begins within its caps, such as one with nothing spent, is always within them.
* Whenever calls were carried out the account is within all of its caps, wherever it was before. -/
theorem caps_hold_throughout (attempts : List (Attempt σ Request)) :
    (∀ asset period,
      ((l.run world attempts).ledger.state.window asset period).spent.toNat ≤
        max ((l.profile.limits.of asset).of period).toNat
          (l.state.window asset period).spent.toNat) ∧
    (l.WithinCaps → (l.run world attempts).ledger.WithinCaps) ∧
    (∀ address profile start,
      ((fresh address profile start).run world attempts).ledger.WithinCaps) ∧
    ∀ x now request receipt,
      ((l.run world attempts).ledger.perform x now (l.run world attempts).world request).1 =
          .ok (.executed receipt) →
        ((l.run world attempts).ledger.perform x now (l.run world attempts).world
          request).2.1.WithinCaps := by
  refine ⟨l.spent_run_le world attempts, fun hwithin => withinCaps_run world hwithin attempts,
    fun address profile start => withinCaps_run world (withinCaps_fresh address profile start)
      attempts, fun x now request receipt hexecuted => ?_⟩
  have houtcome := (l.run world attempts).ledger.outcome_perform x now
    (l.run world attempts).world request
  rw [hexecuted] at houtcome
  exact houtcome.withinCaps_of_executed

/-- The small account as it might be restored: sixty lamports were spent in a month that allows for
fifty, and thirty token units in a day that allows for twenty. -/
def overdrawn : Ledger :=
  { small 0 with state := ⟨⟨4, 60⟩, ⟨30, 30⟩, 0, 0, none, none⟩ }

/-- A reclamation and a spend, both of which are refused, and another reclamation a day later. -/
def overdrawnRequests : List (Attempt Unit Request) :=
  Executor.obliging.serving
    [(10, .reclaimGas (.repeating 3) 0 50000),
      (20, .execute (.repeating 2) (.native (.repeating 6) 1)),
      (86400, .reclaimGas (.repeating 3) 15 50000)]

/-- The month's counter on SOL stays beyond its cap, and no counter rises above what it held or its
cap; the first spend that is carried out brings all of them within their caps. -/
theorem overdrawn_until_spent :
    let course := overdrawn.run () overdrawnRequests
    let spent := course.ledger.perform .obliging 2592000 course.world
      (.execute (.repeating 2) (.native (.repeating 6) 10))
    ¬ overdrawn.WithinCaps ∧
      course.ledger.state = ⟨⟨0, 60⟩, ⟨15, 45⟩, 86400, 0, none, none⟩ ∧
      (course.ledger.state.window .sol .monthly).spent.toNat ≤ max 50 60 ∧
      ¬ course.ledger.WithinCaps ∧
      spent.1 = .ok (.executed ⟨.zero, ⟨10, 0⟩, 1, 2592000, false⟩) ∧ spent.2.1.WithinCaps ∧
      ((small 0).run () overdrawnRequests).ledger.WithinCaps := by
  have hcaps := caps_hold_throughout overdrawn () overdrawnRequests
  have hspent : ((overdrawn.run () overdrawnRequests).ledger.perform .obliging 2592000
      (overdrawn.run () overdrawnRequests).world
      (.execute (.repeating 2) (.native (.repeating 6) 10))).1 =
        .ok (.executed ⟨.zero, ⟨10, 0⟩, 1, 2592000, false⟩) := by decide
  have hwithin := hcaps.2.2.2 _ _ _ _ hspent
  have hfresh : ((small 0).run () overdrawnRequests).ledger.WithinCaps :=
    hcaps.2.2.1 (.repeating 5) .small 0
  exact ⟨by decide, by decide, hcaps.1 .sol .monthly, by decide, hspent, hwithin, hfresh⟩

end Ledger

end SpendGuard
