import SpendGuard.State

/-!
# How windows move

A state has four windows, one for each asset and period; the anchors are shared between the
assets. They are all that a state counts (`State.eq_of_window`). Rolling a state rolls each of the
four on its own (`State.window_roll`), and short of the last instant a window is over exactly when
its whole period has passed (`Period.isOver_iff`).
-/

namespace SpendGuard

/-! ### When a window is over -/

/-- Short of the last instant, where deadlines are held, a window is over once its period has
passed in full. -/
theorem Period.isOver_iff {period : Period} {anchor now : Instant} (hnow : now < Instant.last) :
    period.isOver anchor now ↔ anchor.toInt + period.seconds ≤ now.toInt := by
  rw [Period.isOver, decide_eq_true_iff, Instant.after_le_iff_of_lt_last hnow]

/-- A window that begins now is not over. -/
theorem Period.not_isOver_self (period : Period) {now : Instant} (hnow : now < Instant.last) :
    ¬ period.isOver now now := by
  have hlong : 0 < period.seconds := by cases period <;> decide
  rw [Period.isOver_iff hnow]
  omega

namespace Window

variable {period : Period} {now : Instant} {w : Window}

theorem roll_of_isOver (h : period.isOver w.anchor now) : w.roll period now = ⟨now, 0⟩ := if_pos h

theorem roll_of_not_isOver (h : ¬ period.isOver w.anchor now) : w.roll period now = w := if_neg h

/-- Where a window begins after a roll does not depend on what was spent in it. -/
theorem anchor_roll (period : Period) (now anchor : Instant) (spent : Amount) :
    (roll period now ⟨anchor, spent⟩).anchor =
      if period.isOver anchor now then now else anchor := by
  unfold roll
  split <;> rfl

/-- A window as of now is not over. -/
theorem not_isOver_roll (hnow : now < Instant.last) (w : Window) :
    ¬ period.isOver (w.roll period now).anchor now := by
  by_cases hover : period.isOver w.anchor now
  · rw [roll_of_isOver hover]
    exact period.not_isOver_self hnow
  · rw [roll_of_not_isOver hover]
    exact hover

theorem spent_roll_le (period : Period) (now : Instant) (w : Window) :
    (w.roll period now).spent.toNat ≤ w.spent.toNat := by
  unfold roll
  split
  · exact Nat.zero_le _
  · exact Nat.le_refl _

/-- As time passes, a window as of now holds less and less: once it is over it stays over. -/
theorem spent_roll_anti (period : Period) {now later : Instant} (h : now ≤ later) (w : Window) :
    (w.roll period later).spent.toNat ≤ (w.roll period now).spent.toNat := by
  by_cases hover : period.isOver w.anchor now
  · have hlater : period.isOver w.anchor later :=
      decide_eq_true (Int64.le_trans (of_decide_eq_true hover) h)
    rw [roll_of_isOver hlater]
    exact Nat.zero_le _
  · rw [roll_of_not_isOver hover]
    exact spent_roll_le period later w

end Window

/-! ### The four windows of a state -/

theorem Counters.eq_of_forall {c c' : Counters} (h : ∀ period, c.of period = c'.of period) :
    c = c' := by
  cases c
  cases c'
  congr 1
  · exact h .daily
  · exact h .monthly

namespace State

/-- Where the windows of a period begin, for both assets. -/
def anchor (s : State) : Period → Instant
  | .daily => s.dailyAnchor
  | .monthly => s.monthlyAnchor

/-- The window of one asset and one period. -/
def window (s : State) (asset : Asset) (period : Period) : Window :=
  ⟨s.anchor period, (s.counters asset).of period⟩

@[simp]
theorem lastLargeSpend_roll (s : State) (now : Instant) :
    (s.roll now).lastLargeSpend = s.lastLargeSpend := rfl

/-- A state is given by its windows, the last large spend and the withdrawal request. -/
theorem eq_of_window {s s' : State}
    (hwindow : ∀ asset period, s.window asset period = s'.window asset period)
    (hpending : s.withdrawRequestedAt = s'.withdrawRequestedAt) :
    s = { s' with lastLargeSpend := s.lastLargeSpend } := by
  have hcounters (asset : Asset) : s.counters asset = s'.counters asset :=
    Counters.eq_of_forall fun period => congrArg Window.spent (hwindow asset period)
  have hanchor (period : Period) : s.anchor period = s'.anchor period :=
    congrArg Window.anchor (hwindow .sol period)
  cases s
  congr 1
  · exact hcounters .sol
  · exact hcounters .token
  · exact hanchor .daily
  · exact hanchor .monthly

/-- Where the windows of a rolled state begin is read off the anchors and the clock. -/
theorem anchor_roll (s : State) (now : Instant) (period : Period) :
    (s.roll now).anchor period =
      if period.isOver (s.anchor period) now then now else s.anchor period := by
  cases period <;> exact Window.anchor_roll _ _ _ _

/-- Rolling a state rolls each of its windows on its own. -/
theorem window_roll (s : State) (now : Instant) (asset : Asset) (period : Period) :
    (s.roll now).window asset period = (s.window asset period).roll period now := by
  have hanchor : ((s.roll now).window asset period).anchor =
      ((s.window asset period).roll period now).anchor :=
    (s.anchor_roll now period).trans (Window.anchor_roll _ _ _ _).symm
  have hspent : ((s.roll now).window asset period).spent =
      ((s.window asset period).roll period now).spent := by
    cases asset <;> cases period <;> rfl
  cases h : (s.roll now).window asset period
  cases h' : (s.window asset period).roll period now
  simp_all

end State

end SpendGuard
