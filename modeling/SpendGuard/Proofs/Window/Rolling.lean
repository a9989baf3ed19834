import Mathlib.Data.List.Induction
import SpendGuard.Proofs.Window

/-!
# Rolling at several readings

A window is rolled whenever somebody looks. An early roll may begin a new window, and so postpone
the end of it; but what is counted at a reading does not depend on who looked before. The counters
after a path of readings that never goes back are those of a single roll at its end. The anchors
need not be, but they are no later (`Window.Trails`). One more reading keeps this
(`Window.Trails.roll`), and so does a whole path (`Window.trails_rollThrough`). The windows of an
asset and those of a state are rolled one by one, so that the same holds of them.
-/

namespace SpendGuard

/-- What becomes of something that is rolled at several readings, one after the other. -/
def rollThrough {α : Type} (roll : Instant → α → α) (readings : List Instant) (a : α) : α :=
  readings.foldl (fun a now => roll now a) a

section RollThrough

variable {α β : Type} {roll : Instant → α → α} {roll' : Instant → β → β}
  {earlier : List Instant} {now : Instant}

theorem rollThrough_append_singleton (roll : Instant → α → α) (earlier : List Instant)
    (now : Instant) (a : α) :
    rollThrough roll (earlier ++ [now]) a = roll now (rollThrough roll earlier a) := by
  rw [rollThrough, List.foldl_append]
  rfl

/-- A part that is rolled on its own at each reading is rolled on its own through all of them. -/
theorem rollThrough_part (f : α → β) (h : ∀ now a, f (roll now a) = roll' now (f a))
    (readings : List Instant) (a : α) :
    f (rollThrough roll readings a) = rollThrough roll' readings (f a) :=
  (List.foldl_hom f fun a now => (h now a).symm).symm

/-- A part that no roll changes is the same after all of them. -/
theorem rollThrough_kept (f : α → β) (h : ∀ now a, f (roll now a) = f a)
    (readings : List Instant) (a : α) : f (rollThrough roll readings a) = f a := by
  induction readings generalizing a with
  | nil => rfl
  | cons now rest ih => exact (ih (roll now a)).trans (h now a)

/-- Where rolling again changes nothing, neither does it after a path that ends there. -/
theorem roll_rollThrough_self (h : ∀ now a, roll now (roll now a) = roll now a) (a : α) :
    roll now (rollThrough roll (earlier ++ [now]) a) = rollThrough roll (earlier ++ [now]) a := by
  rw [rollThrough_append_singleton, h]

end RollThrough

variable {period : Period} {now later : Instant} {earlier : List Instant}

/-- A window that is over stays over. -/
theorem Period.isOver_of_le {anchor : Instant} (h : now ≤ later)
    (hover : period.isOver anchor now = true) : period.isOver anchor later = true :=
  decide_eq_true (Int64.le_trans (of_decide_eq_true hover) h)

/-! ### One window -/

namespace Window

variable {w reached : Window}

/-- Rolling again at the same reading changes nothing. -/
theorem roll_roll_self (period : Period) (now : Instant) (w : Window) :
    (w.roll period now).roll period now = w.roll period now := by
  by_cases hover : period.isOver w.anchor now
  · -- At the last instant the fresh window is over as well, and replaced by itself.
    rw [roll_of_isOver hover]
    exact ite_self _
  · rw [roll_of_not_isOver hover, roll_of_not_isOver hover]

/-- A window that was reached by several rolls **trails** another by a reading: it counts what that
one counts when it is rolled there once. Where this single roll resets the window, the one reached
began no later; where it does not, the one reached began where the window did. -/
structure Trails (period : Period) (now : Instant) (w reached : Window) : Prop where
  /-- The same is counted. -/
  spent_eq : reached.spent = (w.roll period now).spent
  /-- A window that the single roll resets was not reset later on the way. -/
  anchor_le : period.isOver w.anchor now = true → reached.anchor ≤ (w.roll period now).anchor
  /-- One that it leaves alone was not reset on the way. -/
  anchor_eq : ¬ period.isOver w.anchor now = true → reached.anchor = w.anchor

/-- A single roll trails. -/
theorem trails_roll (period : Period) (now : Instant) (w : Window) :
    Trails period now w (w.roll period now) where
  spent_eq := rfl
  anchor_le _ := Int64.le_refl _
  anchor_eq hover := by rw [roll_of_not_isOver hover]

/-- A window that counts nothing and began by a reading counts nothing and began by it when it is
rolled there, too. -/
theorem roll_of_spent_eq_zero (period : Period) (hspent : w.spent = 0) (hbegan : w.anchor ≤ now) :
    (w.roll period now).spent = 0 ∧ (w.roll period now).anchor ≤ now := by
  unfold roll
  split
  · exact ⟨rfl, Int64.le_refl now⟩
  · exact ⟨hspent, hbegan⟩

/-- **One more reading** keeps a window trailing, when it is no earlier than the last one. -/
theorem Trails.roll (h : Trails period now w reached) (hle : now ≤ later) :
    Trails period later w (reached.roll period later) := by
  by_cases hover : period.isOver w.anchor now
  · -- The window was reset before: nothing is counted, and it began by now.
    have hspent : reached.spent = 0 := by
      rw [h.spent_eq, Window.roll_of_isOver hover]
    have hbegan : reached.anchor ≤ now := by
      have hanchor := h.anchor_le hover
      rwa [Window.roll_of_isOver hover] at hanchor
    obtain ⟨hnothing, hby⟩ := roll_of_spent_eq_zero period hspent (Int64.le_trans hbegan hle)
    have hlater := Period.isOver_of_le hle hover
    have hsingle : w.roll period later = ⟨later, 0⟩ := Window.roll_of_isOver hlater
    refine ⟨?_, fun _ => ?_, fun hnever => absurd hlater hnever⟩
    · rw [hsingle, hnothing]
    · rw [hsingle]
      exact hby
  · -- The window is still the one it was.
    have hsame : reached = w := by
      have hspent := h.spent_eq
      rw [Window.roll_of_not_isOver hover] at hspent
      have hanchor := h.anchor_eq hover
      cases reached
      cases w
      congr
    rw [hsame]
    exact trails_roll period later w

/-- **A path of readings** that never goes back leaves a window trailing. -/
theorem trails_rollThrough (ordered : (earlier ++ [now]).Pairwise (· ≤ ·)) (w : Window) :
    Trails period now w (rollThrough (Window.roll period) (earlier ++ [now]) w) := by
  induction earlier using List.reverseRecOn generalizing now with
  | nil => exact trails_roll period now w
  | append_singleton earlier before ih =>
    obtain ⟨hbefore, -, hnow⟩ := List.pairwise_append.mp ordered
    have hle : before ≤ now := hnow before (by simp) now (by simp)
    rw [rollThrough_append_singleton]
    exact (ih hbefore).roll hle

end Window

/-! ### Windows and states -/

namespace Windows

theorem daily_rollThrough (readings : List Instant) (w : Windows) :
    (rollThrough roll readings w).daily = rollThrough (Window.roll .daily) readings w.daily :=
  rollThrough_part daily (fun _ _ => rfl) readings w

theorem monthly_rollThrough (readings : List Instant) (w : Windows) :
    (rollThrough roll readings w).monthly = rollThrough (Window.roll .monthly) readings w.monthly :=
  rollThrough_part monthly (fun _ _ => rfl) readings w

theorem roll_roll_self (now : Instant) (w : Windows) : (w.roll now).roll now = w.roll now := by
  simp only [roll, Window.roll_roll_self]

end Windows

namespace State

theorem window_rollThrough (readings : List Instant) (s : State) (asset : Asset) (period : Period) :
    (rollThrough roll readings s).window asset period =
      rollThrough (Window.roll period) readings (s.window asset period) :=
  rollThrough_part (fun s => s.window asset period) (fun now s => s.window_roll now asset period)
    readings s

theorem lastLargeSpend_rollThrough (readings : List Instant) (s : State) :
    (rollThrough roll readings s).lastLargeSpend = s.lastLargeSpend :=
  rollThrough_kept lastLargeSpend (fun now s => s.lastLargeSpend_roll now) readings s

theorem withdrawRequestedAt_roll (s : State) (now : Instant) :
    (s.roll now).withdrawRequestedAt = s.withdrawRequestedAt := rfl

theorem withdrawRequestedAt_rollThrough (readings : List Instant) (s : State) :
    (rollThrough roll readings s).withdrawRequestedAt = s.withdrawRequestedAt :=
  rollThrough_kept withdrawRequestedAt (fun now s => s.withdrawRequestedAt_roll now) readings s

theorem roll_roll_self (now : Instant) (s : State) : (s.roll now).roll now = s.roll now := by
  have hwindow (asset : Asset) (period : Period) :
      ((s.roll now).roll now).window asset period = (s.roll now).window asset period := by
    rw [window_roll, window_roll, Window.roll_roll_self]
  -- Rolling touches neither the stamp nor the request.
  exact eq_of_window hwindow rfl

end State

/-- **What is counted does not depend on who looked before.** Take a path of readings that never
goes back, and roll at each of them; its end is `now`.

* The counters of both periods are those of a single roll at `now`, and rolling there again changes
  nothing, neither after the single roll nor after the path.
* Each window trails: where the single roll resets it, it began no later, and otherwise it still
  begins where it did.
* The same holds of both assets of a state, whose last large spend and withdrawal request stay. -/
theorem rolling_path_independent (ordered : (earlier ++ [now]).Pairwise (· ≤ ·)) :
    (∀ w : Windows,
      let reached := rollThrough Windows.roll (earlier ++ [now]) w
      reached.counters = (w.roll now).counters ∧
        (w.roll now).roll now = w.roll now ∧ reached.roll now = reached ∧
        Window.Trails .daily now w.daily reached.daily ∧
        Window.Trails .monthly now w.monthly reached.monthly) ∧
    ∀ s : State,
      let reached := rollThrough State.roll (earlier ++ [now]) s
      (∀ asset, reached.counters asset = (s.roll now).counters asset) ∧
        (s.roll now).roll now = s.roll now ∧ reached.roll now = reached ∧
        (∀ asset period,
          Window.Trails period now (s.window asset period) (reached.window asset period)) ∧
        reached.lastLargeSpend = s.lastLargeSpend ∧
        reached.withdrawRequestedAt = s.withdrawRequestedAt := by
  refine ⟨fun w => ?_, fun s => ?_⟩
  · intro reached
    have hdaily : Window.Trails .daily now w.daily reached.daily := by
      rw [Windows.daily_rollThrough]
      exact Window.trails_rollThrough ordered w.daily
    have hmonthly : Window.Trails .monthly now w.monthly reached.monthly := by
      rw [Windows.monthly_rollThrough]
      exact Window.trails_rollThrough ordered w.monthly
    exact ⟨congrArg₂ Counters.mk hdaily.spent_eq hmonthly.spent_eq, Windows.roll_roll_self now w,
      roll_rollThrough_self Windows.roll_roll_self w, hdaily, hmonthly⟩
  · intro reached
    have htrails (asset : Asset) (period : Period) :
        Window.Trails period now (s.window asset period) (reached.window asset period) := by
      rw [State.window_rollThrough]
      exact Window.trails_rollThrough ordered _
    have hcounters (asset : Asset) : reached.counters asset = (s.roll now).counters asset :=
      Counters.eq_of_forall fun period => by
        have hspent := (htrails asset period).spent_eq
        rwa [← State.window_roll] at hspent
    exact ⟨hcounters, State.roll_roll_self now s, roll_rollThrough_self State.roll_roll_self s,
      htrails, State.lastLargeSpend_rollThrough _ s, State.withdrawRequestedAt_rollThrough _ s⟩

/-- Whoever looks on the way begins a new day when the first one is over, and whoever looks at the
end only begins it there, almost a day later; they count the same. -/
theorem rolled_on_the_way :
    let looks : List Instant := [86399, 86400, 100000, 172799]
    let w : Windows := ⟨⟨0, 7⟩, ⟨0, 70⟩⟩
    looks.Pairwise (· ≤ ·) ∧ rollThrough Windows.roll looks w = ⟨⟨86400, 0⟩, ⟨0, 70⟩⟩ ∧
      w.roll 172799 = ⟨⟨172799, 0⟩, ⟨0, 70⟩⟩ ∧
      (rollThrough Windows.roll looks w).counters = (w.roll 172799).counters := by
  intro looks w
  have ordered : ([86399, 86400, 100000] ++ [172799] : List Instant).Pairwise (· ≤ ·) := by decide
  exact ⟨ordered, by decide, by decide, ((rolling_path_independent ordered).1 w).1⟩

end SpendGuard
