import SpendGuard.Proofs.Ledger.Run
import SpendGuard.Proofs.Policy

/-!
# How requests move windows

Whatever a request comes to, each of the four windows of the account is either left alone, and
nothing was counted in it, or it was rolled at the instant of the request and grew by exactly what
the receipt says, up to its cap (`Ledger.Outcome.moves`). What is true of runs of spending follows
from this one step.
-/

namespace SpendGuard

/-- How a request at an instant can move a window with a cap, by the amount it counts there. -/
inductive Window.Moves (period : Period) (now : Instant) (cap : Amount) (w : Window) :
    Nat → Window → Prop
  /-- The window is left alone and nothing is counted. -/
  | kept : Moves period now cap w 0 w
  /-- The window is rolled and grows by what is counted, which keeps it within its cap. -/
  | grown {counted : Nat} {w' : Window} (anchor : w'.anchor = (w.roll period now).anchor)
      (spent : w'.spent.toNat = (w.roll period now).spent.toNat + counted)
      (capped : counted = 0 ∨ w'.spent.toNat ≤ cap.toNat) : Moves period now cap w counted w'

/-- A window that was rolled at an instant and then grew by an amount. -/
structure Window.Grown (period : Period) (now : Instant) (w : Window) (amount : Nat)
    (w' : Window) : Prop where
  /-- It begins where the rolled window does. -/
  anchor : w'.anchor = (w.roll period now).anchor
  /-- The amount is counted on top of what the rolled window holds. -/
  spent : w'.spent.toNat = (w.roll period now).spent.toNat + amount

namespace Window.Grown

variable {period : Period} {now : Instant} {w w' w'' : Window} {amount more : Nat}

/-- A window that was rolled is not rolled again at the same instant: short of the last one, a
window as of now is not over. -/
theorem roll_eq (h : w.Grown period now amount w') (hnow : now < Instant.last) :
    w'.roll period now = w' := by
  apply Window.roll_of_not_isOver
  rw [h.anchor]
  exact Window.not_isOver_roll hnow w

/-- So at one instant a window grows by one amount after the other. -/
theorem trans (h : w.Grown period now amount w') (h' : w'.Grown period now more w'')
    (hnow : now < Instant.last) : w.Grown period now (amount + more) w'' where
  anchor := by rw [h'.anchor, h.roll_eq hnow, h.anchor]
  spent := by rw [h'.spent, h.roll_eq hnow, h.spent, Nat.add_assoc]

/-- What a window has grown to is settled by the amount. -/
theorem unique (h : w.Grown period now amount w') (h' : w.Grown period now amount w'') :
    w' = w'' := by
  cases w'
  cases w''
  congr 1
  · exact h.anchor.trans h'.anchor.symm
  · exact UInt64.toNat_inj.mp (h.spent.trans h'.spent.symm)

end Window.Grown

namespace Policy

variable {profile : Profile} {state : State} {now : Instant}

/-- A state whose anchors are the rolled ones and whose counters passed the caps has grown windows
within their caps. -/
theorem grown_of_charge {asset : Asset} {caps : Caps} {counters : Counters} {amount : Amount}
    (h : caps.charge asset ((state.roll now).counters asset) amount = .ok counters)
    {next : State} (hanchor : ∀ period, next.anchor period = (state.roll now).anchor period)
    (hcounters : next.counters asset = counters) (period : Period) :
    (state.window asset period).Grown period now amount.toNat (next.window asset period) ∧
      (next.window asset period).spent.toNat ≤ (caps.of period).toNat := by
  obtain ⟨htotal, hcap⟩ := Caps.charge_eq_ok_iff.mp h period
  have hroll := state.window_roll now asset period
  have hspent : (next.window asset period).spent = counters.of period := by
    rw [← hcounters]
    rfl
  rw [hspent]
  refine ⟨⟨?_, ?_⟩, hcap⟩
  · rw [← hroll]
    exact hanchor period
  · rw [← hroll, hspent]
    exact htotal

/-- An accepted spend grows every window by its amount and leaves it within its cap. -/
theorem grown_of_spend {amount : Spend} {accepted : Acceptance}
    (h : spend profile state amount now = .ok accepted) (asset : Asset) (period : Period) :
    (state.window asset period).Grown period now (amount.of asset).toNat
        (accepted.state.window asset period) ∧
      (accepted.state.window asset period).spent.toNat ≤
        ((profile.limits.of asset).of period).toNat := by
  obtain ⟨stamp, sol, token, -, hsol, htoken, rfl⟩ := spend_eq_ok_iff.mp h
  have hanchor (period : Period) :
      ({ state.roll now with sol, token, lastLargeSpend := stamp } : State).anchor period =
        (state.roll now).anchor period := by cases period <;> rfl
  cases asset with
  | sol => exact grown_of_charge hsol hanchor rfl period
  | token => exact grown_of_charge htoken hanchor rfl period

/-- An accepted reclamation rolls every window and grows those of the token by its amount. -/
theorem grown_of_reclaim {amount : Amount} {next : State}
    (h : reclaim profile state amount now = .ok next) (asset : Asset) (period : Period) :
    (state.window asset period).Grown period now ((⟨0, amount⟩ : Spend).of asset).toNat
        (next.window asset period) ∧
      (((⟨0, amount⟩ : Spend).of asset).toNat = 0 ∨
        (next.window asset period).spent.toNat ≤ ((profile.limits.of asset).of period).toNat) := by
  obtain ⟨token, htoken, rfl⟩ := reclaim_eq_ok_iff.mp h
  have hanchor (period : Period) :
      ({ state.roll now with token } : State).anchor period = (state.roll now).anchor period := by
    cases period <;> rfl
  cases asset with
  | sol =>
    have hroll := state.window_roll now .sol period
    exact ⟨⟨by rw [← hroll]; exact hanchor period, by rw [← hroll]; rfl⟩, .inl rfl⟩
  | token => exact (grown_of_charge htoken hanchor rfl period).imp_right .inr

end Policy

namespace Ledger.Outcome

variable {σ : Type} {x : Executor σ} {l : Ledger} {now : Instant} {world : σ} {request : Request}
  {answer : Except Error Grant} {l' : Ledger} {world' : σ}

/-- **One step of counting.** Whatever comes of a request, each window is left alone with nothing
counted in it, or rolled and grown by what the receipt says. -/
theorem moves (h : Outcome x l now world request answer l' world') (asset : Asset)
    (period : Period) :
    (l.state.window asset period).Moves period now ((l.profile.limits.of asset).of period)
      (countedBy asset answer) (l'.state.window asset period) := by
  cases h with
  | executed _ _ _ judged _ =>
    obtain ⟨hgrown, hcap⟩ := Policy.grown_of_spend judged asset period
    exact .grown hgrown.anchor hgrown.spent (.inr hcap)
  | reclaimed _ judged _ =>
    obtain ⟨hgrown, hcap⟩ := Policy.grown_of_reclaim judged asset period
    exact .grown hgrown.anchor hgrown.spent hcap
  | requested | withdrawnNothing | withdrawn => cases asset <;> cases period <;> exact .kept
  | refused | failed | foreseen => exact .kept

/-- What a receipt counts is counted in every window, rolled at the instant of the request. -/
theorem grown (h : Outcome x l now world request answer l' world') {receipt : Receipt}
    (hreceipt : receiptOf? answer = some receipt) (asset : Asset) (period : Period) :
    (l.state.window asset period).Grown period receipt.executedAt (receipt.spend.of asset).toNat
      (l'.state.window asset period) := by
  cases h with
  | executed _ _ _ judged _ =>
    cases hreceipt
    exact (Policy.grown_of_spend judged asset period).1
  | reclaimed _ judged _ =>
    cases hreceipt
    exact (Policy.grown_of_reclaim judged asset period).1
  | refused | failed | foreseen | requested | withdrawnNothing | withdrawn => cases hreceipt

/-- Without a receipt no window changes. -/
theorem window_eq (h : Outcome x l now world request answer l' world')
    (hnone : receiptOf? answer = none) (asset : Asset) (period : Period) :
    l'.state.window asset period = l.state.window asset period := by
  cases h with
  | executed | reclaimed => cases hnone
  | requested | withdrawnNothing | withdrawn => cases asset <;> cases period <;> rfl
  | refused | failed | foreseen => rfl

/-- A receipt bears the instant of its request. -/
theorem executedAt_eq (h : Outcome x l now world request answer l' world') {receipt : Receipt}
    (hreceipt : receiptOf? answer = some receipt) : receipt.executedAt = now := by
  cases h <;> cases hreceipt <;> rfl

end Ledger.Outcome

end SpendGuard
