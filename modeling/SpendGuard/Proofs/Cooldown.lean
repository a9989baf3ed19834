import Mathlib.Tactic.Common
import SpendGuard.Cooldown
import SpendGuard.Proofs.Success

/-!
# When the cooldown lets a spend pass

Whether a spend passes the cooldown has nothing to do with the spend: it passes when the hour after
the last large spend is over (`Cooldown.isOk_gate_iff`), and is told otherwise when that will be
(`Cooldown.gate_eq_error_iff`). The size of the spend decides what is remembered from then on
(`Cooldown.gate_eq_ok_iff`): a spend is large when twice its value exceeds the daily token cap
(`Cooldown.isLarge_iff`), and then so is every spend that moves at least as much of both assets
(`Cooldown.isLarge_of_le`).
-/

namespace SpendGuard

namespace Cooldown

variable {lastLargeSpend stamp : Option Instant} {spend : Spend}
  {exchangeRate dailyTokenCap : Amount} {now : Instant}

/-- A spend is large when it is worth more than half of the daily token cap. -/
theorem isLarge_iff :
    isLarge spend exchangeRate dailyTokenCap = true ↔
      dailyTokenCap.toNat < 2 * value spend exchangeRate := by
  have hhalf : dailyTokenCap.toNat * 5000 < value spend exchangeRate * 10000 ↔
      dailyTokenCap.toNat < 2 * value spend exchangeRate := by omega
  exact decide_eq_true_iff.trans hhalf

/-- The more a spend moves, the more it is worth. -/
theorem value_le_value {less more : Spend}
    (h : ∀ asset, (less.of asset).toNat ≤ (more.of asset).toNat) :
    value less exchangeRate ≤ value more exchangeRate := by
  have hsol : less.sol.toNat ≤ more.sol.toNat := h .sol
  have htoken : less.token.toNat ≤ more.token.toNat := h .token
  exact Nat.add_le_add (Nat.div_le_div_right (Nat.mul_le_mul_right _ hsol)) htoken

/-- What moves at least as much as a large spend is large. -/
theorem isLarge_of_le {less more : Spend}
    (h : ∀ asset, (less.of asset).toNat ≤ (more.of asset).toNat)
    (hlarge : isLarge less exchangeRate dailyTokenCap = true) :
    isLarge more exchangeRate dailyTokenCap = true := by
  rw [isLarge_iff] at hlarge ⊢
  exact Nat.lt_of_lt_of_le hlarge (Nat.mul_le_mul_left 2 (value_le_value h))

/-- A cooldown that begins now is running. -/
theorem not_after_length_le (hnow : now < Instant.last) : ¬ now.after length ≤ now := by
  rw [Instant.after_le_iff_of_lt_last hnow, length]
  omega

/-- A cooldown is running until an hour after the last large spend. -/
theorem runningUntil_eq_some_iff {ends : Instant} :
    runningUntil lastLargeSpend now = some ends ↔
      ∃ t, lastLargeSpend = some t ∧ t.after length = ends ∧ now < ends := by
  cases lastLargeSpend with
  | none => simp [runningUntil, endsAt]
  | some t =>
    simp only [runningUntil, endsAt, Option.map_some, Option.filter_eq_some_iff, Option.some.injEq,
      decide_eq_true_eq, exists_eq_left']

/-- No cooldown is running when the hour is over, or nothing large was spent. -/
theorem runningUntil_eq_none_iff :
    runningUntil lastLargeSpend now = none ↔
      ∀ t, lastLargeSpend = some t → t.after length ≤ now := by
  rw [Option.eq_none_iff_forall_ne_some]
  constructor
  · intro hnone t ht
    have hover : ¬ now < t.after length := fun hrunning =>
      hnone _ (runningUntil_eq_some_iff.mpr ⟨t, ht, rfl, hrunning⟩)
    exact Int64.not_lt.mp hover
  · intro hover ends hends
    obtain ⟨t, ht, rfl, hrunning⟩ := runningUntil_eq_some_iff.mp hends
    exact Int64.not_lt.mpr (hover t ht) hrunning

/-- A spend that passes is remembered if it is large; otherwise the last one stays remembered. -/
theorem gate_eq_ok_iff :
    gate lastLargeSpend spend exchangeRate dailyTokenCap now = .ok stamp ↔
      (∀ t, lastLargeSpend = some t → t.after length ≤ now) ∧
        stamp = if isLarge spend exchangeRate dailyTokenCap then some now else lastLargeSpend := by
  rw [← runningUntil_eq_none_iff, gate_eq]
  cases runningUntil lastLargeSpend now with
  | none =>
    simp only [Except.ok.injEq, true_and]
    exact eq_comm
  | some ends => simp

/-- A spend that does not pass is told when the cooldown will be over. -/
theorem gate_eq_error_iff {e : Error} :
    gate lastLargeSpend spend exchangeRate dailyTokenCap now = .error e ↔
      ∃ t, lastLargeSpend = some t ∧ now < t.after length ∧
        e = .cooldownActive (t.after length) := by
  have hgate : gate lastLargeSpend spend exchangeRate dailyTokenCap now = .error e ↔
      ∃ ends, runningUntil lastLargeSpend now = some ends ∧ e = .cooldownActive ends := by
    rw [gate_eq]
    cases runningUntil lastLargeSpend now with
    | none => simp
    | some ends => simp [eq_comm]
  simp only [hgate, runningUntil_eq_some_iff]
  constructor
  · rintro ⟨_, ⟨t, ht, rfl, hrunning⟩, he⟩
    exact ⟨t, ht, hrunning, he⟩
  · rintro ⟨t, ht, hrunning, he⟩
    exact ⟨_, ⟨t, ht, rfl, hrunning⟩, he⟩

/-- Whether a spend passes does not depend on the spend. -/
theorem isOk_gate_iff :
    (gate lastLargeSpend spend exchangeRate dailyTokenCap now).isOk = true ↔
      ∀ t, lastLargeSpend = some t → t.after length ≤ now := by
  simp only [isOk_iff_exists, gate_eq_ok_iff, exists_and_left, exists_eq, and_true]

end Cooldown

end SpendGuard
