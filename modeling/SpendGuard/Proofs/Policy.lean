import Mathlib.Tactic.Common
import SpendGuard.Policy
import SpendGuard.Proofs.Cooldown
import SpendGuard.Proofs.Window

/-!
# What the policy accepts

The judgements of the policy, said in exact natural numbers. An amount passes the caps of an asset
exactly when the totals of both periods, taken without a bound, stay within their caps
(`Caps.charge_eq_ok_iff`); then the counters hold these totals. A spend passes when no cooldown is
running and both assets pass (`Policy.spend_eq_ok_iff`), what the sponsor reclaims passes when the
token does (`Policy.reclaim_eq_ok_iff`). Whether they pass comes down to the room that is left in
each window as of now (`Policy.isOk_spend_iff`, `Policy.isOk_reclaim_iff`), and what does not pass
is told the reason (`Policy.obstacle_of_spend`, `Policy.breach_of_reclaim`).
-/

namespace SpendGuard

theorem Asset.forall_iff {P : Asset → Prop} : (∀ asset, P asset) ↔ P .sol ∧ P .token :=
  ⟨fun h => ⟨h _, h _⟩, fun h asset => by cases asset; exacts [h.1, h.2]⟩

theorem Period.forall_iff {P : Period → Prop} : (∀ period, P period) ↔ P .daily ∧ P .monthly :=
  ⟨fun h => ⟨h _, h _⟩, fun h period => by cases period; exacts [h.1, h.2]⟩

/-! ### Caps -/

namespace Caps

theorem chargePeriod_eq_ok_iff (asset : Asset) (period : Period)
    {spent cap amount total : Amount} :
    chargePeriod asset period spent cap amount = .ok total ↔
      total.toNat = spent.toNat + amount.toNat ∧ total.toNat ≤ cap.toNat := by
  rw [← UInt64.le_iff_toNat_le, ← UInt64.not_lt, ← Amount.add?_eq_some_iff]
  unfold chargePeriod
  cases Amount.add? spent amount with
  | none => simp
  | some sum =>
    dsimp only
    by_cases hcap : cap < sum
    · rw [if_pos hcap]
      refine iff_of_false (by simp) ?_
      rintro ⟨heq, hle⟩
      cases heq
      exact hle hcap
    · rw [if_neg hcap, Except.ok.injEq, Option.some.injEq]
      refine ⟨?_, And.left⟩
      rintro rfl
      exact ⟨rfl, hcap⟩

/-- An amount passes both caps of an asset exactly when both totals, taken without a bound, stay
within them; the counters are these totals from then on. -/
theorem charge_eq_ok_iff {caps : Caps} {asset : Asset} {counters next : Counters}
    {amount : Amount} :
    caps.charge asset counters amount = .ok next ↔
      ∀ period, (next.of period).toNat = (counters.of period).toNat + amount.toNat ∧
        (next.of period).toNat ≤ (caps.of period).toNat := by
  simp only [Period.forall_iff, Counters.of, Caps.of]
  rw [← chargePeriod_eq_ok_iff asset .daily, ← chargePeriod_eq_ok_iff asset .monthly]
  unfold charge
  cases chargePeriod asset .daily counters.daily caps.daily amount with
  | error e => simp
  | ok daily =>
    cases chargePeriod asset .monthly counters.monthly caps.monthly amount with
    | error e => simp
    | ok monthly =>
      obtain ⟨nextDaily, nextMonthly⟩ := next
      simp

/-- An amount passes both caps of an asset exactly when there is room for it under each. -/
theorem isOk_charge_iff {caps : Caps} {asset : Asset} {counters : Counters} {amount : Amount} :
    (caps.charge asset counters amount).isOk = true ↔
      ∀ period, (counters.of period).toNat + amount.toNat ≤ (caps.of period).toNat := by
  simp only [isOk_iff_exists, charge_eq_ok_iff]
  constructor
  · rintro ⟨next, hnext⟩ period
    obtain ⟨htotal, hcap⟩ := hnext period
    omega
  · intro hroom
    have htotal (period : Period) :
        ∃ total : Amount, total.toNat = (counters.of period).toNat + amount.toNat :=
      Amount.exists_toNat_eq (Nat.lt_of_le_of_lt (hroom period) (Amount.toNat_lt _))
    obtain ⟨daily, hdaily⟩ := htotal .daily
    obtain ⟨monthly, hmonthly⟩ := htotal .monthly
    refine ⟨⟨daily, monthly⟩, fun period => ?_⟩
    cases period with
    | daily => exact ⟨hdaily, Nat.le_trans (Nat.le_of_eq hdaily) (hroom .daily)⟩
    | monthly => exact ⟨hmonthly, Nat.le_trans (Nat.le_of_eq hmonthly) (hroom .monthly)⟩

/-- Why an amount does not pass the caps of an asset, and what is told then. -/
inductive Breach (caps : Caps) (asset : Asset) (counters : Counters) (amount : Amount) :
    Error → Prop
  /-- The total of a period does not fit. -/
  | overflow (period : Period)
      (beyond : UInt64.size ≤ (counters.of period).toNat + amount.toNat) :
      Breach caps asset counters amount .overflow
  /-- The total of a period is over its cap. -/
  | exceeded (period : Period) {total : Amount}
      (sum : total.toNat = (counters.of period).toNat + amount.toNat)
      (above : (caps.of period).toNat < total.toNat) :
      Breach caps asset counters amount (.capExceeded period asset total (caps.of period))

/-- There is no room for such an amount. -/
theorem Breach.not_isOk {caps : Caps} {asset : Asset} {counters : Counters} {amount : Amount}
    {e : Error} (h : Breach caps asset counters amount e) :
    ¬ (caps.charge asset counters amount).isOk = true := by
  rw [isOk_charge_iff]
  intro hroom
  cases h with
  | overflow period beyond =>
    have hcap := Amount.toNat_lt (caps.of period)
    have hperiod := hroom period
    omega
  | exceeded period sum above =>
    have hperiod := hroom period
    omega

/-- A period that is found wanting is told truly. -/
theorem breach_of_chargePeriod {caps : Caps} {asset : Asset} {counters : Counters}
    {amount : Amount} (period : Period) {e : Error}
    (h : chargePeriod asset period (counters.of period) (caps.of period) amount = .error e) :
    Breach caps asset counters amount e := by
  unfold chargePeriod at h
  cases hsum : Amount.add? (counters.of period) amount with
  | none =>
    rw [hsum] at h
    cases h
    exact .overflow period (Amount.ofNat?_eq_none_iff.mp hsum)
  | some total =>
    rw [hsum] at h
    dsimp only at h
    by_cases hover : caps.of period < total
    · rw [if_pos hover] at h
      cases h
      exact .exceeded period (Amount.add?_eq_some_iff.mp hsum) (UInt64.lt_iff_toNat_lt.mp hover)
    · rw [if_neg hover] at h
      cases h

/-- What does not pass the caps is told why. -/
theorem breach_of_charge {caps : Caps} {asset : Asset} {counters : Counters} {amount : Amount}
    {e : Error} (h : caps.charge asset counters amount = .error e) :
    Breach caps asset counters amount e := by
  unfold charge at h
  cases hdaily : chargePeriod asset .daily counters.daily caps.daily amount with
  | error e' =>
    rw [hdaily] at h
    cases h
    exact breach_of_chargePeriod .daily hdaily
  | ok daily =>
    cases hmonthly : chargePeriod asset .monthly counters.monthly caps.monthly amount with
    | error e' =>
      rw [hdaily, hmonthly] at h
      cases h
      exact breach_of_chargePeriod .monthly hmonthly
    | ok monthly =>
      rw [hdaily, hmonthly] at h
      cases h

end Caps

/-! ### Spending and reclaiming -/

namespace Policy

variable {profile : Profile} {state : State} {now : Instant}

/-- A spend passes when the cooldown lets it and both assets stay within their caps; the state that
follows is the rolled one with the new counters and the new stamp. -/
theorem spend_eq_ok_iff {amount : Spend} {accepted : Acceptance} :
    spend profile state amount now = .ok accepted ↔
      ∃ stamp sol token,
        Cooldown.gate state.lastLargeSpend amount profile.exchangeRate profile.limits.token.daily
          now = .ok stamp ∧
        profile.limits.sol.charge .sol (state.roll now).sol amount.sol = .ok sol ∧
        profile.limits.token.charge .token (state.roll now).token amount.token = .ok token ∧
        accepted = ⟨{ state.roll now with sol, token, lastLargeSpend := stamp },
          stamp ≠ state.lastLargeSpend⟩ := by
  simp only [spend, State.lastLargeSpend_roll]
  cases Cooldown.gate state.lastLargeSpend amount profile.exchangeRate
      profile.limits.token.daily now with
  | error e => simp
  | ok stamp =>
    cases profile.limits.sol.charge .sol (state.roll now).sol amount.sol with
    | error e => simp
    | ok sol =>
      cases profile.limits.token.charge .token (state.roll now).token amount.token with
      | error e => simp
      | ok token =>
        constructor
        · rintro ⟨⟩
          exact ⟨stamp, sol, token, rfl, rfl, rfl, rfl⟩
        · rintro ⟨_, _, _, ⟨⟩, ⟨⟩, ⟨⟩, rfl⟩
          rfl

/-- What the sponsor reclaims passes when the token stays within its caps; the state that follows
is the rolled one with the new token counters. -/
theorem reclaim_eq_ok_iff {amount : Amount} {next : State} :
    reclaim profile state amount now = .ok next ↔
      ∃ token, profile.limits.token.charge .token (state.roll now).token amount = .ok token ∧
        next = { state.roll now with token } := by
  simp only [reclaim]
  cases profile.limits.token.charge .token (state.roll now).token amount with
  | error e => simp
  | ok token => simp [eq_comm]

/-- A spend passes when no cooldown is running and every window, as of now, has room for it. -/
theorem isOk_spend_iff {amount : Spend} :
    (spend profile state amount now).isOk = true ↔
      (∀ t, state.lastLargeSpend = some t → t.after Cooldown.length ≤ now) ∧
      ∀ asset period, ((state.window asset period).roll period now).spent.toNat +
        (amount.of asset).toNat ≤ ((profile.limits.of asset).of period).toNat := by
  have hsteps : (spend profile state amount now).isOk = true ↔
      (Cooldown.gate state.lastLargeSpend amount profile.exchangeRate profile.limits.token.daily
        now).isOk = true ∧
      (profile.limits.sol.charge .sol (state.roll now).sol amount.sol).isOk = true ∧
      (profile.limits.token.charge .token (state.roll now).token amount.token).isOk = true := by
    simp only [isOk_iff_exists, spend_eq_ok_iff]
    constructor
    · rintro ⟨_, stamp, sol, token, hgate, hsol, htoken, -⟩
      exact ⟨⟨stamp, hgate⟩, ⟨sol, hsol⟩, token, htoken⟩
    · rintro ⟨⟨stamp, hgate⟩, ⟨sol, hsol⟩, token, htoken⟩
      exact ⟨_, stamp, sol, token, hgate, hsol, htoken, rfl⟩
  rw [hsteps, Cooldown.isOk_gate_iff, Caps.isOk_charge_iff, Caps.isOk_charge_iff, Asset.forall_iff]
  simp only [← State.window_roll]
  exact Iff.rfl

/-- Whoever may spend may spend less instead. -/
theorem isOk_spend_of_le {amount less : Spend} (h : (spend profile state amount now).isOk = true)
    (hle : ∀ asset, (less.of asset).toNat ≤ (amount.of asset).toNat) :
    (spend profile state less now).isOk = true := by
  obtain ⟨hcooled, hroom⟩ := isOk_spend_iff.mp h
  refine isOk_spend_iff.mpr ⟨hcooled, fun asset period => ?_⟩
  exact Nat.le_trans (Nat.add_le_add_left (hle asset) _) (hroom asset period)

/-- What the sponsor reclaims passes when both token windows, as of now, have room for it. -/
theorem isOk_reclaim_iff {amount : Amount} :
    (reclaim profile state amount now).isOk = true ↔
      ∀ period, ((state.window .token period).roll period now).spent.toNat + amount.toNat ≤
        (profile.limits.token.of period).toNat := by
  have hcharge : (reclaim profile state amount now).isOk = true ↔
      (profile.limits.token.charge .token (state.roll now).token amount).isOk = true := by
    simp only [isOk_iff_exists, reclaim_eq_ok_iff]
    constructor
    · rintro ⟨_, token, htoken, -⟩
      exact ⟨token, htoken⟩
    · rintro ⟨token, htoken⟩
      exact ⟨_, token, htoken, rfl⟩
  rw [hcharge, Caps.isOk_charge_iff]
  simp only [← State.window_roll]
  exact Iff.rfl

/-- Why a spend does not pass, and what is told then. -/
inductive Obstacle (profile : Profile) (state : State) (amount : Spend) (now : Instant) :
    Error → Prop
  /-- A cooldown is running. -/
  | coolingDown {t : Instant} (stamped : state.lastLargeSpend = some t)
      (running : now < t.after Cooldown.length) :
      Obstacle profile state amount now (.cooldownActive (t.after Cooldown.length))
  /-- An asset does not pass its caps. -/
  | breach (asset : Asset) {e : Error}
      (capped : (profile.limits.of asset).Breach asset ((state.roll now).counters asset)
        (amount.of asset) e) : Obstacle profile state amount now e

/-- A spend that does not pass is told why. -/
theorem obstacle_of_spend {amount : Spend} {e : Error}
    (h : spend profile state amount now = .error e) : Obstacle profile state amount now e := by
  simp only [spend, State.lastLargeSpend_roll] at h
  cases hgate : Cooldown.gate state.lastLargeSpend amount profile.exchangeRate
      profile.limits.token.daily now with
  | error e' =>
    rw [hgate] at h
    cases h
    obtain ⟨t, stamped, running, rfl⟩ := Cooldown.gate_eq_error_iff.mp hgate
    exact .coolingDown stamped running
  | ok stamp =>
    cases hsol : profile.limits.sol.charge .sol (state.roll now).sol amount.sol with
    | error e' =>
      rw [hgate, hsol] at h
      cases h
      exact .breach .sol (Caps.breach_of_charge hsol)
    | ok sol =>
      cases htoken : profile.limits.token.charge .token (state.roll now).token amount.token with
      | error e' =>
        rw [hgate, hsol, htoken] at h
        cases h
        exact .breach .token (Caps.breach_of_charge htoken)
      | ok token =>
        rw [hgate, hsol, htoken] at h
        cases h

/-- What the sponsor may not reclaim is told why; the cooldown is never the reason. -/
theorem breach_of_reclaim {amount : Amount} {e : Error}
    (h : reclaim profile state amount now = .error e) :
    profile.limits.token.Breach .token (state.roll now).token amount e := by
  simp only [reclaim] at h
  cases htoken : profile.limits.token.charge .token (state.roll now).token amount with
  | error e' =>
    rw [htoken] at h
    cases h
    exact Caps.breach_of_charge htoken
  | ok token =>
    rw [htoken] at h
    cases h

end Policy

end SpendGuard
