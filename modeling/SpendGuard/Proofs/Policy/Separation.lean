import SpendGuard.Proofs.Ledger.Run
import SpendGuard.Proofs.Policy

/-!
# The assets are kept apart

The two assets share the anchors of their windows and the cooldown, and nothing else. What that
means is a statement about two states at once, which agree on everything but the counters of one
asset (`State.AgreeBut`). Rolling keeps the agreement (`State.AgreeBut.roll`): where a window begins
is read off the anchor and the clock, and each counter is rolled from its own value. So does
whatever the policy accepts on both states (`Policy.agreeBut_of_spend`).

A reclamation is a matter of the token alone: the SOL counters make no difference to the verdict
either. A spend is judged on both assets, and may be refused for the one in which the states differ,
but then for that one only (`Policy.breach_of_agreeBut`).
-/

namespace SpendGuard

/-- Two states that agree on everything but the counters of one asset. -/
structure State.AgreeBut (asset : Asset) (s s' : State) : Prop where
  /-- The other asset has the same counters. -/
  counters : ∀ other, other ≠ asset → s.counters other = s'.counters other
  /-- The daily windows begin at the same instant. -/
  dailyAnchor : s.dailyAnchor = s'.dailyAnchor
  /-- The monthly windows do. -/
  monthlyAnchor : s.monthlyAnchor = s'.monthlyAnchor
  /-- The same large spend is remembered. -/
  lastLargeSpend : s.lastLargeSpend = s'.lastLargeSpend
  /-- The same withdrawal is requested. -/
  withdrawRequestedAt : s.withdrawRequestedAt = s'.withdrawRequestedAt

namespace State.AgreeBut

variable {asset other : Asset} {s s' : State}

theorem anchor_eq (h : s.AgreeBut asset s') (period : Period) :
    s.anchor period = s'.anchor period := by
  cases period with
  | daily => exact h.dailyAnchor
  | monthly => exact h.monthlyAnchor

/-- The windows of the other asset are the same. -/
theorem window_eq (h : s.AgreeBut asset s') (hother : other ≠ asset) (period : Period) :
    s.window other period = s'.window other period := by
  rw [State.window, State.window, h.counters other hother, h.anchor_eq period]

theorem anchor_roll (h : s.AgreeBut asset s') (now : Instant) (period : Period) :
    (s.roll now).anchor period = (s'.roll now).anchor period := by
  rw [State.anchor_roll, State.anchor_roll, h.anchor_eq]

/-- Rolling keeps the agreement. -/
theorem roll (h : s.AgreeBut asset s') (now : Instant) :
    (s.roll now).AgreeBut asset (s'.roll now) where
  counters other hother := Counters.eq_of_forall fun period => by
    have hwindow : (s.roll now).window other period = (s'.roll now).window other period := by
      rw [State.window_roll, State.window_roll, h.window_eq hother]
    exact congrArg Window.spent hwindow
  dailyAnchor := h.anchor_roll now .daily
  monthlyAnchor := h.anchor_roll now .monthly
  lastLargeSpend := h.lastLargeSpend
  withdrawRequestedAt := h.withdrawRequestedAt

end State.AgreeBut

namespace Policy

variable {profile : Profile} {now : Instant} {asset : Asset} {s s' : State}

/-! ### Reclaiming -/

/-- What becomes of a reclamation is settled by the token counters as of now. -/
theorem reclaim_eq_map (profile : Profile) (state : State) (amount : Amount) (now : Instant) :
    reclaim profile state amount now =
      (profile.limits.token.charge .token (state.roll now).token amount).map fun token =>
        { state.roll now with token } := by
  rw [reclaim]
  cases profile.limits.token.charge .token (state.roll now).token amount <;> rfl

/-- A reclamation is refused for the same reason whatever was spent of SOL. -/
theorem reclaim_eq_error_iff_of_agreeBut (h : s.AgreeBut .sol s') {amount : Amount} {e : Error} :
    reclaim profile s amount now = .error e ↔ reclaim profile s' amount now = .error e := by
  have htoken : (s.roll now).token = (s'.roll now).token := (h.roll now).counters .token nofun
  rw [reclaim_eq_map, reclaim_eq_map, map_eq_error_iff, map_eq_error_iff, htoken]

/-- A reclamation that is accepted keeps the agreement, and rolls what was spent of SOL. -/
theorem agreeBut_of_reclaim (h : s.AgreeBut .sol s') {amount : Amount} {next next' : State}
    (hnext : reclaim profile s amount now = .ok next)
    (hnext' : reclaim profile s' amount now = .ok next') : next.AgreeBut .sol next' := by
  have hroll := h.roll now
  have htoken : (s.roll now).token = (s'.roll now).token := hroll.counters .token nofun
  obtain ⟨token, hcharge, rfl⟩ := reclaim_eq_ok_iff.mp hnext
  obtain ⟨token', hcharge', rfl⟩ := reclaim_eq_ok_iff.mp hnext'
  rw [htoken] at hcharge
  obtain rfl := Except.ok.inj (hcharge.symm.trans hcharge')
  refine ⟨fun other hother => ?_, hroll.dailyAnchor, hroll.monthlyAnchor, hroll.lastLargeSpend,
    hroll.withdrawRequestedAt⟩
  cases other with
  | sol => exact absurd rfl hother
  | token => exact Eq.refl token

/-- A reclamation that is accepted does no more to the SOL windows than to roll them. -/
theorem window_sol_of_reclaim {amount : Amount} {next : State}
    (h : reclaim profile s amount now = .ok next) (period : Period) :
    next.window .sol period = (s.window .sol period).roll period now := by
  obtain ⟨token, -, rfl⟩ := reclaim_eq_ok_iff.mp h
  rw [← State.window_roll]
  rfl

/-! ### Spending -/

/-- A spend that is accepted on both states keeps the agreement, and starts a cooldown on both or on
neither. -/
theorem agreeBut_of_spend (h : s.AgreeBut asset s') {amount : Spend}
    {accepted accepted' : Acceptance} (haccepted : spend profile s amount now = .ok accepted)
    (haccepted' : spend profile s' amount now = .ok accepted') :
    accepted.state.AgreeBut asset accepted'.state ∧
      accepted.armsCooldown = accepted'.armsCooldown := by
  have hroll := h.roll now
  obtain ⟨stamp, sol, token, hgate, hsol, htoken, rfl⟩ := spend_eq_ok_iff.mp haccepted
  obtain ⟨stamp', sol', token', hgate', hsol', htoken', rfl⟩ := spend_eq_ok_iff.mp haccepted'
  -- The cooldown looks at what both states agree on.
  rw [h.lastLargeSpend] at hgate
  obtain rfl := Except.ok.inj (hgate.symm.trans hgate')
  refine ⟨⟨fun other hother => ?_, hroll.dailyAnchor, hroll.monthlyAnchor, rfl,
    hroll.withdrawRequestedAt⟩, ?_⟩
  · have hcounters := hroll.counters other hother
    cases other with
    | sol =>
      rw [show (s.roll now).sol = (s'.roll now).sol from hcounters] at hsol
      exact Except.ok.inj (hsol.symm.trans hsol')
    | token =>
      rw [show (s.roll now).token = (s'.roll now).token from hcounters] at htoken
      exact Except.ok.inj (htoken.symm.trans htoken')
  · rw [h.lastLargeSpend]

/-- What is accepted on one state and refused on the other is refused for the asset in which they
differ. -/
theorem breach_of_agreeBut (h : s.AgreeBut asset s') {amount : Spend} {e : Error}
    (haccepted : (spend profile s amount now).isOk = true)
    (hrefused : spend profile s' amount now = .error e) :
    (profile.limits.of asset).Breach asset ((s'.roll now).counters asset) (amount.of asset) e := by
  obtain ⟨hcooled, hroom⟩ := isOk_spend_iff.mp haccepted
  cases obstacle_of_spend hrefused with
  | coolingDown stamped running =>
    have hover := hcooled _ (h.lastLargeSpend.trans stamped)
    exact absurd running (Int64.not_lt.mpr hover)
  | breach other capped =>
    by_cases hother : other = asset
    · rw [← hother]
      exact capped
    · -- The other asset has room on both states or on neither.
      have hfits : ((profile.limits.of other).charge other ((s'.roll now).counters other)
          (amount.of other)).isOk = true := by
        rw [Caps.isOk_charge_iff]
        intro period
        have hperiod := hroom other period
        rw [← State.window_roll, (h.roll now).window_eq hother] at hperiod
        exact hperiod
      exact absurd hfits capped.not_isOk

/-! ### Together -/

/-- **The assets do not leak into each other.** For two states that agree on everything but the
counters of one asset, and at any reading:

* If they differ in what was spent of SOL, a reclamation meets the same verdict on both, for the
  same reason. What it leaves agrees on everything but the SOL windows, which are those of each
  state, rolled.
* Whichever asset they differ in, what a spend leaves where it is accepted on both agrees on all but
  the counters of that asset; the other asset, the anchors, and what is remembered are the same.
* A spend that is accepted on one and refused on the other is refused for the asset in which they
  differ. -/
theorem assets_kept_apart (profile : Profile) (now : Instant) :
    (∀ s s', s.AgreeBut .sol s' → ∀ amount,
      (∀ e, reclaim profile s amount now = .error e ↔ reclaim profile s' amount now = .error e) ∧
      (reclaim profile s amount now).isOk = (reclaim profile s' amount now).isOk ∧
      ∀ next next', reclaim profile s amount now = .ok next →
        reclaim profile s' amount now = .ok next' →
          next.AgreeBut .sol next' ∧ ∀ period,
            next.window .sol period = (s.window .sol period).roll period now ∧
            next'.window .sol period = (s'.window .sol period).roll period now) ∧
    ∀ asset s s', s.AgreeBut asset s' → ∀ amount,
      (∀ accepted accepted', spend profile s amount now = .ok accepted →
        spend profile s' amount now = .ok accepted' →
          accepted.state.AgreeBut asset accepted'.state ∧
            accepted.armsCooldown = accepted'.armsCooldown) ∧
      ∀ e, (spend profile s amount now).isOk = true → spend profile s' amount now = .error e →
        (profile.limits.of asset).Breach asset ((s'.roll now).counters asset)
          (amount.of asset) e := by
  refine ⟨fun s s' h amount => ⟨fun e => reclaim_eq_error_iff_of_agreeBut h, ?_,
      fun next next' hnext hnext' => ⟨agreeBut_of_reclaim h hnext hnext', fun period =>
        ⟨window_sol_of_reclaim hnext period, window_sol_of_reclaim hnext' period⟩⟩⟩,
    fun asset s s' h amount => ⟨fun _ _ => agreeBut_of_spend h, fun _ => breach_of_agreeBut h⟩⟩
  rw [Bool.eq_iff_iff, ← not_iff_not, not_isOk_iff_exists, not_isOk_iff_exists]
  exact exists_congr fun e => reclaim_eq_error_iff_of_agreeBut h

/-- Two states of the small account that differ in the lamports spent. -/
def thrifty : State := ⟨⟨1, 2⟩, ⟨3, 4⟩, 0, 0, none, some 7⟩

/-- In this one all lamports of the day are spent. -/
def lavish : State := ⟨⟨10, 20⟩, ⟨3, 4⟩, 0, 0, none, some 7⟩

/-- They are told the same about reclaiming and end up with the same token counters, after a day
too. A lamport is refused to one of them for the SOL cap; after a day it is accepted on both. -/
theorem thrifty_and_lavish :
    thrifty.AgreeBut .sol lavish ∧
      (∀ e, reclaim .small thrifty 18 60 = .error e ↔ reclaim .small lavish 18 60 = .error e) ∧
      (∀ next next', reclaim .small thrifty 5 86400 = .ok next →
        reclaim .small lavish 5 86400 = .ok next' → next.AgreeBut .sol next') ∧
      (∀ e, spend .small lavish ⟨1, 1⟩ 60 = .error e →
        Caps.Breach ⟨10, 50⟩ .sol (lavish.roll 60).sol 1 e) ∧
      ∀ accepted accepted', spend .small thrifty ⟨1, 1⟩ 86400 = .ok accepted →
        spend .small lavish ⟨1, 1⟩ 86400 = .ok accepted' →
          accepted.state.AgreeBut .sol accepted'.state := by
  have hagree : thrifty.AgreeBut .sol lavish :=
    ⟨Asset.forall_iff.mpr ⟨fun h => absurd rfl h, fun _ => rfl⟩, rfl, rfl, rfl, rfl⟩
  obtain ⟨hreclaim, hspend⟩ := assets_kept_apart .small 60
  obtain ⟨hreclaim', hspend'⟩ := assets_kept_apart .small 86400
  refine ⟨hagree, (hreclaim _ _ hagree 18).1, fun next next' hnext hnext' =>
    ((hreclaim' _ _ hagree 5).2.2 next next' hnext hnext').1, fun e he => ?_,
    fun accepted accepted' h h' => ((hspend' .sol _ _ hagree _).1 accepted accepted' h h').1⟩
  exact (hspend .sol _ _ hagree ⟨1, 1⟩).2 e (by decide) he

end Policy

end SpendGuard
