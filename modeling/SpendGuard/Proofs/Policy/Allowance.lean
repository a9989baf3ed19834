import SpendGuard.Proofs.Ledger.Counting

/-!
# The allowance tells what will be accepted

The allowance and the policy look at the same windows from opposite sides: the one takes what was
spent away from a cap and is held at zero, the other adds to what was spent and asks the cap. As
long as every counter is within its limit both come to the same (`Policy.room_iff`), and so an
amount is accepted exactly when it is available, up to the cooldown, which the allowance does not
know of. Without that hypothesis it fails: beside a counter beyond its limit nothing is left, and
the policy refuses even to spend nothing.

What is accepted is then missing from the allowance. That too has a limit: at the last instant every
window is over, so the windows that were just charged would be rolled once more for the answer.
-/

namespace SpendGuard

/-! ### Looking up what is left -/

/-- What is left in one period. -/
def Headroom.of (h : Headroom) : Period → Amount
  | .daily => h.daily
  | .monthly => h.monthly

/-- What is left of one asset. -/
def Allowance.of (a : Allowance) : Asset → Headroom
  | .sol => a.sol
  | .token => a.token

/-- What is available is what both periods leave. -/
theorem Headroom.le_available_iff {h : Headroom} {amount : Amount} :
    amount ≤ h.available ↔ ∀ period, amount.toNat ≤ (h.of period).toNat := by
  simp only [Period.forall_iff, Headroom.of, available, UInt64.le_iff_toNat_le]
  split
  · next hlt =>
    have hlt := UInt64.lt_iff_toNat_lt.mp hlt
    omega
  · next hle =>
    have hle := UInt64.le_iff_toNat_le.mp (UInt64.not_lt.mp hle)
    omega

/-- Every counter of a state is within its limit. -/
def State.WithinLimits (s : State) (limits : Limits) : Prop :=
  ∀ asset period, (s.window asset period).spent.toNat ≤ ((limits.of asset).of period).toNat

instance (s : State) (limits : Limits) : Decidable (s.WithinLimits limits) :=
  decidable_of_iff _ (Asset.forall_iff.trans (and_congr Period.forall_iff Period.forall_iff)).symm

namespace Policy

variable {profile : Profile} {state : State} {now : Instant}

/-- What is left of an asset in a period is what its window, as of now, leaves of the cap. -/
theorem toNat_allowance (profile : Profile) (state : State) (now : Instant) (asset : Asset)
    (period : Period) :
    (((allowance profile state now).of asset).of period).toNat =
      ((profile.limits.of asset).of period).toNat -
        ((state.window asset period).roll period now).spent.toNat := by
  rw [← state.window_roll]
  cases asset <;> cases period <;> exact Amount.toNat_monus _ _

/-- Within the limits, a window has room for an amount exactly when so much is left. -/
theorem room_iff (hwithin : state.WithinLimits profile.limits) {asset : Asset} {period : Period}
    {amount : Nat} :
    ((state.window asset period).roll period now).spent.toNat + amount ≤
        ((profile.limits.of asset).of period).toNat ↔
      amount ≤ (((allowance profile state now).of asset).of period).toNat := by
  have hstored := hwithin asset period
  have hrolled := Window.spent_roll_le period now (state.window asset period)
  rw [toNat_allowance]
  omega

/-- What a window grew by within its cap is missing from what is left, as long as the clock shows
the same. -/
theorem allowance_of_grown (hnow : now < Instant.last) {asset : Asset} {period : Period}
    {amount : Nat} {next : State}
    (hgrown : (state.window asset period).Grown period now amount (next.window asset period))
    (hcap : amount = 0 ∨
      (next.window asset period).spent.toNat ≤ ((profile.limits.of asset).of period).toNat) :
    (((allowance profile next now).of asset).of period).toNat + amount =
      (((allowance profile state now).of asset).of period).toNat := by
  have hspent := hgrown.spent
  rw [toNat_allowance, toNat_allowance, hgrown.roll_eq hnow]
  omega

/-- **The allowance tells what will be accepted.** In a state with every counter within its limit:

* A spend is accepted exactly when no cooldown is running and so much of both assets is available.
* A reclamation is accepted exactly when so much of the token is available, cooldown or not.
* Short of the last instant, what was accepted is what the allowance, at the same reading, has less
  of, for either asset and in both periods. A reclamation takes nothing of the SOL allowance. -/
theorem allowance_foretells_acceptance (profile : Profile) (state : State) (now : Instant)
    (hwithin : state.WithinLimits profile.limits) :
    (∀ amount, (spend profile state amount now).isOk = true ↔
      (∀ ends, Cooldown.endsAt state.lastLargeSpend = some ends → ends ≤ now) ∧
        amount.sol ≤ (allowance profile state now).sol.available ∧
        amount.token ≤ (allowance profile state now).token.available) ∧
    (∀ amount, (reclaim profile state amount now).isOk = true ↔
      amount ≤ (allowance profile state now).token.available) ∧
    (now < Instant.last →
      (∀ amount accepted, spend profile state amount now = .ok accepted → ∀ asset period,
        (((allowance profile accepted.state now).of asset).of period).toNat +
            (amount.of asset).toNat =
          (((allowance profile state now).of asset).of period).toNat) ∧
      ∀ amount next, reclaim profile state amount now = .ok next → ∀ asset period,
        (((allowance profile next now).of asset).of period).toNat +
            ((⟨0, amount⟩ : Spend).of asset).toNat =
          (((allowance profile state now).of asset).of period).toNat) := by
  refine ⟨fun amount => ?_, fun amount => ?_, fun hnow => ⟨?_, ?_⟩⟩
  · have hcooled : (∀ t, state.lastLargeSpend = some t → t.after Cooldown.length ≤ now) ↔
        ∀ ends, Cooldown.endsAt state.lastLargeSpend = some ends → ends ≤ now := by
      cases state.lastLargeSpend <;> simp [Cooldown.endsAt]
    rw [isOk_spend_iff, hcooled, Headroom.le_available_iff, Headroom.le_available_iff]
    simp only [room_iff hwithin, Asset.forall_iff]
    exact Iff.rfl
  · rw [isOk_reclaim_iff, Headroom.le_available_iff]
    exact forall_congr' fun period => room_iff hwithin
  · intro amount accepted haccepted asset period
    obtain ⟨hgrown, hcap⟩ := grown_of_spend haccepted asset period
    exact allowance_of_grown hnow hgrown (.inr hcap)
  · intro amount next haccepted asset period
    obtain ⟨hgrown, hcap⟩ := grown_of_reclaim haccepted asset period
    exact allowance_of_grown hnow hgrown hcap

/-- A state of the small account, with almost a month's lamports spent. -/
def nearlySpent : State := ⟨⟨3, 48⟩, ⟨1, 5⟩, 0, 0, none, none⟩

/-- Two lamports are available, though the day leaves seven, and three are refused; after five units
were spent with the two lamports, no lamport and fourteen units are left. -/
theorem nearlySpent_foretold :
    nearlySpent.WithinLimits Profile.small.limits ∧
      allowance .small nearlySpent 60 = ⟨⟨7, 2⟩, ⟨19, 95⟩⟩ ∧
      (spend .small nearlySpent ⟨2, 5⟩ 60).isOk = true ∧
      ¬ (spend .small nearlySpent ⟨3, 0⟩ 60).isOk = true ∧
      (reclaim .small nearlySpent 19 60).isOk = true ∧
      ∀ accepted, spend .small nearlySpent ⟨2, 5⟩ 60 = .ok accepted →
        (((allowance .small accepted.state 60).of .sol).of .monthly).toNat + 2 = 2 ∧
        (((allowance .small accepted.state 60).of .token).of .daily).toNat + 5 = 19 := by
  have hwithin : nearlySpent.WithinLimits Profile.small.limits := by decide
  obtain ⟨hspend, hreclaim, hless⟩ :=
    allowance_foretells_acceptance .small nearlySpent 60 hwithin
  refine ⟨hwithin, by decide, (hspend _).mpr ⟨?_, by decide⟩,
    mt (hspend _).mp fun h => absurd h.2.1 (by decide), (hreclaim _).mpr (by decide), ?_⟩
  · rintro ends ⟨⟩
  · intro accepted haccepted
    exact ⟨(hless (by decide)).1 _ _ haccepted .sol .monthly,
      (hless (by decide)).1 _ _ haccepted .token .daily⟩

end Policy

end SpendGuard
