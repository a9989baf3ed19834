import SpendGuard.Proofs.Ledger.Run
import SpendGuard.Proofs.Policy

/-!
# What becomes of a refusal

Time loosens every judgement of the policy: cooldowns end and windows are reset, until nothing is
left of what was spent. So a request is accepted sooner or later exactly when it respects the caps
by itself (`Policy.exists_isOk_spend_iff`, `Policy.exists_isOk_reclaim_iff`).

An error says whether trying again may help. Among the errors of the policy only the overflow says
that it does not, and that goes too far. The sum of a counter and an amount may overflow in a window
that will be reset, while the amount alone stays within the cap. Then waiting does help: what clears
the refusal is the end of just that window (`Window.Overfull.isOver_of_room`). It takes a cap and a
counter whose sum does not fit. Wherever the sums of caps and counters fit, a refusal that is said
to be final is final.
-/

namespace SpendGuard

/-! ### Time clears everything but the caps -/

/-- At the last instant every window is over. -/
theorem Period.isOver_last (period : Period) (anchor : Instant) :
    period.isOver anchor Instant.last = true :=
  decide_eq_true (Instant.after_le_iff.mpr (.inr rfl))

namespace Policy

variable {profile : Profile} {state : State} {now later : Instant}

theorem spent_roll_last (state : State) (asset : Asset) (period : Period) :
    ((state.window asset period).roll period Instant.last).spent = 0 := by
  rw [Window.roll_of_isOver (period.isOver_last _)]

/-- A spend is accepted at some time from now on exactly when it respects the caps by itself. -/
theorem exists_isOk_spend_iff {amount : Spend} :
    (∃ later, now ≤ later ∧ (spend profile state amount later).isOk = true) ↔
      ∀ asset period, (amount.of asset).toNat ≤ ((profile.limits.of asset).of period).toNat := by
  constructor
  · rintro ⟨later, -, hok⟩ asset period
    exact Nat.le_trans (Nat.le_add_left _ _) ((isOk_spend_iff.mp hok).2 asset period)
  · intro hfits
    refine ⟨Instant.last, Instant.le_last now, isOk_spend_iff.mpr
      ⟨fun t _ => Instant.le_last _, fun asset period => ?_⟩⟩
    rw [spent_roll_last, UInt64.toNat_zero, Nat.zero_add]
    exact hfits asset period

/-- So is a reclamation, when it respects the token caps. -/
theorem exists_isOk_reclaim_iff {amount : Amount} :
    (∃ later, now ≤ later ∧ (reclaim profile state amount later).isOk = true) ↔
      ∀ period, amount.toNat ≤ (profile.limits.token.of period).toNat := by
  constructor
  · rintro ⟨later, -, hok⟩ period
    exact Nat.le_trans (Nat.le_add_left _ _) (isOk_reclaim_iff.mp hok period)
  · intro hfits
    refine ⟨Instant.last, Instant.le_last now, isOk_reclaim_iff.mpr fun period => ?_⟩
    rw [spent_roll_last, UInt64.toNat_zero, Nat.zero_add]
    exact hfits period

/-- A spend is refused for good exactly when an amount exceeds a cap by itself. -/
theorem never_isOk_spend_iff {amount : Spend} :
    (∀ later, now ≤ later → ¬ (spend profile state amount later).isOk = true) ↔
      ∃ asset period,
        ((profile.limits.of asset).of period).toNat < (amount.of asset).toNat := by
  simpa only [not_exists, not_and, not_forall, Nat.not_le] using
    not_congr (@exists_isOk_spend_iff profile state now amount)

/-- So is a reclamation, when it exceeds a token cap. -/
theorem never_isOk_reclaim_iff {amount : Amount} :
    (∀ later, now ≤ later → ¬ (reclaim profile state amount later).isOk = true) ↔
      ∃ period, (profile.limits.token.of period).toNat < amount.toNat := by
  simpa only [not_exists, not_and, not_forall, Nat.not_le] using
    not_congr (@exists_isOk_reclaim_iff profile state now amount)

end Policy

/-! ### Overflows -/

/-- An amount that cannot be added to what a window holds as of now. -/
def Window.Overfull (period : Period) (now : Instant) (w : Window) (amount : Amount) : Prop :=
  UInt64.size ≤ (w.roll period now).spent.toNat + amount.toNat

namespace Window

variable {period : Period} {now later : Instant} {w : Window} {cap amount : Amount}

/-- What is stored overflows as well. -/
theorem Overfull.stored (h : w.Overfull period now amount) :
    UInt64.size ≤ w.spent.toNat + amount.toNat :=
  Nat.le_trans h (Nat.add_le_add_right (spent_roll_le period now w) _)

/-- There is room for an amount that would overflow only once the window is over. -/
theorem Overfull.isOver_of_room (h : w.Overfull period now amount)
    (hroom : (w.roll period later).spent.toNat + amount.toNat ≤ cap.toNat) :
    period.isOver w.anchor later = true := by
  by_contra hover
  rw [roll_of_not_isOver hover] at hroom
  have hstored := h.stored
  have hcap := Amount.toNat_lt cap
  omega

/-- Where cap and counter have a sum, an amount that would overflow is beyond the cap. -/
theorem Overfull.cap_lt (h : w.Overfull period now amount)
    (hfits : w.spent.toNat + cap.toNat < UInt64.size) : cap.toNat < amount.toNat := by
  have hstored := h.stored
  omega

end Window

/-- Of the reasons why an amount does not pass the caps, the overflow alone is said to be final. -/
theorem Caps.Breach.overflow_of_not_isRetryable {caps : Caps} {asset : Asset} {counters : Counters}
    {amount : Amount} {e : Error} (h : caps.Breach asset counters amount e)
    (hfinal : e.isRetryable = false) :
    e = .overflow ∧
      ∃ period, UInt64.size ≤ (counters.of period).toNat + amount.toNat := by
  cases h with
  | overflow period beyond => exact ⟨rfl, period, beyond⟩
  | exceeded => cases hfinal

namespace Policy

variable {profile : Profile} {state : State} {now later : Instant} {e : Error}

theorem overfull_of_counters {asset : Asset} {period : Period} {amount : Amount}
    (h : UInt64.size ≤ (((state.roll now).counters asset).of period).toNat + amount.toNat) :
    (state.window asset period).Overfull period now amount := by
  rw [Window.Overfull, ← State.window_roll]
  exact h

/-- A refusal of a spend that is said to be final is an overflow. -/
theorem overflow_of_spend {amount : Spend} (h : spend profile state amount now = .error e)
    (hfinal : e.isRetryable = false) :
    e = .overflow ∧ ∃ asset period,
      (state.window asset period).Overfull period now (amount.of asset) := by
  cases obstacle_of_spend h with
  | coolingDown => cases hfinal
  | breach asset capped =>
    obtain ⟨he, period, hoverfull⟩ := capped.overflow_of_not_isRetryable hfinal
    exact ⟨he, asset, period, overfull_of_counters hoverfull⟩

/-- So is a refusal of a reclamation. -/
theorem overflow_of_reclaim {amount : Amount} (h : reclaim profile state amount now = .error e)
    (hfinal : e.isRetryable = false) :
    e = .overflow ∧ ∃ period, (state.window .token period).Overfull period now amount := by
  obtain ⟨he, period, hoverfull⟩ := (breach_of_reclaim h).overflow_of_not_isRetryable hfinal
  exact ⟨he, period, overfull_of_counters hoverfull⟩

/-! ### How final a refusal is -/

/-- **A refusal that is said to be final** is an overflow, and time may clear it all the same. For
every account, state and reading, for a spend or a reclamation that is refused so:

* There is a window in which the amount would overflow, and it is accepted at no reading at which
  this window is not over.
* It is never accepted from then on exactly when an amount exceeds a cap by itself.
* So where every cap has a sum with what is stored beside it, it is never accepted, at whatever
  reading. -/
theorem finality_of_refusals (profile : Profile) (state : State) (now : Instant) :
    (∀ amount e, spend profile state amount now = .error e → e.isRetryable = false →
      e = .overflow ∧
      (∃ asset period, (state.window asset period).Overfull period now (amount.of asset) ∧
        ∀ later, (spend profile state amount later).isOk = true →
          period.isOver (state.anchor period) later = true) ∧
      ((∀ later, now ≤ later → ¬ (spend profile state amount later).isOk = true) ↔
        ∃ asset period,
          ((profile.limits.of asset).of period).toNat < (amount.of asset).toNat)) ∧
    (∀ amount e, reclaim profile state amount now = .error e → e.isRetryable = false →
      e = .overflow ∧
      (∃ period, (state.window .token period).Overfull period now amount ∧
        ∀ later, (reclaim profile state amount later).isOk = true →
          period.isOver (state.anchor period) later = true) ∧
      ((∀ later, now ≤ later → ¬ (reclaim profile state amount later).isOk = true) ↔
        ∃ period, (profile.limits.token.of period).toNat < amount.toNat)) ∧
    ((∀ asset period, (state.window asset period).spent.toNat +
        ((profile.limits.of asset).of period).toNat < UInt64.size) →
      (∀ amount e, spend profile state amount now = .error e → e.isRetryable = false →
        ∀ later, ¬ (spend profile state amount later).isOk = true) ∧
      ∀ amount e, reclaim profile state amount now = .error e → e.isRetryable = false →
        ∀ later, ¬ (reclaim profile state amount later).isOk = true) := by
  refine ⟨fun amount e hrefused hfinal => ?_, fun amount e hrefused hfinal => ?_, fun hfits =>
    ⟨fun amount e hrefused hfinal later hok => ?_, fun amount e hrefused hfinal later hok => ?_⟩⟩
  · obtain ⟨he, asset, period, hoverfull⟩ := overflow_of_spend hrefused hfinal
    refine ⟨he, ⟨asset, period, hoverfull, fun later hok => ?_⟩, never_isOk_spend_iff⟩
    exact hoverfull.isOver_of_room ((isOk_spend_iff.mp hok).2 asset period)
  · obtain ⟨he, period, hoverfull⟩ := overflow_of_reclaim hrefused hfinal
    refine ⟨he, ⟨period, hoverfull, fun later hok => ?_⟩, never_isOk_reclaim_iff⟩
    exact hoverfull.isOver_of_room (isOk_reclaim_iff.mp hok period)
  · obtain ⟨-, asset, period, hoverfull⟩ := overflow_of_spend hrefused hfinal
    have hbeyond := hoverfull.cap_lt (hfits asset period)
    have hroom := (isOk_spend_iff.mp hok).2 asset period
    omega
  · obtain ⟨-, period, hoverfull⟩ := overflow_of_reclaim hrefused hfinal
    have hbeyond : (profile.limits.token.of period).toNat < amount.toNat :=
      hoverfull.cap_lt (hfits .token period)
    have hroom := isOk_reclaim_iff.mp hok period
    omega

/-- The small account with caps that no amount exceeds. -/
def boundless : Profile :=
  { Profile.small with
    limits := ⟨⟨18446744073709551615, 18446744073709551615⟩,
      ⟨18446744073709551615, 18446744073709551615⟩⟩ }

/-- A lamport and a unit are spent in each window. -/
def oneOfEach : State := ⟨⟨1, 1⟩, ⟨1, 1⟩, 0, 0, none, none⟩

/-- The most lamports that fit, or the most units, are refused to the boundless account for good, as
the error has it, and accepted once its windows are over. -/
theorem boundless_refused_then_accepted :
    spend boundless oneOfEach ⟨18446744073709551615, 0⟩ 60 = .error .overflow ∧
      reclaim boundless oneOfEach 18446744073709551615 60 = .error .overflow ∧
      Error.overflow.isRetryable = false ∧
      (spend boundless oneOfEach ⟨18446744073709551615, 0⟩ 2592000).isOk = true ∧
      (reclaim boundless oneOfEach 18446744073709551615 2592000).isOk = true := by
  decide

/-- To the boundless account they are not refused for good, since no cap is exceeded; to the small
account, whose caps are far from where sums overflow, they are. -/
theorem boundless_and_small :
    ¬ (∀ later, 60 ≤ later →
        ¬ (spend boundless oneOfEach ⟨18446744073709551615, 0⟩ later).isOk = true) ∧
      (∀ later, (reclaim boundless oneOfEach 18446744073709551615 later).isOk = true →
        ∃ period : Period, period.isOver (oneOfEach.anchor period) later = true) ∧
      (∀ later, ¬ (spend .small oneOfEach ⟨18446744073709551615, 0⟩ later).isOk = true) ∧
      ∀ later, ¬ (reclaim .small oneOfEach 18446744073709551615 later).isOk = true := by
  obtain ⟨hspend, hreclaim, -⟩ := finality_of_refusals boundless oneOfEach 60
  obtain ⟨-, -, hfits⟩ := finality_of_refusals .small oneOfEach 60
  obtain ⟨hspendSmall, hreclaimSmall⟩ := hfits (Asset.forall_iff.mpr
    ⟨Period.forall_iff.mpr (by decide), Period.forall_iff.mpr (by decide)⟩)
  refine ⟨fun hnever => ?_, fun later hok => ?_,
    hspendSmall ⟨18446744073709551615, 0⟩ .overflow (by decide) rfl,
    hreclaimSmall 18446744073709551615 .overflow (by decide) rfl⟩
  · obtain ⟨asset, period, hlt⟩ :=
      (hspend ⟨18446744073709551615, 0⟩ .overflow (by decide) rfl).2.2.mp hnever
    revert hlt
    cases asset <;> cases period <;> decide
  · obtain ⟨-, ⟨period, -, hover⟩, -⟩ :=
      hreclaim 18446744073709551615 .overflow (by decide) rfl
    exact ⟨period, hover later hok⟩

end Policy

end SpendGuard
