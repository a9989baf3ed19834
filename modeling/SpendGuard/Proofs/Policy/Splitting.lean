import SpendGuard.Proofs.Ledger.Counting
import SpendGuard.Proofs.Spend

/-!
# Splitting gains nothing

Spends that are judged one after the other, all at one instant, are judged as if they were one: what
matters to the caps is their sum, since a window that was rolled at an instant is not rolled again
(`Window.Grown.trans`). The cooldown is where the order counts. A large spend blocks whatever
follows it, so none but the last may be large (`Policy.isOk_spendInTurn_iff`). Merging may turn
small spends into a large one, and never the other way round, although lamports are valued rounded
down: the value of a spend only grows with its amounts (`Cooldown.isLarge_of_le`).

At the last instant all of this fails, since every window is over then and each spend is held
against empty ones.
-/

namespace SpendGuard

/-! ### What accepted spends leave -/

/-- Whether a spend of an account is large enough to start a cooldown. -/
def Profile.isLarge (profile : Profile) (amount : Spend) : Bool :=
  Cooldown.isLarge amount profile.exchangeRate profile.limits.token.daily

namespace Policy

variable {profile : Profile} {state : State} {now : Instant} {amount : Spend}
  {spends rest : List Spend} {accepted first last : Acceptance}

/-- What accepted spends leave of a state: all windows have grown by what they come to, and if one
of them was large, the instant is remembered. -/
structure Leaves (profile : Profile) (now : Instant) (state : State) (spends : List Spend)
    (accepted : Acceptance) : Prop where
  /-- Every window was rolled and grew by the total. -/
  windows : ∀ asset period, (state.window asset period).Grown period now
    (Spend.totalOf asset spends) (accepted.state.window asset period)
  /-- A cooldown begins if a spend is large. -/
  arms : accepted.armsCooldown = spends.any profile.isLarge
  /-- The instant is remembered if a cooldown begins. -/
  stamp : accepted.state.lastLargeSpend =
    if accepted.armsCooldown then some now else state.lastLargeSpend
  /-- The withdrawal request stays. -/
  pending : accepted.state.withdrawRequestedAt = state.withdrawRequestedAt

theorem leaves_of_spend (hnow : now < Instant.last)
    (h : spend profile state amount now = .ok accepted) :
    Leaves profile now state [amount] accepted := by
  have hwindows (asset : Asset) (period : Period) :
      (state.window asset period).Grown period now (Spend.totalOf asset [amount])
        (accepted.state.window asset period) := by
    rw [Spend.totalOf_singleton]
    exact (grown_of_spend h asset period).1
  obtain ⟨stamp, sol, token, hgate, -, -, rfl⟩ := spend_eq_ok_iff.mp h
  obtain ⟨hcooled, hstamp⟩ := Cooldown.gate_eq_ok_iff.mp hgate
  have hstamp : stamp = if profile.isLarge amount then some now else state.lastLargeSpend := hstamp
  have harms : decide (stamp ≠ state.lastLargeSpend) = profile.isLarge amount := by
    cases hlarge : profile.isLarge amount with
    | false =>
      rw [hlarge] at hstamp
      exact decide_eq_false (not_not_intro hstamp)
    | true =>
      rw [hlarge] at hstamp
      -- What was remembered cannot be this instant, or a cooldown would be running.
      refine decide_eq_true fun hsame => Cooldown.not_after_length_le hnow (hcooled now ?_)
      exact hsame.symm.trans hstamp
  refine ⟨hwindows, ?_, ?_, rfl⟩
  · rw [List.any_cons, List.any_nil, Bool.or_false]
    exact harms
  · exact hstamp.trans (by rw [← harms])

/-! ### One after the other -/

/-- Judges spends one after the other, all at one instant: each against the state that the one
before leaves. A cooldown begins if one of them starts it. -/
def spendInTurn (profile : Profile) (now : Instant) (state : State) :
    List Spend → Except Error Acceptance
  | [] => .ok ⟨state, false⟩
  | amount :: rest =>
    (spend profile state amount now).bind fun first =>
      (spendInTurn profile now first.state rest).map fun last =>
        ⟨last.state, first.armsCooldown || last.armsCooldown⟩

theorem spendInTurn_cons_eq_ok_iff :
    spendInTurn profile now state (amount :: rest) = .ok accepted ↔
      ∃ first, spend profile state amount now = .ok first ∧
        ∃ last, spendInTurn profile now first.state rest = .ok last ∧
          ⟨last.state, first.armsCooldown || last.armsCooldown⟩ = accepted := by
  simp only [spendInTurn, bind_eq_ok_iff, map_eq_ok_iff]

theorem isOk_spendInTurn_cons_iff :
    (spendInTurn profile now state (amount :: rest)).isOk = true ↔
      ∃ first, spend profile state amount now = .ok first ∧
        (spendInTurn profile now first.state rest).isOk = true := by
  simp only [isOk_iff_exists, spendInTurn_cons_eq_ok_iff]
  constructor
  · rintro ⟨_, first, hfirst, last, hlast, -⟩
    exact ⟨first, hfirst, last, hlast⟩
  · rintro ⟨first, hfirst, last, hlast⟩
    exact ⟨_, first, hfirst, last, hlast, rfl⟩

/-- What a spend and what follows it leave, they leave together. -/
theorem Leaves.cons (hnow : now < Instant.last) (hfirst : Leaves profile now state [amount] first)
    (hlast : Leaves profile now first.state rest last) :
    Leaves profile now state (amount :: rest)
      ⟨last.state, first.armsCooldown || last.armsCooldown⟩ where
  windows asset period := by
    have hgrown := (hfirst.windows asset period).trans (hlast.windows asset period) hnow
    rw [Spend.totalOf_singleton] at hgrown
    rw [Spend.totalOf_cons]
    exact hgrown
  arms := by
    rw [hfirst.arms, hlast.arms]
    simp
  stamp := by
    rw [hlast.stamp, hfirst.stamp]
    cases last.armsCooldown <;> cases first.armsCooldown <;> rfl
  pending := hlast.pending.trans hfirst.pending

/-- **What accepted spends leave** depends on their total and on whether one of them is large. -/
theorem leaves_of_spendInTurn (hnow : now < Instant.last) (hne : spends ≠ [])
    (h : spendInTurn profile now state spends = .ok accepted) :
    Leaves profile now state spends accepted := by
  induction spends generalizing state accepted with
  | nil => exact absurd rfl hne
  | cons amount rest ih =>
    obtain ⟨first, hfirst, last, hlast, rfl⟩ := spendInTurn_cons_eq_ok_iff.mp h
    have hleft := leaves_of_spend hnow hfirst
    cases rest with
    | nil =>
      cases hlast
      rw [Bool.or_false]
      exact hleft
    | cons next rest => exact hleft.cons hnow (ih (List.cons_ne_nil _ _) hlast)

/-- Of a single spend that means: a cooldown begins if it is large. -/
theorem Leaves.armsCooldown_eq (hleft : Leaves profile now state [amount] first) :
    first.armsCooldown = profile.isLarge amount := by
  rw [hleft.arms, List.any_cons, List.any_nil, Bool.or_false]

/-- After an accepted spend no cooldown is running exactly if the spend was not large. -/
theorem Leaves.cooled_iff (hnow : now < Instant.last)
    (hcooled : ∀ t, state.lastLargeSpend = some t → t.after Cooldown.length ≤ now)
    (hleft : Leaves profile now state [amount] first) :
    (∀ t, first.state.lastLargeSpend = some t → t.after Cooldown.length ≤ now) ↔
      profile.isLarge amount = false := by
  rw [hleft.stamp, hleft.armsCooldown_eq]
  cases profile.isLarge amount with
  | false => exact iff_of_true hcooled rfl
  | true =>
    refine iff_of_false (fun hover => ?_) (by simp)
    exact Cooldown.not_after_length_le hnow (hover now rfl)

/-- After an accepted spend there is as much room for others as there was for all of them before. -/
theorem Leaves.room_iff (hnow : now < Instant.last)
    (hleft : Leaves profile now state [amount] first) {asset : Asset} {period : Period}
    {cap : Nat} :
    ((first.state.window asset period).roll period now).spent.toNat +
        Spend.totalOf asset rest ≤ cap ↔
      ((state.window asset period).roll period now).spent.toNat +
        Spend.totalOf asset (amount :: rest) ≤ cap := by
  have hgrown := hleft.windows asset period
  rw [hgrown.roll_eq hnow, hgrown.spent, Spend.totalOf_singleton, Spend.totalOf_cons, Nat.add_assoc]

/-- **When spends are accepted one after the other**: no cooldown is running, there is room for what
they come to in every window, as of now, and none but the last is large. -/
theorem isOk_spendInTurn_iff (hnow : now < Instant.last) (hne : spends ≠ []) :
    (spendInTurn profile now state spends).isOk = true ↔
      (∀ t, state.lastLargeSpend = some t → t.after Cooldown.length ≤ now) ∧
      (∀ asset period, ((state.window asset period).roll period now).spent.toNat +
        Spend.totalOf asset spends ≤ ((profile.limits.of asset).of period).toNat) ∧
      ∀ s ∈ spends.dropLast, profile.isLarge s = false := by
  induction spends generalizing state with
  | nil => exact absurd rfl hne
  | cons amount rest ih =>
    rw [isOk_spendInTurn_cons_iff]
    cases rest with
    | nil => simp [spendInTurn, ← isOk_iff_exists, isOk_spend_iff]
    | cons next rest =>
      simp only [List.dropLast_cons_cons, List.forall_mem_cons]
      constructor
      · rintro ⟨first, hfirst, hrest⟩
        have hleft := leaves_of_spend hnow hfirst
        obtain ⟨hcooled, -⟩ := isOk_spend_iff.mp (isOk_iff_exists.mpr ⟨first, hfirst⟩)
        obtain ⟨hafter, hroom, hsmall⟩ := (ih (List.cons_ne_nil _ _)).mp hrest
        exact ⟨hcooled, fun asset period => (hleft.room_iff hnow).mp (hroom asset period),
          (hleft.cooled_iff hnow hcooled).mp hafter, hsmall⟩
      · rintro ⟨hcooled, hroom, hfirstSmall, hsmall⟩
        -- There is room for all of them, and so for the first.
        have hpasses : (spend profile state amount now).isOk = true :=
          isOk_spend_iff.mpr ⟨hcooled, fun asset period => Nat.le_trans
            (Nat.add_le_add_left (Spend.le_totalOf List.mem_cons_self asset) _)
            (hroom asset period)⟩
        obtain ⟨first, hfirst⟩ := isOk_iff_exists.mp hpasses
        have hleft := leaves_of_spend hnow hfirst
        exact ⟨first, hfirst, (ih (List.cons_ne_nil _ _)).mpr
          ⟨(hleft.cooled_iff hnow hcooled).mpr hfirstSmall,
            fun asset period => (hleft.room_iff hnow).mpr (hroom asset period), hsmall⟩⟩

/-! ### As if they were one -/

/-- Spends that come to the same leave the same, but for what is remembered. -/
theorem Leaves.state_eq {other : Acceptance} {others : List Spend}
    (h : Leaves profile now state spends accepted) (h' : Leaves profile now state others other)
    (htotal : ∀ asset, Spend.totalOf asset spends = Spend.totalOf asset others) :
    accepted.state = { other.state with lastLargeSpend := accepted.state.lastLargeSpend } := by
  have hwindow (asset : Asset) (period : Period) :
      accepted.state.window asset period = other.state.window asset period := by
    have hgrown := h.windows asset period
    rw [htotal asset] at hgrown
    exact hgrown.unique (h'.windows asset period)
  have hpending := h.pending.trans h'.pending.symm
  exact State.eq_of_window hwindow hpending

/-- If both or neither have a large one among them, they leave the same altogether. -/
theorem Leaves.unique {other : Acceptance} {others : List Spend}
    (h : Leaves profile now state spends accepted) (h' : Leaves profile now state others other)
    (htotal : ∀ asset, Spend.totalOf asset spends = Spend.totalOf asset others)
    (hlarge : spends.any profile.isLarge = others.any profile.isLarge) : accepted = other := by
  have harms : accepted.armsCooldown = other.armsCooldown := by rw [h.arms, h'.arms, hlarge]
  have hstamp : accepted.state.lastLargeSpend = other.state.lastLargeSpend := by
    rw [h.stamp, h'.stamp, harms]
  have hstate := h.state_eq h' htotal
  rw [hstamp] at hstate
  cases accepted
  congr 1

/-- **Spends pass one after the other when they pass as one**, none but the last being large. -/
theorem isOk_spendInTurn_iff_sum (hnow : now < Instant.last) (hne : spends ≠ []) :
    (spendInTurn profile now state spends).isOk = true ↔
      (∃ total, Spend.sum? spends = some total ∧ (spend profile state total now).isOk = true) ∧
        ∀ s ∈ spends.dropLast, profile.isLarge s = false := by
  rw [isOk_spendInTurn_iff hnow hne, ← and_assoc]
  refine and_congr_left fun _ => ?_
  constructor
  · rintro ⟨hcooled, hroom⟩
    -- What there is room for fits.
    obtain ⟨total, htotal⟩ := Spend.exists_of_eq fun asset => Nat.lt_of_le_of_lt
      (Nat.le_trans (Nat.le_add_left _ _) (hroom asset .daily)) (Amount.toNat_lt _)
    refine ⟨total, Spend.sum?_eq_some_iff.mpr htotal,
      isOk_spend_iff.mpr ⟨hcooled, fun asset period => ?_⟩⟩
    rw [htotal]
    exact hroom asset period
  · rintro ⟨total, hsum, hpasses⟩
    obtain ⟨hcooled, hroom⟩ := isOk_spend_iff.mp hpasses
    refine ⟨hcooled, fun asset period => ?_⟩
    rw [← Spend.sum?_eq_some_iff.mp hsum]
    exact hroom asset period

/-- **They leave what they leave as one**, but for what is remembered: of the sum, the instant is
remembered if it is for any of the spends. -/
theorem state_eq_of_sum (hnow : now < Instant.last) (hne : spends ≠ []) {total : Spend}
    {split merged : Acceptance} (hsplit : spendInTurn profile now state spends = .ok split)
    (hsum : Spend.sum? spends = some total) (hmerged : spend profile state total now = .ok merged) :
    split.state = { merged.state with lastLargeSpend := split.state.lastLargeSpend } ∧
      (split.armsCooldown = true → merged.armsCooldown = true) := by
  have hleft := leaves_of_spendInTurn hnow hne hsplit
  have hleft' := leaves_of_spend hnow hmerged
  have htotal := Spend.sum?_eq_some_iff.mp hsum
  refine ⟨hleft.state_eq hleft' fun asset => ?_, fun harms => ?_⟩
  · rw [Spend.totalOf_singleton, htotal]
  · rw [hleft.arms, List.any_eq_true] at harms
    obtain ⟨s, hs, hlarge⟩ := harms
    rw [hleft'.armsCooldown_eq]
    refine Cooldown.isLarge_of_le (fun asset => ?_) hlarge
    rw [htotal]
    exact Spend.le_totalOf hs asset

/-- **Spends that are not large commute.** -/
theorem spendInTurn_perm (hnow : now < Instant.last)
    (hsmall : ∀ s ∈ spends, profile.isLarge s = false) {reordered : List Spend}
    (hperm : spends.Perm reordered) :
    (spendInTurn profile now state reordered).toOption =
      (spendInTurn profile now state spends).toOption := by
  have hsmall' (s : Spend) (hs : s ∈ reordered) : profile.isLarge s = false :=
    hsmall s (hperm.mem_iff.mpr hs)
  by_cases hne : spends = []
  · rw [hne] at hperm
    rw [hne, hperm.nil_eq]
  have hne' : reordered ≠ [] := fun h => hne (h ▸ hperm).eq_nil
  have hsame : (spendInTurn profile now state reordered).isOk = true ↔
      (spendInTurn profile now state spends).isOk = true := by
    rw [isOk_spendInTurn_iff hnow hne, isOk_spendInTurn_iff hnow hne']
    simp only [Spend.totalOf_perm hperm]
    refine and_congr_right fun _ => and_congr_right fun _ => iff_of_true ?_ ?_
    · exact fun s hs => hsmall' s (List.dropLast_subset _ hs)
    · exact fun s hs => hsmall s (List.dropLast_subset _ hs)
  cases hspends : spendInTurn profile now state spends with
  | error e =>
    obtain ⟨e', hreordered⟩ : ∃ e', spendInTurn profile now state reordered = .error e' := by
      rw [← not_isOk_iff_exists, hsame, hspends]
      exact Bool.false_ne_true
    rw [hreordered]
    rfl
  | ok accepted =>
    obtain ⟨accepted', hreordered⟩ : ∃ accepted',
        spendInTurn profile now state reordered = .ok accepted' := by
      rw [← isOk_iff_exists, hsame, hspends]
      rfl
    have hleft := leaves_of_spendInTurn hnow hne hspends
    have hleft' := leaves_of_spendInTurn hnow hne' hreordered
    rw [hreordered, hleft.unique hleft' (Spend.totalOf_perm hperm) hperm.any_eq]

/-- **Splitting or merging spends gains nothing.** Short of the last instant, for any spends of an
account that are judged one after the other at one reading:

* All of them are accepted exactly when their sum fits and is accepted as one spend, and none but
  the last is large.
* Then both leave the same counters, the same anchors and the same withdrawal request, and a
  cooldown that begins with one of the spends begins with the sum as well.
* Where none is large the order does not matter: in any other either all are accepted and leave the
  same, or again one is refused. So two such spends commute. -/
theorem splitting_gains_nothing (profile : Profile) (state : State) {now : Instant}
    (hnow : now < Instant.last) {spends : List Spend} (hne : spends ≠ []) :
    ((spendInTurn profile now state spends).isOk = true ↔
      (∃ total, Spend.sum? spends = some total ∧ (spend profile state total now).isOk = true) ∧
        ∀ s ∈ spends.dropLast, profile.isLarge s = false) ∧
    (∀ split total merged, spendInTurn profile now state spends = .ok split →
      Spend.sum? spends = some total → spend profile state total now = .ok merged →
        split.state = { merged.state with lastLargeSpend := split.state.lastLargeSpend } ∧
          (split.armsCooldown = true → merged.armsCooldown = true)) ∧
    ((∀ s ∈ spends, profile.isLarge s = false) → ∀ reordered, spends.Perm reordered →
      (spendInTurn profile now state reordered).toOption =
        (spendInTurn profile now state spends).toOption) :=
  ⟨isOk_spendInTurn_iff_sum hnow hne, fun _ _ _ => state_eq_of_sum hnow hne,
    fun hsmall _ => spendInTurn_perm hnow hsmall⟩

/-- Three spends of the small account, none of them large. -/
def threeSpends : List Spend := [⟨4, 3⟩, ⟨1, 0⟩, ⟨2, 4⟩]

/-- They are accepted as their sum is, in whatever order, and the sum is large. With a large one in
the middle they are not. -/
theorem threeSpends_as_one :
    (spendInTurn .small 60 (.fresh 0) threeSpends).isOk = true ∧
      spend .small (.fresh 0) ⟨7, 7⟩ 60 = .ok ⟨⟨⟨7, 7⟩, ⟨7, 7⟩, 0, 0, some 60, none⟩, true⟩ ∧
      (∀ split, spendInTurn .small 60 (.fresh 0) threeSpends = .ok split →
        split.state = ⟨⟨7, 7⟩, ⟨7, 7⟩, 0, 0, split.state.lastLargeSpend, none⟩) ∧
      (spendInTurn .small 60 (.fresh 0) threeSpends.reverse).toOption =
        (spendInTurn .small 60 (.fresh 0) threeSpends).toOption ∧
      ¬ (spendInTurn .small 60 (.fresh 0) [⟨4, 3⟩, ⟨8, 3⟩, ⟨1, 0⟩]).isOk = true := by
  have hnow : (60 : Instant) < Instant.last := by decide
  obtain ⟨hpass, hleave, horder⟩ :=
    splitting_gains_nothing .small (.fresh 0) hnow (List.cons_ne_nil _ _ : threeSpends ≠ [])
  have hmerged : spend .small (.fresh 0) ⟨7, 7⟩ 60 =
      .ok ⟨⟨⟨7, 7⟩, ⟨7, 7⟩, 0, 0, some 60, none⟩, true⟩ := by decide
  have hblocked := (splitting_gains_nothing .small (.fresh 0) hnow
    (List.cons_ne_nil _ _ : [⟨4, 3⟩, ⟨8, 3⟩, ⟨1, 0⟩] ≠ [])).1
  refine ⟨hpass.mpr ⟨⟨⟨7, 7⟩, by decide, by rw [hmerged]; rfl⟩, by decide⟩, hmerged,
    fun split hsplit => (hleave split _ _ hsplit (by decide) hmerged).1,
    horder (by decide) _ (List.reverse_perm _).symm, fun haccepted => ?_⟩
  exact absurd ((hblocked.mp haccepted).2 ⟨8, 3⟩ (by decide)) (by decide)

end Policy

end SpendGuard
