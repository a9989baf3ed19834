import SpendGuard.Proofs.Ledger.Counting

/-!
# What a preflight is worth

A preflight judges calls together with the fee of a sponsor and reserves nothing
(`Ledger.preflight_eq_ok_iff`). All the same, where nothing else comes in between, the policy does
not refuse the calls afterwards, whose size matters to the caps and not to a cooldown
(`Ledger.preflight_none_of_preflight`); nor the fee: a later reading only makes room, and what the
calls took was foreseen (`Ledger.isOk_reclaim_of_preflight`,
`Ledger.isOk_reclaim_of_preflight_of_spend`).
-/

namespace SpendGuard

namespace Ledger

variable {l : Ledger} {now : Instant} {caller : Key} {calls : List Call} {total : Spend}

theorem authorize_eq_ok_iff {role : Role} :
    l.authorize caller role = .ok () ↔ caller = l.profile.holder role := by
  unfold authorize
  split <;> simp [*]

/-- A preflight succeeds when the dispatcher asks and the policy accepts what the calls move and the
fee together. -/
theorem preflight_eq_ok_iff {fee : Option Amount} :
    l.preflight now caller calls fee = .ok total ↔
      caller = l.profile.dispatcher ∧ ∃ moved,
        Batch.classify l.profile.tokenProgram calls = .ok moved ∧
        moved.add? ⟨0, fee.getD 0⟩ = some total ∧
        (Policy.spend l.profile l.state total now).isOk = true := by
  have hjudge {spend : Spend} :
      ((Policy.spend l.profile l.state spend now).bind fun _ => pure spend) = .ok total ↔
        spend = total ∧ (Policy.spend l.profile l.state total now).isOk = true := by
    rw [bind_eq_ok_iff, isOk_iff_exists]
    constructor
    · rintro ⟨accepted, hjudged, ⟨⟩⟩
      exact ⟨rfl, accepted, hjudged⟩
    · rintro ⟨rfl, accepted, hjudged⟩
      exact ⟨accepted, hjudged, rfl⟩
  constructor
  · intro h
    simp only [preflight, bind, bind_eq_ok_iff] at h
    obtain ⟨_, hcaller, moved, classified, hspend⟩ := h
    refine ⟨authorize_eq_ok_iff.mp hcaller, moved, classified, ?_⟩
    cases fee with
    | none =>
      obtain ⟨rfl, hjudged⟩ := hjudge.mp hspend
      exact ⟨Spend.add?_nothing _, hjudged⟩
    | some fee =>
      dsimp only at hspend
      cases hsum : moved.add? ⟨0, fee⟩ with
      | none =>
        rw [hsum] at hspend
        cases hspend
      | some sum =>
        rw [hsum] at hspend
        obtain ⟨rfl, hjudged⟩ := hjudge.mp hspend
        exact ⟨hsum, hjudged⟩
  · rintro ⟨hcaller, moved, classified, htotal, hjudged⟩
    simp only [preflight, bind, bind_eq_ok_iff]
    refine ⟨(), authorize_eq_ok_iff.mpr hcaller, moved, classified, ?_⟩
    cases fee with
    | none =>
      obtain rfl : moved = total := Option.some.inj ((Spend.add?_nothing moved).symm.trans htotal)
      exact hjudge.mpr ⟨rfl, hjudged⟩
    | some fee =>
      dsimp only
      rw [show moved.add? ⟨0, fee⟩ = some total from htotal]
      exact hjudge.mpr ⟨rfl, hjudged⟩

/-- Calls that would pass together with a fee would pass without it. -/
theorem preflight_none_of_preflight {fee : Option Amount}
    (foreseen : l.preflight now caller calls fee = .ok total) :
    ∃ moved, l.preflight now caller calls none = .ok moved ∧
      moved.add? ⟨0, fee.getD 0⟩ = some total := by
  obtain ⟨hcaller, moved, classified, htotal, hjudged⟩ := preflight_eq_ok_iff.mp foreseen
  obtain ⟨hsol, htoken⟩ := Spend.add?_eq_some_iff.mp htotal
  refine ⟨moved, preflight_eq_ok_iff.mpr ⟨hcaller, moved, classified, Spend.add?_nothing moved, ?_⟩,
    htotal⟩
  refine Policy.isOk_spend_of_le hjudged fun asset => ?_
  cases asset with
  | sol => exact Nat.le.intro hsol.symm
  | token => exact Nat.le.intro htoken.symm

variable {fee : Amount} {vetting settling : Instant}

/-- If the calls came to nothing, the policy accepts the fee that was foreseen with them. -/
theorem isOk_reclaim_of_preflight
    (foreseen : l.preflight vetting caller calls (some fee) = .ok total)
    (hclock : vetting ≤ settling) :
    (Policy.reclaim l.profile l.state fee settling).isOk = true := by
  obtain ⟨-, moved, -, htotal, hjudged⟩ := preflight_eq_ok_iff.mp foreseen
  obtain ⟨-, hfee⟩ := Spend.add?_eq_some_iff.mp htotal
  refine Policy.isOk_reclaim_iff.mpr fun period => ?_
  have hroom := (Policy.isOk_spend_iff.mp hjudged).2 .token period
  have hanti := Window.spent_roll_anti period hclock (l.state.window .token period)
  simp only [Spend.of, Limits.of, Option.getD_some] at hroom hfee
  omega

/-- If the calls were counted, the policy accepts the fee on top of them. -/
theorem isOk_reclaim_of_preflight_of_spend {running : Instant} {moved : Spend}
    {accepted : Acceptance}
    (foreseen : l.preflight vetting caller calls (some fee) = .ok total)
    (classified : Batch.classify l.profile.tokenProgram calls = .ok moved)
    (judged : Policy.spend l.profile l.state moved running = .ok accepted)
    (hclock : vetting ≤ running) :
    (Policy.reclaim l.profile accepted.state fee settling).isOk = true := by
  obtain ⟨-, moved', classified', htotal, hjudged⟩ := preflight_eq_ok_iff.mp foreseen
  obtain rfl : moved = moved' := Except.ok.inj (classified.symm.trans classified')
  obtain ⟨-, hfee⟩ := Spend.add?_eq_some_iff.mp htotal
  refine Policy.isOk_reclaim_iff.mpr fun period => ?_
  have hroom := (Policy.isOk_spend_iff.mp hjudged).2 .token period
  have hanti := Window.spent_roll_anti period hclock (l.state.window .token period)
  have hgrown := (Policy.grown_of_spend judged .token period).1.spent
  have hrolled := Window.spent_roll_le period settling (accepted.state.window .token period)
  simp only [Spend.of, Limits.of, Option.getD_some] at hroom hfee hgrown
  omega

end Ledger

end SpendGuard
