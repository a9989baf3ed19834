import SpendGuard.Proofs.Classification.Batch
import SpendGuard.Proofs.Policy.Splitting

/-!
# Weighing spends

Whether a spend is large is told from what it is worth, and the computation of it always comes to
an end: no step finds its result too large, for any amounts, rate and cap (`Cooldown.weigh_eq`). So
an accepted spend starts a cooldown exactly when it is large. The policy learns this indirectly, by
comparing what is remembered before and after. That is the same, since what was remembered cannot
be the present instant: the cooldown would still be running.

A batch is weighed as a whole and moves the exact sum of what its calls move. What it is worth may
exceed the sum of what they are worth, which are rounded down one by one, but never falls short of
it. No part of a batch can be large without the whole being large too (`Cooldown.weigh_of_subperm`),
so a large spend is not hidden among others.
-/

namespace SpendGuard

namespace Cooldown

variable {spend less more total : Spend} {exchangeRate dailyTokenCap : Amount} {tokenProgram : Key}
  {calls part : List Call}

/-! ### Spends and batches -/

/-- What moves at least as much as a large spend is found large. -/
theorem weigh_of_le (h : ∀ asset, (less.of asset).toNat ≤ (more.of asset).toNat)
    (hlarge : weigh less exchangeRate dailyTokenCap = .ok true) :
    weigh more exchangeRate dailyTokenCap = .ok true := by
  rw [weigh_eq, Except.ok.injEq] at hlarge ⊢
  exact isLarge_of_le h hlarge

/-- **A large part makes a batch large.** Any of the calls of a batch that passes pass by
themselves, and if what they move is large, so is what the batch moves. -/
theorem weigh_of_subperm (hbatch : Batch.classify tokenProgram calls = .ok total)
    (hne : part ≠ []) (hpart : part.Subperm calls) :
    ∃ s, Batch.classify tokenProgram part = .ok s ∧
      (weigh s exchangeRate dailyTokenCap = .ok true →
        weigh total exchangeRate dailyTokenCap = .ok true) := by
  obtain ⟨s, hs, hle⟩ := Batch.classify_of_subperm hbatch hne hpart
  exact ⟨s, hs, weigh_of_le hle⟩

/-- A single call is such a part. -/
theorem weigh_of_mem (hbatch : Batch.classify tokenProgram calls = .ok total) {call : Call}
    (hcall : call ∈ calls) :
    ∃ s, call.classify tokenProgram = .ok s ∧
      (weigh s exchangeRate dailyTokenCap = .ok true →
        weigh total exchangeRate dailyTokenCap = .ok true) := by
  obtain ⟨s, hs, hlarge⟩ :=
    weigh_of_subperm hbatch (List.cons_ne_nil call []) (List.singleton_subperm_iff.mpr hcall)
  exact ⟨s, Batch.classify_singleton_eq_ok_iff.mp hs, hlarge⟩

/-! ### Accepted spends -/

/-- An accepted spend starts a cooldown exactly when it is found large. -/
theorem armsCooldown_iff_weigh {profile : Profile} {state : State} {now : Instant}
    {accepted : Acceptance} (hnow : now < Instant.last)
    (h : Policy.spend profile state spend now = .ok accepted) :
    accepted.armsCooldown = true ↔
      weigh spend profile.exchangeRate profile.limits.token.daily = .ok true := by
  rw [(Policy.leaves_of_spend hnow h).armsCooldown_eq, weigh_eq, Except.ok.injEq]
  exact Iff.rfl

/-! ### Together -/

/-- **Weighing is total and exact, and batching does not weaken it.** For all amounts, rates and
caps:

* Lamports can always be converted, and spends appraised and weighed; the two unchecked products fit
  a wide word. A spend is large exactly when twice what it is worth, with its lamports rounded down,
  exceeds the daily token cap.
* What moves at least as much of both assets as a large spend is large. So if any of the calls of a
  batch that passes, or a single one of them, is large alone, the batch is large.
* Short of the last instant, an accepted spend starts a cooldown exactly when it is large, and then
  the instant is remembered; otherwise what was remembered stays. -/
theorem weighing_exact_and_monotone :
    (∀ lamports exchangeRate : Amount, ∃ worth, convert lamports exchangeRate = .ok worth ∧
      worth.toNat = lamports.toNat * exchangeRate.toNat / lamportsPerSol) ∧
    (∀ spend exchangeRate, ∃ worth, appraise spend exchangeRate = .ok worth ∧
      worth.toNat =
        spend.sol.toNat * exchangeRate.toNat / lamportsPerSol + spend.token.toNat ∧
      worth.toNat * basisPoints < Wide.size) ∧
    (∀ dailyTokenCap : Amount, dailyTokenCap.toNat * thresholdBasisPoints < Wide.size) ∧
    (∀ spend exchangeRate dailyTokenCap, ∃ large,
      weigh spend exchangeRate dailyTokenCap = .ok large ∧
        (large = true ↔ dailyTokenCap.toNat <
          2 * (spend.sol.toNat * exchangeRate.toNat / lamportsPerSol + spend.token.toNat))) ∧
    (∀ less more exchangeRate dailyTokenCap,
      (∀ asset, (less.of asset).toNat ≤ (more.of asset).toNat) →
        weigh less exchangeRate dailyTokenCap = .ok true →
          weigh more exchangeRate dailyTokenCap = .ok true) ∧
    (∀ tokenProgram calls total, Batch.classify tokenProgram calls = .ok total →
      ∀ exchangeRate dailyTokenCap,
        (∀ part, part ≠ [] → part.Subperm calls →
          ∃ s, Batch.classify tokenProgram part = .ok s ∧
            (weigh s exchangeRate dailyTokenCap = .ok true →
              weigh total exchangeRate dailyTokenCap = .ok true)) ∧
        ∀ call ∈ calls, ∃ s, call.classify tokenProgram = .ok s ∧
          (weigh s exchangeRate dailyTokenCap = .ok true →
            weigh total exchangeRate dailyTokenCap = .ok true)) ∧
    ∀ profile state spend now accepted, now < Instant.last →
      Policy.spend profile state spend now = .ok accepted →
        (accepted.armsCooldown = true ↔
          weigh spend profile.exchangeRate profile.limits.token.daily = .ok true) ∧
        accepted.state.lastLargeSpend =
          if accepted.armsCooldown then some now else state.lastLargeSpend := by
  refine ⟨convert_eq_ok, fun spend exchangeRate => ?_, fun dailyTokenCap => ?_,
    fun spend exchangeRate dailyTokenCap => ⟨_, weigh_eq _ _ _, isLarge_iff⟩,
    fun _ _ _ _ => weigh_of_le, fun tokenProgram calls total hbatch exchangeRate dailyTokenCap =>
      ⟨fun _ => weigh_of_subperm hbatch, fun _ => weigh_of_mem hbatch⟩,
    fun profile state spend now accepted hnow h =>
      ⟨armsCooldown_iff_weigh hnow h, (Policy.leaves_of_spend hnow h).stamp⟩⟩
  · obtain ⟨worth, happraise, hworth⟩ := appraise_eq_ok spend exchangeRate
    refine ⟨worth, happraise, hworth, ?_⟩
    rw [hworth]
    exact value_mul_basisPoints_lt spend exchangeRate
  · rw [← toNat_threshold]
    exact Wide.toNat_lt _

/-- Eleven lamports to a wallet, and five units from one token account to another. -/
def heavyAndLight : List Call :=
  [.native .zero 11,
    ⟨Token.standardProgram, 0, Token.Instruction.transferData 5, [.zero, .zero, .zero]⟩]

/-- On the terms of the small account the lamports alone are large, and so are both calls together.
Four lamports and seven units are accepted and remembered, as they are large too, though neither of
them is alone. -/
theorem heavyAndLight_large :
    weigh ⟨11, 0⟩ 1000000000 20 = .ok true ∧
      weigh ⟨11, 5⟩ 1000000000 20 = .ok true ∧
      (∃ s, Batch.classify Token.standardProgram [.native .zero 11] = .ok s ∧
        (weigh s 1000000000 20 = .ok true → weigh ⟨11, 5⟩ 1000000000 20 = .ok true)) ∧
      ∃ accepted, Policy.spend .small (.fresh 0) ⟨4, 7⟩ 60 = .ok accepted ∧
        (accepted.armsCooldown = true ↔ weigh ⟨4, 7⟩ 1000000000 20 = .ok true) ∧
        accepted.state.lastLargeSpend = some 60 := by
  obtain ⟨-, -, -, -, hmono, hbatch, haccepted⟩ := weighing_exact_and_monotone
  have hlarge : weigh ⟨11, 0⟩ 1000000000 20 = .ok true := by decide
  have hclass : Batch.classify Token.standardProgram heavyAndLight = .ok ⟨11, 5⟩ := by decide
  have hspend : Policy.spend .small (.fresh 0) ⟨4, 7⟩ 60 =
      .ok ⟨⟨⟨4, 4⟩, ⟨7, 7⟩, 0, 0, some 60, none⟩, true⟩ := by decide
  have hpart : [Call.native .zero 11].Subperm heavyAndLight :=
    List.singleton_subperm_iff.mpr List.mem_cons_self
  obtain ⟨harms, hstamp⟩ := haccepted _ _ _ 60 _ (by decide) hspend
  exact ⟨hlarge, hmono ⟨11, 0⟩ _ _ _ (Asset.forall_iff.mpr (by decide)) hlarge,
    (hbatch _ _ _ hclass _ _).1 _ (List.cons_ne_nil _ _) hpart, _, hspend, harms, hstamp⟩

end Cooldown

end SpendGuard
