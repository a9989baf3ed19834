import Mathlib.Algebra.Order.Floor.Div
import SpendGuard.Proofs.Success
import SpendGuard.Sponsor

/-!
# What a sponsor asks for

A quote is computed in steps that may each find a result too large: the fee of the calls, the sum
with the flat fee, the product with the exchange rate, and the quotient, rounded up, as an amount
again. Only two of them matter. A quote is refused exactly when what the operation costs, or what
that is worth in token units, does not fit, both taken without a bound (`FeeSchedule.quote_eq`):
the fee of the calls is no more than the sum, and the product always fits a wide word.

So a quote is what it should be to the unit. Both of its parts grow with the number of calls, and
the token part is at most one unit above the value that the cooldown puts on the same lamports,
which is rounded down.
-/

namespace SpendGuard

namespace FeeSchedule

variable {s : FeeSchedule} {exchangeRate : Amount} {callCount fewer : Nat} {quote : FeeQuote}
  {e : Error}

/-- What an operation costs the sponsor in lamports, without a bound. -/
def lamportsFor (s : FeeSchedule) (callCount : Nat) : Nat :=
  s.baseFee.toNat + callCount * s.perCallFee.toNat

/-- What that is worth in token units, rounded up, without a bound. -/
def tokensFor (s : FeeSchedule) (exchangeRate : Amount) (callCount : Nat) : Nat :=
  s.lamportsFor callCount * exchangeRate.toNat ⌈/⌉ lamportsPerSol

theorem lamportsFor_mono (h : fewer ≤ callCount) : s.lamportsFor fewer ≤ s.lamportsFor callCount :=
  Nat.add_le_add_left (Nat.mul_le_mul_right _ h) _

theorem tokensFor_mono (h : fewer ≤ callCount) :
    s.tokensFor exchangeRate fewer ≤ s.tokensFor exchangeRate callCount :=
  (gc_mul_ceilDiv (by decide)).monotone_l (Nat.mul_le_mul_right _ (lamportsFor_mono h))

/-! ### The steps come to the exact fee -/

/-- The fee of the calls can be added to the flat one exactly when the sum fits. -/
theorem bind_times?_perCallFee (s : FeeSchedule) (callCount : Nat) :
    (Amount.times? callCount s.perCallFee).bind (Amount.add? · s.baseFee) =
      Amount.ofNat? (s.lamportsFor callCount) := by
  ext lamports
  simp only [Option.bind_eq_some_iff, Amount.times?_eq_some_iff, Amount.add?_eq_some_iff,
    Amount.ofNat?_eq_some_iff, lamportsFor]
  constructor
  · rintro ⟨perCall, hperCall, hsum⟩
    rw [hsum, hperCall, Nat.add_comm]
  · intro hsum
    have hfits : callCount * s.perCallFee.toNat < UInt64.size := by
      have hlt := Amount.toNat_lt lamports
      omega
    obtain ⟨perCall, hperCall⟩ := Amount.exists_toNat_eq hfits
    exact ⟨perCall, hperCall, by rw [hsum, hperCall, Nat.add_comm]⟩

/-- Dividing by the lamports of one SOL rounds up to the exact quotient. -/
theorem toNat_divCeil_lamportsPerSol (scaled : Wide) :
    (scaled.divCeil (.ofNat lamportsPerSol)).toNat = scaled.toNat ⌈/⌉ lamportsPerSol := by
  have hdivisor : (Wide.ofNat lamportsPerSol).toNat = lamportsPerSol := rfl
  rw [Wide.toNat_divCeil _ (by decide), hdivisor, Nat.ceilDiv_eq_add_pred_div, lamportsPerSol]
  split <;> omega

/-- **A quote is the exact fee** in both denominations, when both fit. -/
theorem quote_eq (s : FeeSchedule) (exchangeRate : Amount) (callCount : Nat) :
    s.quote exchangeRate callCount =
      match Amount.ofNat? (s.lamportsFor callCount),
        Amount.ofNat? (s.tokensFor exchangeRate callCount) with
      | some lamports, some token => .ok ⟨lamports, token⟩
      | _, _ => .error .overflow := by
  rw [quote, bind_times?_perCallFee]
  cases hlamports : Amount.ofNat? (s.lamportsFor callCount) with
  | none => rfl
  | some lamports =>
    have hproduct : lamports.toNat * exchangeRate.toNat < Wide.size :=
      Nat.mul_lt_mul'' (Amount.toNat_lt _) (Amount.toNat_lt _)
    have htoken : (Wide.divCeil (.ofNat (lamports.toNat * exchangeRate.toNat))
        (.ofNat lamportsPerSol)).toNat = s.tokensFor exchangeRate callCount := by
      rw [toNat_divCeil_lamportsPerSol, Wide.toNat_ofNat hproduct,
        Amount.ofNat?_eq_some_iff.mp hlamports, tokensFor]
    simp only [Wide.mul?_ofAmount, Wide.toAmount?, htoken]
    cases Amount.ofNat? (s.tokensFor exchangeRate callCount) <;> rfl

theorem quote_eq_ok_iff :
    s.quote exchangeRate callCount = .ok quote ↔
      quote.lamports.toNat = s.lamportsFor callCount ∧
        quote.token.toNat = s.tokensFor exchangeRate callCount := by
  rw [quote_eq, ← Amount.ofNat?_eq_some_iff, ← Amount.ofNat?_eq_some_iff]
  cases Amount.ofNat? (s.lamportsFor callCount) with
  | none => simp
  | some lamports =>
    cases Amount.ofNat? (s.tokensFor exchangeRate callCount) with
    | none => simp
    | some token =>
      obtain ⟨lamports', token'⟩ := quote
      simp

theorem isOk_quote_iff :
    (s.quote exchangeRate callCount).isOk = true ↔
      s.lamportsFor callCount < UInt64.size ∧ s.tokensFor exchangeRate callCount < UInt64.size := by
  simp only [isOk_iff_exists, quote_eq_ok_iff]
  constructor
  · rintro ⟨quote, hlamports, htoken⟩
    exact ⟨hlamports ▸ Amount.toNat_lt _, htoken ▸ Amount.toNat_lt _⟩
  · rintro ⟨hlamports, htoken⟩
    obtain ⟨lamports, hlamports⟩ := Amount.exists_toNat_eq hlamports
    obtain ⟨token, htoken⟩ := Amount.exists_toNat_eq htoken
    exact ⟨⟨lamports, token⟩, hlamports, htoken⟩

/-- A fee that is refused does not fit; there is no other error. -/
theorem overflow_of_quote (h : s.quote exchangeRate callCount = .error e) : e = .overflow := by
  rw [quote_eq] at h
  split at h
  · cases h
  · cases h
    rfl

/-! ### Rounding -/

/-- The sponsor never asks for less than it pays. -/
theorem lamports_mul_le_of_quote (h : s.quote exchangeRate callCount = .ok quote) :
    quote.lamports.toNat * exchangeRate.toNat ≤ quote.token.toNat * lamportsPerSol := by
  obtain ⟨hlamports, htoken⟩ := quote_eq_ok_iff.mp h
  rw [hlamports, htoken, Nat.mul_comm _ lamportsPerSol]
  exact (ceilDiv_le_iff_le_mul (by decide)).mp le_rfl

/-- What it asks for is the value of the lamports, or one unit more. -/
theorem token_eq_of_quote (h : s.quote exchangeRate callCount = .ok quote) :
    quote.token.toNat = Cooldown.tokenValue quote.lamports exchangeRate ∨
      quote.token.toNat = Cooldown.tokenValue quote.lamports exchangeRate + 1 := by
  obtain ⟨hlamports, htoken⟩ := quote_eq_ok_iff.mp h
  rw [htoken, tokensFor, Cooldown.tokenValue, ← hlamports, Nat.ceilDiv_eq_add_pred_div,
    lamportsPerSol]
  omega

/-! ### Together -/

/-- **A quote is exact, rounded up and monotone.** For every schedule, exchange rate and number of
calls:

* There is a quote exactly when what the operation costs, and what that is worth in token units,
  rounded up, both fit; otherwise the only error is an overflow. A quote is just these two.
* So the sponsor never asks for less than it pays, and for at most one unit more than the cooldown
  takes the same lamports to be worth.
* When there is a quote for some number of calls, there is one for any smaller number, and no part
  of it is larger. -/
theorem quote_exact_and_monotone (s : FeeSchedule) (exchangeRate : Amount) :
    (∀ callCount, (s.quote exchangeRate callCount).isOk = true ↔
      s.lamportsFor callCount < UInt64.size ∧ s.tokensFor exchangeRate callCount < UInt64.size) ∧
    (∀ callCount e, s.quote exchangeRate callCount = .error e → e = .overflow) ∧
    (∀ callCount quote, s.quote exchangeRate callCount = .ok quote →
      quote.lamports.toNat = s.lamportsFor callCount ∧
      quote.token.toNat = s.tokensFor exchangeRate callCount ∧
      quote.lamports.toNat * exchangeRate.toNat ≤ quote.token.toNat * lamportsPerSol ∧
      ∃ worth, Cooldown.convert quote.lamports exchangeRate = .ok worth ∧
        (quote.token.toNat = worth.toNat ∨ quote.token.toNat = worth.toNat + 1)) ∧
    ∀ callCount quote, s.quote exchangeRate callCount = .ok quote → ∀ fewer ≤ callCount,
      ∃ less, s.quote exchangeRate fewer = .ok less ∧
        less.lamports ≤ quote.lamports ∧ less.token ≤ quote.token := by
  refine ⟨fun _ => isOk_quote_iff, fun _ _ => overflow_of_quote, fun callCount quote hquote => ?_,
    fun callCount quote hquote fewer hfewer => ?_⟩
  · obtain ⟨hlamports, htoken⟩ := quote_eq_ok_iff.mp hquote
    obtain ⟨worth, hconvert, hworth⟩ := Cooldown.convert_eq_ok quote.lamports exchangeRate
    refine ⟨hlamports, htoken, lamports_mul_le_of_quote hquote, worth, hconvert, ?_⟩
    rw [hworth]
    exact token_eq_of_quote hquote
  · obtain ⟨hlamports, htoken⟩ := quote_eq_ok_iff.mp hquote
    have hlessLamports : s.lamportsFor fewer ≤ quote.lamports.toNat :=
      hlamports ▸ lamportsFor_mono hfewer
    have hlessToken : s.tokensFor exchangeRate fewer ≤ quote.token.toNat :=
      htoken ▸ tokensFor_mono hfewer
    obtain ⟨less, hless⟩ := isOk_iff_exists.mp (isOk_quote_iff.mpr
      ⟨Nat.lt_of_le_of_lt hlessLamports (Amount.toNat_lt _),
        Nat.lt_of_le_of_lt hlessToken (Amount.toNat_lt _)⟩)
    obtain ⟨hlamports', htoken'⟩ := quote_eq_ok_iff.mp hless
    refine ⟨less, hless, UInt64.le_iff_toNat_le.mpr ?_, UInt64.le_iff_toNat_le.mpr ?_⟩
    · rw [hlamports']
      exact hlessLamports
    · rw [htoken']
      exact hlessToken

/-- One lamport, and for each call as many as fit. -/
def steepest : FeeSchedule := ⟨0, 1, 18446744073709551615⟩

/-- At one unit per SOL, seven thousand lamports cost one unit, and fewer calls no more. On the
steepest schedule there is a quote for no call, and for one call there is none. -/
theorem standard_and_steepest :
    (standard.quote 1 2 = .ok ⟨7000, 1⟩ ∧ 7000 * 1 ≤ 1 * lamportsPerSol ∧
      ∃ less, standard.quote 1 1 = .ok less ∧ less.lamports ≤ 7000 ∧ less.token ≤ 1) ∧
    ¬ (steepest.quote 1 1).isOk = true ∧ (steepest.quote 1 0).isOk = true ∧
    (∀ e, steepest.quote 1 1 = .error e → e = .overflow) := by
  obtain ⟨-, -, hexact, hmono⟩ := quote_exact_and_monotone standard 1
  obtain ⟨hfits, herror, -⟩ := quote_exact_and_monotone steepest 1
  have hquote : standard.quote 1 2 = .ok ⟨7000, 1⟩ := by decide
  refine ⟨⟨hquote, (hexact 2 _ hquote).2.2.1, hmono 2 _ hquote 1 (by decide)⟩,
    fun hok => absurd ((hfits 1).mp hok).1 (by decide), (hfits 0).mpr (by decide), herror 1⟩

end FeeSchedule

end SpendGuard
