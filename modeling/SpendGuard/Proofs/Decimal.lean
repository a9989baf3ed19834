import Mathlib.Tactic.Common
import SpendGuard.Decimal

/-!
# Digits that are read back

A natural number is spelled by its digits (`Decimal.ofDigits_natChars`), and the first of them is no
zero unless it is the only one (`Decimal.natChars_eq_cons`), which is what a reader that refuses
needless zeros asks for.
-/

namespace SpendGuard

namespace Decimal

theorem digitValue_digitChar {n : Nat} (h : n < 10) : digitValue (Nat.digitChar n) = n := by
  revert n
  decide

theorem isDigit_of_mem_natChars {n : Nat} {c : Char} (h : c ∈ natChars n) : c.isDigit = true :=
  Nat.isDigit_of_mem_toDigits (by decide) (by decide) h

/-- A number of one digit is that digit; a longer one ends in its last digit. -/
theorem natChars_eq_if (n : Nat) :
    natChars n =
      if n < 10 then [Nat.digitChar n] else natChars (n / 10) ++ [Nat.digitChar (n % 10)] :=
  Nat.toDigits_eq_if (by decide)

/-- **The digits of a number spell it.** -/
theorem ofDigits_natChars (n : Nat) : ofDigits (natChars n) = n := by
  induction n using Nat.strongRecOn with
  | ind n ih =>
    rw [natChars_eq_if]
    split
    · next hn => exact (Nat.zero_add _).trans (digitValue_digitChar hn)
    · next hn =>
      rw [ofDigits, List.foldl_append, ← ofDigits, ih (n / 10) (by omega)]
      have hlast := digitValue_digitChar (Nat.mod_lt n (by decide : 0 < 10))
      simp only [List.foldl_cons, List.foldl_nil, hlast]
      omega

/-- The digits of a number begin with one, and it is a zero only when the number is zero. -/
theorem natChars_eq_cons (n : Nat) :
    ∃ c cs, natChars n = c :: cs ∧ (c = '0' → n = 0 ∧ cs = []) := by
  induction n using Nat.strongRecOn with
  | ind n ih =>
    rw [natChars_eq_if]
    split
    · next hn =>
      refine ⟨_, [], rfl, fun hzero => ⟨?_, rfl⟩⟩
      rw [← digitValue_digitChar hn, hzero]
      rfl
    · next hn =>
      obtain ⟨c, cs, heq, hc⟩ := ih (n / 10) (by omega)
      refine ⟨c, cs ++ [Nat.digitChar (n % 10)], by rw [heq]; rfl, fun hzero => ?_⟩
      have := (hc hzero).1
      omega

end Decimal

end SpendGuard
