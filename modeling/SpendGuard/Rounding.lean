/-!
# Rounding

A quotient of natural numbers as a natural number: the nearest one, where a rule says which way
a tie goes. `quotient_mul_le` and `le_quotient_mul` say that the result is within half a unit.
-/

namespace SpendGuard

/-- Which way a tie goes. -/
inductive Tie where
  /-- To the even neighbour. -/
  | toEven
  /-- To the greater neighbour. -/
  | up
deriving DecidableEq, Repr

namespace Rounding

/-- The quotient, rounded to the nearest natural number. -/
def quotient (tie : Tie) (num den : Nat) : Nat :=
  let q := num / den
  let r := num % den
  if 2 * r < den then q
  else if den < 2 * r then q + 1
  else match tie with
    | .toEven => q + q % 2
    | .up => q + 1

private theorem quotient_cases (tie : Tie) {num den : Nat} :
    quotient tie num den = num / den ∧ 2 * (num % den) ≤ den ∨
      quotient tie num den = num / den + 1 ∧ den ≤ 2 * (num % den) := by
  unfold quotient
  dsimp only
  split
  · exact .inl ⟨rfl, by omega⟩
  · split
    · exact .inr ⟨rfl, by omega⟩
    · cases tie with
      | up => exact .inr ⟨rfl, by omega⟩
      | toEven =>
        rcases Nat.mod_two_eq_zero_or_one (num / den) with hq | hq
        · exact .inl ⟨by simp [hq], by omega⟩
        · exact .inr ⟨by simp [hq], by omega⟩

/-- The result is at most half a unit above the exact quotient. -/
theorem quotient_mul_le (tie : Tie) {num den : Nat} :
    2 * (quotient tie num den * den) ≤ 2 * num + den := by
  have hnum := Nat.div_add_mod' num den
  rcases @quotient_cases tie num den with ⟨hq, hr⟩ | ⟨hq, hr⟩
  · rw [hq]; omega
  · rw [hq, Nat.add_mul]; omega

/-- The result is at most half a unit below the exact quotient. -/
theorem le_quotient_mul (tie : Tie) {num den : Nat} (h : 0 < den) :
    2 * num ≤ 2 * (quotient tie num den * den) + den := by
  have hnum := Nat.div_add_mod' num den
  rcases @quotient_cases tie num den with ⟨hq, hr⟩ | ⟨hq, hr⟩
  · rw [hq]; omega
  · have := Nat.mod_lt num h
    rw [hq, Nat.add_mul]; omega

end Rounding

end SpendGuard
