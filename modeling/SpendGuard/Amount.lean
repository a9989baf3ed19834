/-!
# Amounts

Lamports, token units, nonces and compute units are all unsigned 64-bit words. Arithmetic on
them is either *checked* (`add?`, `sub?`, `times?`: no result when the exact one does not fit) or
*held at zero* (`monus`). Each operation is described by what it does to the exact values in
`Nat`, so that no proof has to reason about wrap-around.
-/

namespace SpendGuard

/-- An unsigned 64-bit quantity, counted in the smallest unit of what it measures. -/
abbrev Amount := UInt64

namespace Amount

/-- The amount of value `n`, when 64 bits hold it. -/
def ofNat? (n : Nat) : Option Amount :=
  if n < UInt64.size then some (UInt64.ofNat n) else none

/-- The exact sum, when it fits. -/
def add? (a b : Amount) : Option Amount := ofNat? (a.toNat + b.toNat)

/-- The exact difference, when it is not negative. -/
def sub? (a b : Amount) : Option Amount := if b ≤ a then some (a - b) else none

/-- So many times an amount, when the exact product fits. -/
def times? (count : Nat) (a : Amount) : Option Amount := ofNat? (count * a.toNat)

/-- The difference, or zero where it would be negative. -/
def monus (a b : Amount) : Amount := if b ≤ a then a - b else 0

/-! ### Exact values -/

theorem toNat_lt (a : Amount) : a.toNat < UInt64.size := UInt64.toNat_lt a

/-- Every number in the range is that of an amount. -/
theorem exists_toNat_eq {n : Nat} (h : n < UInt64.size) : ∃ a : Amount, a.toNat = n :=
  ⟨UInt64.ofNat n, UInt64.toNat_ofNat_of_lt h⟩

theorem pos_iff {a : Amount} : 0 < a ↔ 0 < a.toNat := UInt64.lt_iff_toNat_lt

theorem ofNat?_eq_some_iff {n : Nat} {a : Amount} : ofNat? n = some a ↔ a.toNat = n := by
  unfold ofNat?
  constructor
  · intro h
    split at h
    · next hn => cases h; simpa using Nat.mod_eq_of_lt hn
    · cases h
  · rintro rfl
    rw [if_pos (toNat_lt a), UInt64.ofNat_toNat]

theorem ofNat?_eq_none_iff {n : Nat} : ofNat? n = none ↔ UInt64.size ≤ n := by
  unfold ofNat?; split <;> simp <;> omega

theorem add?_eq_some_iff {a b c : Amount} :
    add? a b = some c ↔ c.toNat = a.toNat + b.toNat := ofNat?_eq_some_iff

theorem times?_eq_some_iff {count : Nat} {a b : Amount} :
    times? count a = some b ↔ b.toNat = count * a.toNat := ofNat?_eq_some_iff

theorem sub?_eq_some_iff {a b c : Amount} :
    sub? a b = some c ↔ b.toNat + c.toNat = a.toNat := by
  unfold sub?
  constructor
  · intro h
    split at h
    · next hle =>
      cases h
      rw [UInt64.toNat_sub_of_le _ _ hle]
      have := UInt64.le_iff_toNat_le.1 hle
      omega
    · cases h
  · intro h
    have hle : b ≤ a := UInt64.le_iff_toNat_le.2 (by omega)
    rw [if_pos hle, Option.some.injEq]
    apply UInt64.toNat_inj.1
    rw [UInt64.toNat_sub_of_le _ _ hle]
    omega

@[simp]
theorem toNat_monus (a b : Amount) : (monus a b).toNat = a.toNat - b.toNat := by
  unfold monus
  split
  · next hle => exact UInt64.toNat_sub_of_le _ _ hle
  · next hle =>
    have : ¬ b.toNat ≤ a.toNat := fun h => hle (UInt64.le_iff_toNat_le.2 h)
    simp only [UInt64.toNat_zero]
    omega

end Amount

end SpendGuard
