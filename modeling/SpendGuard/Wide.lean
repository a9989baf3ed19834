import SpendGuard.Amount

/-!
# Wide words

Products of two amounts are formed in unsigned 128-bit words. Sums and products there are either
*checked* (`add?`, `mul?`: no result when the exact one does not fit) or not, and then `*` wraps
around: it is exact where the exact product fits (`toNat_mul_of_lt`), and only there.
-/

namespace SpendGuard

/-- An unsigned 128-bit quantity. -/
abbrev Wide := BitVec 128

namespace Wide

/-- How many wide words there are. -/
def size : Nat := 340282366920938463463374607431768211456

/-- The wide word that a number is cut to. -/
def ofNat (n : Nat) : Wide := BitVec.ofNat 128 n

/-- The wide word of value `n`, when 128 bits hold it. -/
def ofNat? (n : Nat) : Option Wide := if n < size then some (ofNat n) else none

/-- An amount, widened. -/
def ofAmount (a : Amount) : Wide := ofNat a.toNat

/-- The amount of the same value, when 64 bits hold it. -/
def toAmount? (w : Wide) : Option Amount := Amount.ofNat? w.toNat

/-- The exact sum, when it fits. -/
def add? (v w : Wide) : Option Wide := ofNat? (v.toNat + w.toNat)

/-- The exact product, when it fits. -/
def mul? (v w : Wide) : Option Wide := ofNat? (v.toNat * w.toNat)

/-- The quotient, rounded up. -/
def divCeil (v w : Wide) : Wide := if v % w = 0 then v / w else v / w + 1

/-! ### Exact values -/

theorem toNat_lt (w : Wide) : w.toNat < size := w.isLt

theorem toNat_ofNat {n : Nat} (h : n < size) : (ofNat n).toNat = n := Nat.mod_eq_of_lt h

theorem ofNat?_of_lt {n : Nat} (h : n < size) : ofNat? n = some (ofNat n) := if_pos h

@[simp]
theorem toNat_ofAmount (a : Amount) : (ofAmount a).toNat = a.toNat :=
  toNat_ofNat (Nat.lt_of_lt_of_le (Amount.toNat_lt a) (by decide))

/-- The unchecked product is the exact one where that fits. -/
theorem toNat_mul_of_lt {v w : Wide} (h : v.toNat * w.toNat < size) :
    (v * w).toNat = v.toNat * w.toNat := by
  rw [BitVec.toNat_mul]
  exact Nat.mod_eq_of_lt h

/-- Two amounts always have a product. -/
theorem mul?_ofAmount (a b : Amount) :
    mul? (ofAmount a) (ofAmount b) = some (ofNat (a.toNat * b.toNat)) := by
  have hproduct : a.toNat * b.toNat < UInt64.size * UInt64.size :=
    Nat.mul_lt_mul'' (Amount.toNat_lt a) (Amount.toNat_lt b)
  rw [mul?, toNat_ofAmount, toNat_ofAmount, ofNat?_of_lt hproduct]

/-- Rounding up goes beyond the quotient where the division leaves something. -/
theorem toNat_divCeil (v : Wide) {w : Wide} (hw : 1 < w.toNat) :
    (divCeil v w).toNat =
      if v.toNat % w.toNat = 0 then v.toNat / w.toNat else v.toNat / w.toNat + 1 := by
  have hzero : v % w = 0 ↔ v.toNat % w.toNat = 0 := by
    rw [← BitVec.toNat_inj, BitVec.toNat_umod]
    exact Iff.rfl
  simp only [divCeil, hzero]
  split
  · exact BitVec.toNat_udiv
  · -- A quotient by two or more leaves room for one more.
    have hroom : v.toNat / w.toNat + 1 < size := by
      have hhalf : v.toNat / w.toNat ≤ v.toNat / 2 := Nat.div_le_div_left hw (by decide)
      have hlt := toNat_lt v
      unfold size at hlt ⊢
      omega
    rw [BitVec.toNat_add, BitVec.toNat_udiv]
    exact Nat.mod_eq_of_lt hroom

end Wide

end SpendGuard
