import Mathlib.Algebra.Order.BigOperators.Group.List
import Mathlib.Algebra.Order.Ring.Nat
import SpendGuard.Proofs.Policy

/-!
# Sums of spends

Spends are added up in both assets at once, and only as far as both sums fit. A sum that fits is
exact (`Spend.sum?_eq_some_iff`), and one that does not is out of range in some asset
(`Spend.add?_eq_none_iff`); what it comes to, taken without a bound (`Spend.totalOf`), depends on
the spends alone and not on their order.
-/

namespace SpendGuard

namespace Spend

variable {spends reordered : List Spend} {s t total : Spend}

/-- Any amounts that fit are those of a spend. -/
theorem exists_of_eq {amounts : Asset → Nat} (h : ∀ asset, amounts asset < UInt64.size) :
    ∃ s : Spend, ∀ asset, (s.of asset).toNat = amounts asset := by
  obtain ⟨sol, hsol⟩ := Amount.exists_toNat_eq (h .sol)
  obtain ⟨token, htoken⟩ := Amount.exists_toNat_eq (h .token)
  exact ⟨⟨sol, token⟩, Asset.forall_iff.mpr ⟨hsol, htoken⟩⟩

/-- A spend is given by its amounts. -/
theorem eq_iff_of : s = t ↔ ∀ asset, (s.of asset).toNat = (t.of asset).toNat := by
  cases s
  cases t
  simp only [Asset.forall_iff, of, UInt64.toNat_inj, mk.injEq]

@[simp]
theorem toNat_of_zero (asset : Asset) : (zero.of asset).toNat = 0 := by cases asset <;> rfl

theorem add?_eq_some_iff_of :
    s.add? t = some total ↔
      ∀ asset, (total.of asset).toNat = (s.of asset).toNat + (t.of asset).toNat := by
  rw [add?_eq_some_iff, Asset.forall_iff]
  exact Iff.rfl

/-- Spends cannot be added when their sum does not fit in some asset. -/
theorem add?_eq_none_iff :
    s.add? t = none ↔ ∃ asset, UInt64.size ≤ (s.of asset).toNat + (t.of asset).toNat := by
  rw [Option.eq_none_iff_forall_ne_some]
  constructor
  · intro hnone
    by_contra! hfits
    obtain ⟨total, htotal⟩ := exists_of_eq hfits
    exact hnone total (add?_eq_some_iff_of.mpr htotal)
  · rintro ⟨asset, hlarge⟩ total hsome
    rw [← add?_eq_some_iff_of.mp hsome asset] at hlarge
    exact absurd (Amount.toNat_lt _) (Nat.not_lt.mpr hlarge)

/-- The exact sum of spends in both assets, when both fit. -/
def sum? (spends : List Spend) : Option Spend := spends.foldlM add? zero

/-- How much spends come to in one asset, without a bound. -/
def totalOf (asset : Asset) (spends : List Spend) : Nat :=
  (spends.map fun s => (s.of asset).toNat).sum

@[simp]
theorem totalOf_singleton (asset : Asset) (s : Spend) : totalOf asset [s] = (s.of asset).toNat := by
  simp [totalOf]

theorem totalOf_cons (asset : Asset) (s : Spend) (rest : List Spend) :
    totalOf asset (s :: rest) = (s.of asset).toNat + totalOf asset rest := by
  simp [totalOf]

theorem totalOf_append (asset : Asset) (spends rest : List Spend) :
    totalOf asset (spends ++ rest) = totalOf asset spends + totalOf asset rest := by
  simp [totalOf]

theorem totalOf_perm (h : spends.Perm reordered) (asset : Asset) :
    totalOf asset spends = totalOf asset reordered := (h.map _).sum_nat

theorem le_totalOf (h : s ∈ spends) (asset : Asset) : (s.of asset).toNat ≤ totalOf asset spends :=
  List.single_le_sum (fun _ _ => Nat.zero_le _) _ (List.mem_map_of_mem h)

/-- Some of the spends come to no more than all of them. -/
theorem totalOf_le_of_subperm {part : List Spend} (h : part.Subperm spends) (asset : Asset) :
    totalOf asset part ≤ totalOf asset spends := by
  obtain ⟨chosen, hperm, hsublist⟩ := h
  rw [← totalOf_perm hperm]
  exact (hsublist.map _).sum_le_sum fun _ _ => Nat.zero_le _

/-- Adding up goes on from a running total. -/
theorem foldlM_add?_eq_some_iff {running : Spend} :
    spends.foldlM add? running = some total ↔
      ∀ asset, (total.of asset).toNat = (running.of asset).toNat + totalOf asset spends := by
  induction spends generalizing running with
  | nil =>
    simp only [List.foldlM_nil, Option.pure_def, Option.some.injEq, totalOf, List.map_nil,
      List.sum_nil, Nat.add_zero]
    rw [eq_comm, eq_iff_of]
  | cons s rest ih =>
    simp only [List.foldlM_cons, Option.bind_eq_bind, Option.bind_eq_some_iff, ih, totalOf_cons,
      add?_eq_some_iff_of]
    constructor
    · rintro ⟨next, hnext, htotal⟩ asset
      rw [htotal, hnext, Nat.add_assoc]
    · intro htotal
      -- What is reached on the way is no more than the total, so it fits.
      have hfits (asset : Asset) : (running.of asset).toNat + (s.of asset).toNat < UInt64.size := by
        have hbound := Amount.toNat_lt (total.of asset)
        have htotal := htotal asset
        omega
      obtain ⟨next, hnext⟩ := exists_of_eq hfits
      refine ⟨next, hnext, fun asset => ?_⟩
      rw [htotal, hnext, Nat.add_assoc]

/-- The sum is exact. -/
theorem sum?_eq_some_iff :
    sum? spends = some total ↔ ∀ asset, (total.of asset).toNat = totalOf asset spends := by
  simp only [sum?, foldlM_add?_eq_some_iff, toNat_of_zero, Nat.zero_add]

end Spend

end SpendGuard
