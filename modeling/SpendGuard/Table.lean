/-!
# Tables

A finite map as a list of entries in the order in which their keys first came. A table is
known by `get?`; sums over a table change by exactly what one entry changes (`sum_put`).
-/

namespace SpendGuard

/-- Entries by key; the first entry of a key counts. -/
abbrev Table (κ α : Type) := List (κ × α)

namespace Table

variable {κ α : Type} [DecidableEq κ]

/-- The value stored for a key. -/
def get? : Table κ α → κ → Option α
  | [], _ => none
  | (k', v) :: rest, k => if k' = k then some v else get? rest k

/-- The table with a value stored for a key, in the place of the one before if there was one. -/
def put : Table κ α → κ → α → Table κ α
  | [], k, v => [(k, v)]
  | (k', v') :: rest, k, v => if k' = k then (k', v) :: rest else (k', v') :: put rest k v

/-- The sum of a measure over all entries. -/
def sum (f : κ → α → Nat) : Table κ α → Nat
  | [] => 0
  | (k, v) :: rest => f k v + sum f rest

@[simp]
theorem get?_put_self (t : Table κ α) (k : κ) (v : α) : get? (put t k v) k = some v := by
  induction t with
  | nil => simp [put, get?]
  | cons e rest ih => by_cases h : e.1 = k <;> simp [put, get?, h, ih]

theorem get?_put_of_ne (t : Table κ α) {k l : κ} (v : α) (h : l ≠ k) :
    get? (put t k v) l = get? t l := by
  induction t with
  | nil => simp [put, get?, h.symm]
  | cons e rest ih =>
    by_cases he : e.1 = k
    · have : e.1 ≠ l := fun hl => h (hl.symm.trans he)
      simp [put, get?, he, he ▸ this]
    · by_cases hl : e.1 = l <;> simp [put, get?, he, hl, ih, h]

/-- Storing adds the measure of the new value and takes away that of the one before. -/
theorem sum_put (f : κ → α → Nat) (t : Table κ α) (k : κ) (v : α) :
    sum f (put t k v) + ((get? t k).map (f k)).getD 0 = sum f t + f k v := by
  induction t with
  | nil => simp [put, get?, sum]
  | cons e rest ih =>
    by_cases he : e.1 = k
    · subst he
      simp [put, get?, sum]
      omega
    · simp only [put, get?, he, if_false, sum]
      omega

end Table

end SpendGuard
