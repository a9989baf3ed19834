/-!
# Instants

Times are signed 64-bit seconds; signed 64-bit words also hold the integers of documents and
settings. Deadlines are computed by `Instant.after`, which is held at
the last representable instant instead of wrapping, so a deadline never lies before the instant
it was counted from.
-/

namespace SpendGuard

/-- The integer, when a signed 64-bit word holds it. -/
def SignedWord.fit? (i : Int) : Option Int :=
  if Int64.minValue.toInt ≤ i ∧ i ≤ Int64.maxValue.toInt then some i else none

/-- A point in time: seconds, signed, in 64 bits. -/
abbrev Instant := Int64

namespace Instant

/-- The last representable instant. -/
def last : Instant := Int64.maxValue

/-- The instant of an integer, when it is in the range. -/
def ofInt? (i : Int) : Option Instant := (SignedWord.fit? i).map Int64.ofInt

/-- The instant `secs` seconds after `t`, or the last one where that is beyond the range. -/
def after (t : Instant) (secs : Nat) : Instant :=
  if t.toInt + secs ≤ last.toInt then Int64.ofInt (t.toInt + secs) else last

/-- The time a clock shows after it was moved; it wraps around at the ends of the range. -/
def moved (t secs : Instant) : Instant := t + secs

theorem toInt_last : last.toInt = 9223372036854775807 := by decide

/-- The deadline in unbounded integers: the exact sum, held at the last instant. -/
theorem toInt_after (t : Instant) (secs : Nat) :
    (t.after secs).toInt = min (t.toInt + secs) last.toInt := by
  have hlo := Int64.le_toInt t
  unfold after
  split
  · next h =>
    rw [toInt_last] at h
    have hsize : Int64.size = 18446744073709551616 := rfl
    rw [Int64.toInt_ofInt, hsize, Int.bmod_eq_of_le (by omega) (by omega), toInt_last]
    omega
  · next h => omega

/-- A deadline is reached when the exact time has passed, or at the last instant. -/
theorem after_le_iff {t now : Instant} {secs : Nat} :
    t.after secs ≤ now ↔ t.toInt + secs ≤ now.toInt ∨ now = last := by
  have hhi := Int64.toInt_lt now
  have hlast : now = last ↔ now.toInt = last.toInt := Int64.toInt_inj.symm
  rw [Int64.le_iff_toInt_le, toInt_after, hlast, toInt_last]
  omega

/-- Short of the last instant, where deadlines are held, that leaves the exact time. -/
theorem after_le_iff_of_lt_last {t now : Instant} {secs : Nat} (hnow : now < last) :
    t.after secs ≤ now ↔ t.toInt + secs ≤ now.toInt := by
  have hne : now ≠ last := by
    rintro rfl
    exact absurd hnow (by decide)
  rw [after_le_iff, or_iff_left hne]

/-- Deadlines keep the order of what they were counted from. -/
theorem after_le_after {t u : Instant} (h : t ≤ u) (secs : Nat) : t.after secs ≤ u.after secs := by
  have hle := Int64.le_iff_toInt_le.mp h
  rw [Int64.le_iff_toInt_le, toInt_after, toInt_after]
  omega

theorem le_last (t : Instant) : t ≤ last := by
  have hhi := Int64.toInt_lt t
  rw [Int64.le_iff_toInt_le, toInt_last]
  omega

/-- Nothing is due before it was set. -/
theorem le_after (t : Instant) (secs : Nat) : t ≤ t.after secs := by
  have hhi := Int64.toInt_lt t
  rw [Int64.le_iff_toInt_le, toInt_after, toInt_last]
  omega

end Instant

end SpendGuard
