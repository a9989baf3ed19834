import Mathlib.Order.Bounds.Defs
import SpendGuard.Proofs.Cooldown
import SpendGuard.Proofs.Ledger.Timelock
import SpendGuard.Proofs.Window

/-!
# When gates open

Four things are waited for: the end of a day, the end of a month, the end of a cooldown and the end
of the withdrawal timelock. Each wait is kept by a deadline, some seconds after an anchor, which is
held at the last instant instead of wrapping around. What holding costs is one reading: a wait is
over when its seconds have passed, counted in unbounded integers, or at the last instant, where
every deadline is reached (`Instant.after_le_iff_elapsed`). This holds for all anchors, those that
lie in the future, before zero or close to either end of the range included. A refusal tells the
deadline, and no reading before it opens the gate (`Instant.isLeast_of_opens`).
-/

namespace SpendGuard

namespace Instant

variable {anchor now opening : Instant} {secs : Nat}

/-- So many seconds have **elapsed** from an anchor to a reading: the exact difference is as large,
or the reading is the last there is. -/
def Elapsed (secs : Nat) (anchor now : Instant) : Prop :=
  (secs : Int) ≤ now.toInt - anchor.toInt ∨ now = last

instance (secs : Nat) (anchor now : Instant) : Decidable (Elapsed secs anchor now) :=
  inferInstanceAs (Decidable (_ ∨ _))

/-- A deadline is reached when its seconds have elapsed. -/
theorem after_le_iff_elapsed : anchor.after secs ≤ now ↔ Elapsed secs anchor now := by
  have hexact : anchor.toInt + secs ≤ now.toInt ↔ (secs : Int) ≤ now.toInt - anchor.toInt := by
    omega
  rw [after_le_iff, hexact, Elapsed]

/-- A gate that is open from a reading on is not open before. -/
theorem isLeast_of_opens {gate : Instant → Prop} (h : ∀ t, gate t ↔ opening ≤ t) :
    IsLeast {t | gate t} opening :=
  ⟨(h opening).mpr (Int64.le_refl opening), fun t ht => (h t).mp ht⟩

end Instant

open Instant (Elapsed)

/-! ### The four gates -/

/-- A window is over when its period has elapsed. -/
theorem Period.isOver_iff_elapsed {period : Period} {anchor now : Instant} :
    period.isOver anchor now = true ↔ Elapsed period.seconds anchor now := by
  rw [Period.isOver, decide_eq_true_iff, Instant.after_le_iff_elapsed]

/-- A window is reset when its period has elapsed, and stays as it is otherwise. -/
theorem Window.roll_eq_if_elapsed (period : Period) (now : Instant) (w : Window) :
    w.roll period now = if Elapsed period.seconds w.anchor now then ⟨now, 0⟩ else w :=
  if_congr Period.isOver_iff_elapsed rfl rfl

namespace Cooldown

variable {lastLargeSpend : Option Instant} {spend : Spend}
  {exchangeRate dailyTokenCap : Amount} {anchor now : Instant} {e : Error}

theorem isOk_gate_some_iff :
    (gate (some anchor) spend exchangeRate dailyTokenCap now).isOk = true ↔
      Elapsed length anchor now := by
  rw [isOk_gate_iff, ← Instant.after_le_iff_elapsed]
  constructor
  · intro h
    exact h anchor rfl
  · rintro h _ ⟨⟩
    exact h

/-- A spend that is refused is told from when on the gate is open, whatever is spent then. -/
theorem opens_of_gate_eq_error
    (h : gate lastLargeSpend spend exchangeRate dailyTokenCap now = .error e) :
    ∃ opening, e = .cooldownActive opening ∧ ∀ other t,
      (gate lastLargeSpend other exchangeRate dailyTokenCap t).isOk = true ↔ opening ≤ t := by
  obtain ⟨anchor, rfl, -, rfl⟩ := gate_eq_error_iff.mp h
  refine ⟨anchor.after length, rfl, fun other t => ?_⟩
  rw [isOk_gate_some_iff, Instant.after_le_iff_elapsed]

end Cooldown

namespace Withdrawal

variable {request : Option Instant} {anchor now opening : Instant}

theorem ensureReleased_some_eq_ok_iff :
    ensureReleased (some anchor) now = .ok () ↔ Elapsed timelock anchor now := by
  rw [ensureReleased_eq_ok_iff, ← Instant.after_le_iff_elapsed]
  constructor
  · rintro ⟨_, ⟨⟩, h⟩
    exact h
  · intro h
    exact ⟨anchor, rfl, h⟩

/-- The status of a request says released exactly when a withdrawal is. -/
theorem isReleased_ofRequest (request : Option Instant) (now : Instant) :
    (Status.ofRequest request).isReleased now = (ensureReleased request now).isOk := by
  cases request with
  | none => rfl
  | some anchor =>
    rw [Bool.eq_iff_iff, isOk_iff_exists]
    have hstatus : (Status.ofRequest (some anchor)).isReleased now = true ↔ readyAt anchor ≤ now :=
      decide_eq_true_iff
    constructor
    · intro hreleased
      exact ⟨(), ensureReleased_eq_ok_iff.mpr ⟨anchor, rfl, hstatus.mp hreleased⟩⟩
    · rintro ⟨_, hreleased⟩
      obtain ⟨_, ⟨⟩, hready⟩ := ensureReleased_eq_ok_iff.mp hreleased
      exact hstatus.mpr hready

/-- A withdrawal that has to wait is told from when on it is released. -/
theorem opens_of_ensureReleased_eq_error
    (h : ensureReleased request now = .error (.timelockNotElapsed opening)) (t : Instant) :
    ensureReleased request t = .ok () ↔ opening ≤ t := by
  cases request with
  | none => cases h
  | some anchor =>
    rw [ensureReleased] at h
    split at h
    · cases h
      rw [ensureReleased_some_eq_ok_iff, readyAt, Instant.after_le_iff_elapsed]
    · cases h

end Withdrawal

/-- **The gates are exact** on the whole range of anchors and readings.

* A day or a month is reset, a spend passes the cooldown, and a withdrawal is released, exactly when
  the seconds of that gate have elapsed: as many lie between anchor and reading, exactly, or the
  reading is the last instant. What is not reset stays as it is.
* The status of a withdrawal agrees with the gate on every request and at every reading.
* A refusal by the cooldown or by the timelock tells the least reading at which the same gate is
  open: with the same stamp every earlier reading is refused, and no reading from then on is. -/
theorem time_gates_exact (now : Instant) :
    (∀ w : Windows, w.roll now =
      ⟨if Elapsed 86400 w.daily.anchor now then ⟨now, 0⟩ else w.daily,
        if Elapsed 2592000 w.monthly.anchor now then ⟨now, 0⟩ else w.monthly⟩) ∧
    (∀ anchor spend exchangeRate dailyTokenCap,
      (Cooldown.gate (some anchor) spend exchangeRate dailyTokenCap now).isOk = true ↔
        Elapsed 3600 anchor now) ∧
    (∀ anchor, Withdrawal.ensureReleased (some anchor) now = .ok () ↔ Elapsed 172800 anchor now) ∧
    (∀ request, (Withdrawal.Status.ofRequest request).isReleased now =
      (Withdrawal.ensureReleased request now).isOk) ∧
    (∀ stamp spend exchangeRate dailyTokenCap e,
      Cooldown.gate stamp spend exchangeRate dailyTokenCap now = .error e →
        ∃ opening, e = .cooldownActive opening ∧ ∀ other,
          let opens (t : Instant) : Prop :=
            (Cooldown.gate stamp other exchangeRate dailyTokenCap t).isOk = true
          IsLeast {t | opens t} opening ∧ ∀ t, opens t ↔ opening ≤ t) ∧
    ∀ request opening,
      Withdrawal.ensureReleased request now = .error (.timelockNotElapsed opening) →
        let opens (t : Instant) : Prop := Withdrawal.ensureReleased request t = .ok ()
        IsLeast {t | opens t} opening ∧ ∀ t, opens t ↔ opening ≤ t := by
  refine ⟨fun w => ?_, fun _ _ _ _ => Cooldown.isOk_gate_some_iff,
    fun _ => Withdrawal.ensureReleased_some_eq_ok_iff,
    fun request => Withdrawal.isReleased_ofRequest request now, ?_, ?_⟩
  · rw [Windows.roll, Window.roll_eq_if_elapsed, Window.roll_eq_if_elapsed]
    rfl
  · intro stamp spend exchangeRate dailyTokenCap e hrefused
    obtain ⟨opening, he, hopens⟩ := Cooldown.opens_of_gate_eq_error hrefused
    exact ⟨opening, he, fun other =>
      ⟨Instant.isLeast_of_opens (hopens other), fun t => hopens other t⟩⟩
  · intro request opening hwaiting
    have hopens := Withdrawal.opens_of_ensureReleased_eq_error hwaiting
    exact ⟨Instant.isLeast_of_opens hopens, hopens⟩

/-- Seven seconds before the last instant something large is spent and a withdrawal is requested.
Neither wait can be over in full; one second before the end both gates are closed and tell the last
instant, where they open. -/
theorem time_gates_at_the_end :
    let stamp : Instant := 9223372036854775800
    let soon : Instant := 9223372036854775806
    Cooldown.gate (some stamp) ⟨1, 0⟩ 0 0 soon = .error (.cooldownActive Instant.last) ∧
      IsLeast {t | (Cooldown.gate (some stamp) ⟨1, 0⟩ 0 0 t).isOk = true} Instant.last ∧
      Withdrawal.ensureReleased (some stamp) soon = .error (.timelockNotElapsed Instant.last) ∧
      IsLeast {t | Withdrawal.ensureReleased (some stamp) t = .ok ()} Instant.last := by
  intro stamp soon
  obtain ⟨-, -, -, -, hcooldown, htimelock⟩ := time_gates_exact soon
  have hblocked : Cooldown.gate (some stamp) ⟨1, 0⟩ 0 0 soon =
      .error (.cooldownActive Instant.last) := by decide
  have hwaiting : Withdrawal.ensureReleased (some stamp) soon =
      .error (.timelockNotElapsed Instant.last) := by decide
  obtain ⟨opening, hopening, hopens⟩ := hcooldown _ _ _ _ _ hblocked
  cases hopening
  exact ⟨hblocked, (hopens ⟨1, 0⟩).1, hwaiting, (htimelock _ _ hwaiting).1⟩

end SpendGuard
