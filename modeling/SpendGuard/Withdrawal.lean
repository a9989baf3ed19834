import SpendGuard.Error

/-!
# The withdrawal timelock

An emergency withdrawal is requested, ages for two days and is then released. Asking again
starts the wait again; a withdrawal that was carried out clears the request.
-/

namespace SpendGuard

namespace Withdrawal

/-- How long a request has to age, in seconds. -/
def timelock : Nat := 48 * 3600

/-- When a request made at this instant is released. -/
def readyAt (requestedAt : Instant) : Instant := requestedAt.after timelock

/-- Where a withdrawal stands. -/
inductive Status where
  /-- Nobody asked. -/
  | idle
  /-- Asked for, and when it is released. -/
  | requested (requestedAt readyAt : Instant)
deriving DecidableEq

/-- Where the withdrawal of a stored request stands. -/
def Status.ofRequest : Option Instant → Status
  | none => .idle
  | some requestedAt => .requested requestedAt (Withdrawal.readyAt requestedAt)

/-- Whether the withdrawal could be carried out at this instant. -/
def Status.isReleased (now : Instant) : Status → Bool
  | .idle => false
  | .requested _ readyAt => readyAt ≤ now

/-- How a status is shown. -/
def Status.text : Status → String
  | .idle => "idle"
  | .requested requestedAt readyAt =>
    s!"requested at {requestedAt.toInt}, ready at {readyAt.toInt}"

/-- Refuses a withdrawal that was not requested or has not aged. -/
def ensureReleased (request : Option Instant) (now : Instant) : Except Error Unit :=
  match request with
  | none => .error .noWithdrawalPending
  | some requestedAt =>
    if now < readyAt requestedAt then .error (.timelockNotElapsed (readyAt requestedAt))
    else .ok ()

end Withdrawal

end SpendGuard
