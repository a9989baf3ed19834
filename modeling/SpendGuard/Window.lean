import SpendGuard.Asset
import SpendGuard.Instant

/-!
# Accounting windows

What was spent counts within a window: a day or thirty days from an anchor. Windows are reset
lazily. The first request seen at or after a window's end anchors it anew at the time of that
request and forgets what was spent; nothing happens on a calendar.
-/

namespace SpendGuard

/-- An anchored window, and what was spent since. -/
structure Window where
  /-- When the window began. -/
  anchor : Instant
  /-- What was spent in it. -/
  spent : Amount
deriving DecidableEq

/-- Whether a window of the period, anchored here, is over at this instant. -/
def Period.isOver (period : Period) (anchor now : Instant) : Bool :=
  anchor.after period.seconds ≤ now

/-- The window as of this instant: a fresh one if it is over. -/
def Window.roll (period : Period) (now : Instant) (w : Window) : Window :=
  if period.isOver w.anchor now then ⟨now, 0⟩ else w

/-- The daily and the monthly window of one asset. -/
structure Windows where
  /-- The daily window. -/
  daily : Window
  /-- The monthly window. -/
  monthly : Window
deriving DecidableEq

/-- Both windows as of this instant, each on its own. -/
def Windows.roll (now : Instant) (w : Windows) : Windows :=
  ⟨w.daily.roll .daily now, w.monthly.roll .monthly now⟩

/-- What was spent in the two windows. -/
def Windows.counters (w : Windows) : Counters := ⟨w.daily.spent, w.monthly.spent⟩

end SpendGuard
