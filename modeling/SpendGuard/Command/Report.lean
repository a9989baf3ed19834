import SpendGuard.Simulation

/-!
# Reports

What the commands print, line by line.
-/

namespace SpendGuard

namespace Report

/-- The heading of a section. -/
def heading (title : String) : List String := ["", s!"=== {title} ===", ""]

/-! ### Ledgers -/

/-- What was spent of the SOL cap of one period. -/
def solLine (label : String) (spent cap left : Amount) : String :=
  s!"SOL {label}: {Sol.text4 spent} / {Sol.text4 cap} SOL (left {Sol.text4 left})"

/-- What was spent of the token cap of one period. -/
def tokenLine (label : String) (spent cap left : Amount) : String :=
  s!"Token {label}: {spent.toNat} / {cap.toNat} (left {left.toNat})"

/-- Where the cooldown stands. -/
def cooldownLine (l : Ledger) (now : Instant) : String :=
  match l.cooldownUntil now with
  | some ends => s!"Cooldown: ACTIVE until {ends.toInt} ({ends.toInt - now.toInt}s left)"
  | none => "Cooldown: inactive"

/-- A saved ledger as it stands at an instant. -/
def ledger (l : Ledger) (now : Instant) : List String :=
  let left := l.allowance now
  let caps := l.profile.limits
  let status := l.withdrawalStatus
  heading "ACCOUNT"
    ++ [s!"Address: {l.address.text}", s!"Owner: {l.profile.owner.text}",
      s!"Dispatcher: {l.profile.dispatcher.text}", s!"Sponsor: {l.profile.sponsor.text}",
      s!"Token mint: {l.profile.tokenMint.text}"]
    ++ heading "SPENDING"
    ++ [solLine "daily" l.state.sol.daily caps.sol.daily left.sol.daily,
      solLine "monthly" l.state.sol.monthly caps.sol.monthly left.sol.monthly,
      tokenLine "daily" l.state.token.daily caps.token.daily left.token.daily,
      tokenLine "monthly" l.state.token.monthly caps.token.monthly left.token.monthly]
    ++ heading "SAFETY"
    ++ [cooldownLine l now, s!"Emergency withdrawal: {status.text}"]
    ++ if status.isReleased now then ["  Timelock elapsed, withdrawal can execute"] else []

/-- That there is no saved ledger. -/
def noLedger (path : String) : List String :=
  [s!"No ledger state at {path}",
    "Run \x60bwallet simulate <scenario> --save\x60 to create one."]

/-! ### Classification and simulation -/

/-- What a permitted call moves. -/
def permitted (spend : Spend) : List String :=
  ["Allowed", s!"  SOL: {spend.sol.toNat} lamports ({Sol.text spend.sol} SOL)",
    s!"  Token: {spend.token.toNat}"]

/-- A number on the right of three places. -/
def placeNumber (n : Nat) : String :=
  let digits := Decimal.natChars n
  String.ofList (List.replicate (3 - digits.length) ' ' ++ digits)

/-- The outcome of the step of a number. -/
def stepLine (number : Nat) (outcome : String) : String := s!"[{placeNumber number}] {outcome}"

/-- The counters at the end of a simulation. -/
def finalState (s : State) : List String :=
  heading "FINAL STATE"
    ++ [s!"SOL: daily {s.sol.daily.toNat} / monthly {s.sol.monthly.toNat} lamports",
      s!"Token: daily {s.token.daily.toNat} / monthly {s.token.monthly.toNat}"]

end Report

end SpendGuard
