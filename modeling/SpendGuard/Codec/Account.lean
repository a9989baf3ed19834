import SpendGuard.Codec.Basic
import SpendGuard.Json.Parser
import SpendGuard.Json.Printer
import SpendGuard.Ledger

/-!
# JSON forms of accounts

The records that a ledger consists of, down to assets and counters. A ledger is saved as indented
JSON and read back from any layout.
-/

namespace SpendGuard

open Json (Value)

/-- An asset is its name in lower case, or an object with that name as its only key. -/
instance : Coded Asset where
  encode
    | .sol => .string "sol"
    | .token => .string "token"
  decode? v :=
    let named : Option String := match v with
      | .text s => s
      | .object [(s, .null)] => s
      | _ => none
    match named with
    | some "sol" => some .sol
    | some "token" => some .token
    | _ => none

instance : Coded Spend where
  encode s := .record [("sol", encode s.sol), ("token", encode s.token)]
  decode? v := do
    let [sol, token] ← fields? ["sol", "token"] v | none
    return ⟨← required? sol, ← required? token⟩

instance : Coded Counters where
  encode c := .record [("daily", encode c.daily), ("monthly", encode c.monthly)]
  decode? v := do
    let [daily, monthly] ← fields? ["daily", "monthly"] v | none
    return ⟨← required? daily, ← required? monthly⟩

instance : Coded Caps where
  encode c := .record [("daily", encode c.daily), ("monthly", encode c.monthly)]
  decode? v := do
    let [daily, monthly] ← fields? ["daily", "monthly"] v | none
    return ⟨← required? daily, ← required? monthly⟩

instance : Coded Limits where
  encode l := .record [("sol", encode l.sol), ("token", encode l.token)]
  decode? v := do
    let [sol, token] ← fields? ["sol", "token"] v | none
    return ⟨← required? sol, ← required? token⟩

instance : Coded Profile where
  encode p := .record
    [("owner", encode p.owner), ("dispatcher", encode p.dispatcher),
      ("sponsor", encode p.sponsor), ("token_mint", encode p.tokenMint),
      ("token_program", encode p.tokenProgram), ("exchange_rate", encode p.exchangeRate),
      ("limits", encode p.limits)]
  decode? v := do
    let [owner, dispatcher, sponsor, mint, program, rate, limits] ← fields?
      ["owner", "dispatcher", "sponsor", "token_mint", "token_program", "exchange_rate",
        "limits"] v | none
    return ⟨← required? owner, ← required? dispatcher, ← required? sponsor, ← required? mint,
      ← required? program, ← required? rate, ← required? limits⟩

instance : Coded State where
  encode s := .record
    [("sol", encode s.sol), ("token", encode s.token), ("last_daily_reset", encode s.dailyAnchor),
      ("last_monthly_reset", encode s.monthlyAnchor),
      ("last_large_spend", encode s.lastLargeSpend),
      ("withdraw_requested_at", encode s.withdrawRequestedAt)]
  decode? v := do
    let [sol, token, daily, monthly, large, withdraw] ← fields?
      ["sol", "token", "last_daily_reset", "last_monthly_reset", "last_large_spend",
        "withdraw_requested_at"] v | none
    return ⟨← required? sol, ← required? token, ← required? daily, ← required? monthly,
      ← defaulted? none large, ← defaulted? none withdraw⟩

instance : Coded Ledger where
  encode l := .record
    [("address", encode l.address), ("profile", encode l.profile), ("state", encode l.state)]
  decode? v := do
    let [address, profile, state] ← fields? ["address", "profile", "state"] v | none
    return ⟨← required? address, ← required? profile, ← required? state⟩

/-! ### Saved ledgers -/

namespace Ledger

/-- The text a ledger is saved as. -/
def save (l : Ledger) : String := (encode l).render .indented

/-- The wording for a text that is no saved ledger. -/
def unreadableText : String := "Failed to parse ledger state"

/-- The ledger that a text saves. -/
def load (text : String) : Except Error Ledger :=
  match (Json.Value.parse? text).bind decode? with
  | some l => .ok l
  | none => .error (.decoding unreadableText)

end Ledger

end SpendGuard
