import SpendGuard.Binary64
import SpendGuard.Codec.Basic
import SpendGuard.Json.Parser
import SpendGuard.Scenario

/-!
# The JSON form of scenarios

Steps and transfers are *tagged*: an object names its kind in one member and has the fields of
that kind beside it, and an array has the kind first and then the fields in order. A step is
read as a whole before its kind is known, so everything in it must be well-formed, also what is
then passed over.
-/

namespace SpendGuard

open Json (Value)

/-! ### Tagged values -/

/-- The tag of a value, and the value without it. An object names its tag once. -/
def untag? (tag : String) : Value → Option (Value × Value)
  | .object members =>
    match members.filter (·.1 = some tag) with
    | [m] => some (m.2, .object (members.filter (·.1 ≠ some tag)))
    | _ => none
  | .array (kind :: fields) => some (kind, .array fields)
  | _ => none

/-- Whether a value has no fields that its kind does not know of: an object may have others, an
array may not. -/
def isBare : Value → Bool
  | .object _ => true
  | .array items => items.isEmpty
  | _ => false

/-! ### Transfers and steps -/

/-- The asset that a kind of transfer moves: by name, or by its place among the kinds. -/
def assetOfKind? : Value → Option Asset
  | .text (some "sol") => some .sol
  | .text (some "token") => some .token
  | .int 0 => some .sol
  | .int 1 => some .token
  | _ => none

/-- The field that holds the amount of a transfer. -/
def amountField : Asset → String
  | .sol => "lamports"
  | .token => "amount"

/-- The transfer of a JSON form. -/
def Transfer.decode? (v : Value) : Option Transfer := do
  let (kind, fields) ← untag? "kind" v
  let asset ← assetOfKind? kind
  let [recipient, amount] ← fields? ["to", amountField asset] fields | none
  return ⟨asset, ← defaulted? none recipient, ← required? amount⟩

/-- The transfers of a JSON form. -/
def Transfer.decodeAll? : Option Value → Option (List Transfer)
  | some (.array items) => items.mapM Transfer.decode?
  | _ => none

/-- The step of a kind with these fields. -/
def Step.ofKind? (kind : String) (v : Value) : Option Step :=
  match kind with
  | "advance" => do
    let [secs] ← fields? ["secs"] v | none
    return .advance (← required? secs)
  | "execute" => do
    let [transfers, sponsored] ← fields? ["transfers", "sponsored"] v | none
    return .execute (← Transfer.decodeAll? transfers) (← defaulted? false sponsored)
  | "reclaim" => do
    let [amount, compute] ← fields? ["amount", "compute_units"] v | none
    return .reclaim (← required? amount) (← defaulted? Step.usualCompute compute)
  | "execute_withdraw" => do
    let [recipient] ← fields? ["to"] v | none
    return .executeWithdraw (← defaulted? none recipient)
  | "request_withdraw" => if isBare v then some .requestWithdraw else none
  | "status" => if isBare v then some .status else none
  | _ => none

/-- How deep a step may be nested. -/
def Step.greatestDepth : Nat := 125

/-- Whether everything in a step is well-formed: texts are texts, numbers are in the range of
binary floating point, and nothing is nested too deep. -/
def Step.isWellFormed (v : Value) : Bool :=
  v.every Option.isSome (fun d => (Binary64.ofDecimal d).isFinite) && v.depth ≤ greatestDepth

/-- The step of a JSON form. -/
def Step.decode? (v : Value) : Option Step :=
  if isWellFormed v then do
    let (kind, fields) ← untag? "action" v
    match kind with
    | .text (some kind) => ofKind? kind fields
    | _ => none
  else none

/-! ### Scenarios -/

namespace Scenario

/-- The scenario of a JSON form. -/
def decode? (v : Value) : Option Scenario := do
  let [start, lamports, token, sponsor, steps] ← fields?
    ["start", "fund_lamports", "fund_token", "sponsor_lamports", "steps"] v | none
  let steps ← match steps with
    | some (.array items) => items.mapM Step.decode?
    | _ => none
  return ⟨← defaulted? none start, ← defaulted? 0 lamports, ← defaulted? 0 token,
    ← defaulted? 0 sponsor, steps⟩

/-- The scenario that a text describes. -/
def parse? (text : String) : Option Scenario := (Value.parse? text).bind decode?

end Scenario

end SpendGuard
