import SpendGuard.Dispatcher
import SpendGuard.Failure
import SpendGuard.Setting

/-!
# Configurations

What can be configured: who has which role, the token and its program, the caps, the fees, the
compute budget, and where the ledger is saved. Every setting has a default; keys are kept as
they were written and are checked by `Configuration.validate`, after which a profile can be made
of them (`profileWith`).
-/

namespace SpendGuard

/-- Who has which role, and what an account is derived from; keys as written. -/
structure AccountSettings where
  /-- Signs operations. -/
  owner : Option String
  /-- Has calls executed. -/
  dispatcher : Option String
  /-- Fronts fees. -/
  sponsor : Option String
  /-- The mint of the tracked token. -/
  tokenMint : String
  /-- The program that keeps the token accounts. -/
  tokenProgram : String
  /-- Token units per SOL. -/
  exchangeRate : Amount
  /-- The program that account addresses are derived under. -/
  program : String
  /-- The salt of the account's address. -/
  salt : Amount
deriving DecidableEq

/-- The settings of an account that was not told otherwise. -/
def AccountSettings.standard : AccountSettings where
  owner := none
  dispatcher := none
  sponsor := none
  tokenMint := "EPjFWdd5AufqSSqeM2qN1xzybapC8G4wEGGkZwyTDt1v"
  tokenProgram := "TokenkegQfeZyiNwAJbNbGKPFXCWuBvf9Ss623VQ5DA"
  exchangeRate := 150000000
  program := "11111111111111111111111111111111"
  salt := 0

/-- The caps of an account that was not told otherwise. -/
def Limits.standard : Limits := ⟨⟨1000000000, 10000000000⟩, ⟨100000000, 1000000000⟩⟩

/-- Everything that is configured. -/
structure Configuration where
  /-- Roles, token and address. -/
  account : AccountSettings
  /-- The caps. -/
  limits : Limits
  /-- What the sponsor charges. -/
  fees : FeeSchedule
  /-- How much compute an operation is granted. -/
  budget : ComputeBudget
  /-- Where the ledger is saved. -/
  statePath : String
deriving DecidableEq

namespace Configuration

/-- Where a ledger is saved if nothing else is said. -/
def standardPath : String := "ledger.json"

/-! ### Reading settings -/

/-- The value of a field, or its default where it is missing. -/
def fieldOr {α : Type} (read : Setting → Option α) (default : α) : Option Setting → Option α
  | none => some default
  | some s => read s

/-- The settings of an account, by name or by place. -/
def account? (s : Setting) : Option AccountSettings := do
  let d := AccountSettings.standard
  let [owner, dispatcher, sponsor, mint, tokenProgram, rate, program, salt] ← s.fields?
    ["owner", "dispatcher", "sponsor", "token_mint", "token_program", "exchange_rate",
      "program_id", "salt"] | none
  return ⟨← fieldOr Setting.optionalText? d.owner owner,
    ← fieldOr Setting.optionalText? d.dispatcher dispatcher,
    ← fieldOr Setting.optionalText? d.sponsor sponsor,
    ← fieldOr Setting.text? d.tokenMint mint,
    ← fieldOr Setting.text? d.tokenProgram tokenProgram,
    ← fieldOr Setting.amount? d.exchangeRate rate,
    ← fieldOr Setting.text? d.program program, ← fieldOr Setting.amount? d.salt salt⟩

/-- The caps, by name or by place. -/
def limits? (s : Setting) : Option Limits := do
  let d := Limits.standard
  let [dailySol, monthlySol, dailyToken, monthlyToken] ← s.fields?
    ["daily_sol_lamports", "monthly_sol_lamports", "daily_token", "monthly_token"] | none
  return ⟨⟨← fieldOr Setting.amount? d.sol.daily dailySol,
      ← fieldOr Setting.amount? d.sol.monthly monthlySol⟩,
    ⟨← fieldOr Setting.amount? d.token.daily dailyToken,
      ← fieldOr Setting.amount? d.token.monthly monthlyToken⟩⟩

/-- The fees, by name or by place. -/
def fees? (s : Setting) : Option FeeSchedule := do
  let d := FeeSchedule.standard
  let [max, base, perCall] ← s.fields?
    ["max_fee_per_op", "base_fee_lamports", "per_call_fee_lamports"] | none
  return ⟨← fieldOr Setting.amount? d.maxFeePerOp max,
    ← fieldOr Setting.amount? d.baseFee base, ← fieldOr Setting.amount? d.perCallFee perCall⟩

/-- The compute budget, by name or by place. -/
def budget? (s : Setting) : Option ComputeBudget := do
  let d := ComputeBudget.standard
  let [limit, perCall] ← s.fields? ["compute_unit_limit", "compute_units_per_call"] | none
  return ⟨← fieldOr Setting.amount? d.unitLimit limit,
    ← fieldOr Setting.amount? d.unitsPerCall perCall⟩

/-- The path of the saved ledger, by name or by place. -/
def statePath? (s : Setting) : Option String := do
  let [path] ← s.fields? ["path"] | none
  fieldOr Setting.text? standardPath path

/-- The configuration that settings describe. -/
def ofSetting? (s : Setting) : Option Configuration := do
  let [account, limits, fees, budget, state] ← s.fields?
    ["account", "limits", "sponsor", "dispatcher", "state"] | none
  return ⟨← fieldOr account? .standard account, ← fieldOr limits? .standard limits,
    ← fieldOr fees? .standard fees, ← fieldOr budget? .standard budget,
    ← fieldOr statePath? standardPath state⟩

/-! ### Validation -/

/-- Whether a configured key that may be missing is one. -/
def checkOptional (field : String) (text : Option String) : Except Failure Unit :=
  match text with
  | none => .ok ()
  | some text => (Key.ofTextAs (.configured field) text).map fun _ => ()

/-- Refuses zero. -/
def checkPositive (field : String) (amount : Amount) : Except Failure Unit :=
  if amount = 0 then .error (.notPositive field) else .ok ()

/-- Refuses a configuration with a text that should be a key and is none, or with a zero that
must be positive. -/
def validate (c : Configuration) : Except Failure Unit := do
  checkOptional "owner" c.account.owner
  checkOptional "dispatcher" c.account.dispatcher
  checkOptional "sponsor" c.account.sponsor
  checkOptional "token_mint" (some c.account.tokenMint)
  checkOptional "token_program" (some c.account.tokenProgram)
  checkOptional "program_id" (some c.account.program)
  checkPositive "exchange_rate" c.account.exchangeRate
  checkPositive "compute_unit_limit" c.budget.unitLimit
  checkPositive "compute_units_per_call" c.budget.unitsPerCall

/-! ### Keys and profiles -/

/-- The token program. -/
def tokenProgram (c : Configuration) : Except Failure Key :=
  Key.ofTextAs (.configured "token_program") c.account.tokenProgram

/-- The program that addresses are derived under. -/
def program (c : Configuration) : Except Failure Key :=
  Key.ofTextAs (.configured "program_id") c.account.program

/-- What is written for a role. -/
def textOf (c : Configuration) : Role → Option String
  | .owner => c.account.owner
  | .dispatcher => c.account.dispatcher
  | .sponsor => c.account.sponsor

/-- The roles that nothing is written for, in the order in which a profile asks for them. -/
def openRoles (c : Configuration) : List Role :=
  [Role.owner, .dispatcher, .sponsor].filter fun r => (c.textOf r).isNone

/-- The key of a role; `missing` tells it where nothing is written. -/
def identity (c : Configuration) (missing : Role → Except Failure Key) (role : Role) :
    Except Failure Key :=
  match c.textOf role with
  | some text => Key.ofTextAs (.configured role.label) text
  | none => missing role

/-- The profile that a configuration describes; `missing` tells the keys of roles that nothing
is written for. -/
def profileWith (c : Configuration) (missing : Role → Except Failure Key) :
    Except Failure Profile := do
  let owner ← c.identity missing .owner
  let dispatcher ← c.identity missing .dispatcher
  let sponsor ← c.identity missing .sponsor
  let tokenMint ← Key.ofTextAs (.configured "token_mint") c.account.tokenMint
  let tokenProgram ← c.tokenProgram
  return { owner, dispatcher, sponsor, tokenMint, tokenProgram, limits := c.limits
           exchangeRate := c.account.exchangeRate }

/-- The profile of a configuration with a key for every role. -/
def profile (c : Configuration) : Except Failure Profile :=
  c.profileWith fun role => .error (.notConfigured role)

/-! ### Showing -/

/-- How a role is shown. -/
def identityText (text : Option String) : String := text.getD "(not set)"

/-- How a configuration is shown. -/
def text (c : Configuration) : String :=
  let a := c.account
  String.intercalate "\n"
    ["Configuration:",
      "  Account:",
      s!"    owner: {identityText a.owner}",
      s!"    dispatcher: {identityText a.dispatcher}",
      s!"    sponsor: {identityText a.sponsor}",
      s!"    token_mint: {a.tokenMint}",
      s!"    token_program: {a.tokenProgram}",
      s!"    exchange_rate: {a.exchangeRate.toNat} units/SOL",
      s!"    program_id: {a.program}",
      s!"    salt: {a.salt.toNat}",
      "  Limits:",
      s!"    daily SOL: {c.limits.sol.daily.toNat} lamports",
      s!"    monthly SOL: {c.limits.sol.monthly.toNat} lamports",
      s!"    daily token: {c.limits.token.daily.toNat}",
      s!"    monthly token: {c.limits.token.monthly.toNat}",
      "  Sponsor:",
      s!"    max_fee_per_op: {c.fees.maxFeePerOp.toNat}",
      s!"    base_fee: {c.fees.baseFee.toNat} lamports",
      s!"    per_call_fee: {c.fees.perCallFee.toNat} lamports",
      "  Dispatcher:",
      s!"    compute_unit_limit: {c.budget.unitLimit.toNat}",
      s!"    compute_units_per_call: {c.budget.unitsPerCall.toNat}",
      "  State:",
      s!"    path: {c.statePath}",
      ""]

end Configuration

end SpendGuard
