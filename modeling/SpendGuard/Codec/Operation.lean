import SpendGuard.Codec.Basic
import SpendGuard.Dispatcher

/-!
# JSON forms of operations and settings

Calls, operations, and the settings of sponsors and dispatchers. Every setting has a default.
-/

namespace SpendGuard

open Json (Value)

instance : Coded Call where
  encode c := .record
    [("target", encode c.target), ("value", encode c.value), ("data", encode c.data),
      ("accounts", encode c.accounts)]
  decode? v := do
    let [target, value, data, accounts] ← fields? ["target", "value", "data", "accounts"] v | none
    return ⟨← required? target, ← required? value, ← defaulted? [] data,
      ← defaulted? [] accounts⟩

instance : Coded Operation where
  encode o := .record
    [("account", encode o.account), ("nonce", encode o.nonce), ("calls", encode o.calls),
      ("paymaster", encode o.paymaster), ("signature", encode o.signature)]
  decode? v := do
    let [account, nonce, calls, paymaster, signature] ← fields?
      ["account", "nonce", "calls", "paymaster", "signature"] v | none
    return ⟨← required? account, ← required? nonce, ← required? calls,
      ← defaulted? none paymaster, ← defaulted? .zero signature⟩

instance : Coded FeeSchedule where
  encode s := .record
    [("max_fee_per_op", encode s.maxFeePerOp), ("base_fee_lamports", encode s.baseFee),
      ("per_call_fee_lamports", encode s.perCallFee)]
  decode? v := do
    let [max, base, perCall] ← fields?
      ["max_fee_per_op", "base_fee_lamports", "per_call_fee_lamports"] v | none
    return ⟨← defaulted? FeeSchedule.standard.maxFeePerOp max,
      ← defaulted? FeeSchedule.standard.baseFee base,
      ← defaulted? FeeSchedule.standard.perCallFee perCall⟩

instance : Coded ComputeBudget where
  encode b := .record
    [("compute_unit_limit", encode b.unitLimit), ("compute_units_per_call", encode b.unitsPerCall)]
  decode? v := do
    let [limit, perCall] ← fields? ["compute_unit_limit", "compute_units_per_call"] v | none
    return ⟨← defaulted? ComputeBudget.standard.unitLimit limit,
      ← defaulted? ComputeBudget.standard.unitsPerCall perCall⟩

end SpendGuard
