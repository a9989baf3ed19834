import SpendGuard.Codec.Account
import SpendGuard.Codec.Operation

/-!
# JSON forms of answers

Receipts, quotes and allowances are written and never read.
-/

namespace SpendGuard

instance : Encodes Receipt where
  encode r := .record
    [("signature", encode r.signature), ("spend", encode r.spend), ("calls", .int r.calls),
      ("executed_at", encode r.executedAt), ("cooldown_armed", encode r.cooldownArmed)]

instance : Encodes WithdrawalReceipt where
  encode r := .record
    [("signature", encode r.signature), ("recipient", encode r.recipient), ("sol", encode r.sol),
      ("token", encode r.token), ("executed_at", encode r.executedAt)]

instance : Encodes FeeQuote where
  encode q := .record [("lamports", encode q.lamports), ("token", encode q.token)]

instance : Encodes OperationReceipt where
  encode r := .record
    [("nonce", encode r.nonce), ("execution", encode r.execution), ("fee", encode r.fee)]

instance : Encodes Headroom where
  encode h := .record [("daily", encode h.daily), ("monthly", encode h.monthly)]

instance : Encodes Allowance where
  encode a := .record [("sol", encode a.sol), ("token", encode a.token)]

end SpendGuard
