import SpendGuard.Codec.Receipt
import SpendGuard.Main
import SpendGuard.Proofs.Policy
import SpendGuard.Proofs.Classification
import SpendGuard.Proofs.Ledger.Request
import SpendGuard.Proofs.Ledger.Run
import SpendGuard.Proofs.Ledger.Counting
import SpendGuard.Proofs.Ledger.SpendingRate
import SpendGuard.Proofs.Chain.Balance
import SpendGuard.Proofs.Chain.Outflow
import SpendGuard.Proofs.Ledger.Outflow
import SpendGuard.Proofs.Ledger.Trace
import SpendGuard.Proofs.Dispatcher.Vetting
import SpendGuard.Proofs.Dispatcher.Turns
import SpendGuard.Proofs.Decimal
import SpendGuard.Proofs.Json.Lexer
import SpendGuard.Proofs.Json.RoundTrip
import SpendGuard.Proofs.Codec.RoundTrip
import SpendGuard.Proofs.Dispatcher.Restart
import SpendGuard.Proofs.Ledger.Replay
import SpendGuard.Proofs.Ledger.Log
import SpendGuard.Proofs.Chain.Transfer
import SpendGuard.Proofs.Ledger.Preflight
import SpendGuard.Proofs.Dispatcher.Settlement
import SpendGuard.Proofs.Dispatcher.Errors
import SpendGuard.Proofs.Dispatcher.Repayment
import SpendGuard.Proofs.Cooldown
import SpendGuard.Proofs.Ledger.Agreement
import SpendGuard.Proofs.Ledger.Caps
import SpendGuard.Proofs.Ledger.Refusal
import SpendGuard.Proofs.Ledger.Cooldown
import SpendGuard.Proofs.Dispatcher.Foresight
import SpendGuard.Proofs.Operation
import SpendGuard.Proofs.Ledger.Timelock
import SpendGuard.Proofs.Ledger.Authority
import SpendGuard.Proofs.Configuration
import SpendGuard.Proofs.Ledger.Exit
import SpendGuard.Proofs.Ledger.Persistence
import SpendGuard.Proofs.Chain.Conservation
import SpendGuard.Proofs.Policy.Allowance
import SpendGuard.Proofs.Policy.Splitting
import SpendGuard.Proofs.Classification.Batch
import SpendGuard.Proofs.Classification.TokenCall
import SpendGuard.Proofs.Ledger.HandedOver
import SpendGuard.Proofs.Ledger.Sweep
import SpendGuard.Proofs.Policy.Retrying
import SpendGuard.Proofs.Sponsor
import SpendGuard.Proofs.Cooldown.Weighing
import SpendGuard.Proofs.Policy.Separation
import SpendGuard.Proofs.AccountAddress
import SpendGuard.Proofs.Window.Rolling
import SpendGuard.Proofs.Gates
import SpendGuard.Proofs.Dispatcher.Answers
import SpendGuard.Proofs.Simulation
