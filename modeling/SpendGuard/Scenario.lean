import SpendGuard.Asset
import SpendGuard.Instant

/-!
# Scenarios

A scenario says how a simulated account is funded and what then happens to it, step by step.
Recipients are kept as they were written: that they name no key is found out only when their
step is run.
-/

namespace SpendGuard

/-- One outgoing transfer. -/
structure Transfer where
  /-- What is sent. -/
  asset : Asset
  /-- Who receives, as written; nobody in particular if missing. Token units go to the
  recipient's token account. -/
  recipient : Option String
  /-- How much. -/
  amount : Amount
deriving DecidableEq

/-- One thing that happens in a scenario. -/
inductive Step where
  /-- Time passes. -/
  | advance (secs : Instant)
  /-- The owner signs an operation that makes transfers. -/
  | execute (transfers : List Transfer) (sponsored : Bool)
  /-- The sponsor is paid back directly. -/
  | reclaim (amount compute : Amount)
  /-- The owner asks for an emergency withdrawal. -/
  | requestWithdraw
  /-- The owner carries out the withdrawal; without a recipient, to itself. -/
  | executeWithdraw (recipient : Option String)
  /-- The account is shown. -/
  | status
deriving DecidableEq

/-- The compute units left for a direct payment that says nothing else. -/
def Step.usualCompute : Amount := 200000

/-- How an account is funded, and what happens to it. -/
structure Scenario where
  /-- When it begins; now, if missing. -/
  start : Option Instant
  /-- Lamports given to the account. -/
  fundLamports : Amount
  /-- Token units given to the account. -/
  fundToken : Amount
  /-- Lamports given to the sponsor. -/
  sponsorLamports : Amount
  /-- What happens. -/
  steps : List Step
deriving DecidableEq

end SpendGuard
