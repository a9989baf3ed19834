import SpendGuard.Base64
import SpendGuard.Codec.Account
import SpendGuard.Codec.Scenario
import SpendGuard.Command.Form
import SpendGuard.Command.Report
import SpendGuard.Configuration.Load
import SpendGuard.Script
import SpendGuard.Simulation

/-!
# Carrying out commands

What each command prints, reads and writes. What a command needs from outside, the time, an
owner's secret and a way to sign, is in its `Occasion`.
-/

namespace SpendGuard

/-- What is given when a command is carried out. -/
structure Occasion where
  /-- What time it is. -/
  now : Instant
  /-- A secret for the owner of a simulation. -/
  secret : List UInt8
  /-- How operations are signed. -/
  scheme : SignatureScheme

namespace Command

/-! ### The saved ledger -/

/-- The ledger that a file holds. -/
def loadLedger (path : String) : Script (Except Error Ledger) := do
  match ← Script.contentOf path with
  | .error fault => return .error fault.error
  | .ok text => return Ledger.load text

/-- Shows the saved ledger. -/
def showStatus (now : Instant) (path : String) : Script (Except Failure Unit) := do
  if ← Script.present path then
    match ← loadLedger path with
    | .error e => return .error (.notLoaded e)
    | .ok l =>
      Script.lines (Report.ledger l now)
      return .ok ()
  else
    Script.lines (Report.noLedger path)
    return .ok ()

/-! ### Classification -/

/-- The call that arguments describe. -/
def describedCall (target : String) (value : Amount) (data : Option String)
    (accounts : List String) : Except Failure Call := do
  let target ← Key.ofTextAs .target target
  let data ← match data with
    | none => pure []
    | some text =>
      match Base64.decode? text with
      | some bytes => pure bytes
      | none => throw .badCallData
  let accounts ← accounts.mapM (Key.ofTextAs .account)
  return ⟨target, value, data, accounts⟩

/-- Tells whether a call would be permitted. -/
def showClassification (c : Configuration) (call : Except Failure Call) :
    Script (Except Failure Unit) := do
  match call with
  | .error f => return .error f
  | .ok call =>
    Script.lines (Report.heading "CLASSIFICATION")
    match c.tokenProgram with
    | .error f => return .error f
    | .ok program =>
      match call.classify program with
      | .ok spend =>
        Script.lines (Report.permitted spend)
        return .ok ()
      | .error e =>
        Script.line s!"Rejected: {e.message}"
        return .error (.callRejected e)

/-! ### Simulation -/

/-- The scenario that a file holds. -/
def loadScenario (path : String) : Script (Except Failure Scenario) := do
  match ← Script.contentOf path with
  | .error _ => return .error (.scenarioUnread path)
  | .ok text =>
    match Scenario.parse? text with
    | some s => return .ok s
    | none => return .error (.scenarioMalformed path)

/-- Runs steps, the first of which has the given number, until one fails. -/
def runSteps (scheme : SignatureScheme) (number : Nat) (s : Simulation) :
    List Step → Script (Except Failure Simulation)
  | [] => return .ok s
  | step :: rest =>
    match s.step scheme step with
    | (.error f, _) => return .error f
    | (.ok outcome, s) => do
      Script.line (Report.stepLine number outcome)
      runSteps scheme (number + 1) s rest

/-- Saves a ledger and says so. -/
def saveLedger (path : String) (l : Ledger) : Script (Except Failure Unit) := do
  match ← Script.store path l.save with
  | .error fault => return .error (.notSaved fault.error)
  | .ok () =>
    Script.lines ["", s!"Saved to {path}"]
    return .ok ()

/-- Runs a simulation from its beginning. -/
def showSimulation (scheme : SignatureScheme) (path : String) (s : Simulation)
    (steps : List Step) (save : Bool) : Script (Except Failure Unit) := do
  Script.lines (Report.heading "SIMULATION" ++ [s!"Account: {s.ledger.address.text}", ""])
  match ← runSteps scheme 1 s steps with
  | .error f => return .error f
  | .ok s =>
    Script.lines (Report.finalState s.ledger.state)
    if save then saveLedger path s.ledger else return .ok ()

/-- Runs a scenario. -/
def simulateFile (o : Occasion) (c : Configuration) (path : String) (save : Bool) :
    Script (Except Failure Unit) := do
  match ← loadScenario path with
  | .error f => return .error f
  | .ok scenario =>
    match Simulation.start o.scheme o.secret o.now c scenario with
    | .error f => return .error f
    | .ok s => showSimulation o.scheme c.statePath s scenario.steps save

/-! ### All commands -/

/-- Carries out a command. -/
def perform (o : Occasion) (c : Configuration) : Command → Script (Except Failure Unit)
  | config => do
    Script.line c.text
    return .ok ()
  | status => showStatus o.now c.statePath
  | classify target value data accounts =>
    showClassification c (describedCall target value data accounts)
  | simulate scenario save => simulateFile o c scenario save

end Command

end SpendGuard
