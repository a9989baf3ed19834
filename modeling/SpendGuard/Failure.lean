import SpendGuard.Error

/-!
# Failures of commands

Why a command of the outer layer cannot be carried out: an error of the account passes through
unchanged, and everything that can be wrong with configurations, scenarios, arguments and files
is a cause of its own.
-/

namespace SpendGuard

/-- What a text that should be a key was given as. -/
inductive KeyUse where
  /-- A field of the configuration. -/
  | configured (field : String)
  /-- The recipient of a step. -/
  | recipient
  /-- The target of a call. -/
  | target
  /-- An account of a call. -/
  | account
deriving DecidableEq

/-- How messages name what a text was given as. -/
def KeyUse.label : KeyUse → String
  | configured field => field ++ " address"
  | recipient => "recipient"
  | target => "target"
  | account => "account"

/-- Why a command cannot be carried out. -/
inductive Failure where
  /-- The account refuses. -/
  | refused (reason : Error)
  /-- A text that should be a key is none. -/
  | badKey (use : KeyUse) (text : String) (reason : KeyError)
  /-- A scenario file cannot be read. -/
  | scenarioUnread (path : String)
  /-- A scenario file holds no scenario. -/
  | scenarioMalformed (path : String)
  /-- A configuration file is not in the expected format. -/
  | configurationMalformed
  /-- A setting has the wrong type. -/
  | configurationMistyped
  /-- A setting that must be positive is zero. -/
  | notPositive (field : String)
  /-- No key is configured for a role. -/
  | notConfigured (role : Role)
  /-- Call data is not in base 64. -/
  | badCallData
  /-- A call is not one of the permitted ones. -/
  | callRejected (reason : Error)
  /-- A saved ledger cannot be loaded. -/
  | notLoaded (reason : Error)
  /-- A ledger cannot be saved. -/
  | notSaved (reason : Error)
deriving DecidableEq

/-- The wording of a failure. -/
def Failure.message : Failure → String
  | refused reason => reason.message
  | badKey use text reason => s!"Invalid {use.label}: {text}: {reason.message}"
  | scenarioUnread path => s!"Failed to read scenario {path}"
  | scenarioMalformed path => s!"Failed to parse scenario {path}"
  | configurationMalformed => "Failed to build configuration"
  | configurationMistyped => "Failed to deserialize configuration"
  | notPositive field => s!"{field} must be positive"
  | notConfigured role => s!"account.{role.label} is not configured"
  | badCallData => "Call data is not valid base64"
  | callRejected reason => s!"Call rejected: {reason.message}"
  | notLoaded reason => s!"Failed to load ledger state: {reason.message}"
  | notSaved reason => s!"Failed to save ledger state: {reason.message}"

/-- The key that a text names, or what is wrong with it. -/
def Key.ofTextAs (use : KeyUse) (text : String) : Except Failure Key :=
  (Key.ofText text).mapError (.badKey use text)

end SpendGuard
