import SpendGuard.Amount

/-!
# Commands and their forms

What can be asked for on the command line, and how it is written. A *switch* begins with a hyphen,
everything else on a command line is a word. The *form* of a command tells which switches it
understands, in the order in which they are explained, and which words it needs.
-/

namespace SpendGuard

/-! ### Commands -/

/-- A command and what it needs. -/
inductive Command where
  /-- Show the configuration. -/
  | config
  /-- Show the saved ledger. -/
  | status
  /-- Tell whether a call would be permitted and what it would move. -/
  | classify (target : String) (value : Amount) (data : Option String) (accounts : List String)
  /-- Run a scenario, and save the ledger afterwards or not. -/
  | simulate (scenario : String) (save : Bool)
deriving DecidableEq

/-- A command, and the configuration file it is run with. -/
structure Invocation where
  /-- The configuration file. -/
  configuration : String
  /-- The command. -/
  command : Command
deriving DecidableEq

/-- The configuration file if no other is named. -/
def Invocation.standardConfiguration : String := "wallet.toml"

/-! ### Forms -/

/-- What a switch is for. -/
inductive Purpose where
  /-- It is given or not. -/
  | flag
  /-- It has a text, and is given at most once. -/
  | text
  /-- It has an amount, and is given at most once. -/
  | amount
  /-- It has texts set apart by commas, and may be given again. -/
  | texts
  /-- It asks for an explanation. -/
  | help
  /-- It asks for the version. -/
  | version
deriving DecidableEq

/-- Whether a switch for this purpose has a value. -/
def Purpose.hasValue : Purpose → Bool
  | text | amount | texts => true
  | flag | help | version => false

/-- A switch that is understood. -/
structure Switch where
  /-- Its name, which two hyphens precede. -/
  name : String
  /-- Its letter, which one hyphen precedes. -/
  letter : Option Char
  /-- What it is for. -/
  purpose : Purpose
  /-- Whether it has to be given. -/
  required : Bool
  /-- What is said about it. -/
  about : String
deriving DecidableEq

/-- A switch without a letter that may be left out. -/
def Switch.optional (name : String) (purpose : Purpose) (about : String) : Switch :=
  ⟨name, none, purpose, false, about⟩

/-- What a command understands. -/
structure Form where
  /-- The name of the command. -/
  name : String
  /-- What is said about it. -/
  about : String
  /-- The words it needs: their names, and what is said about them. -/
  words : List (String × String)
  /-- Its switches. -/
  switches : List Switch
deriving DecidableEq

/-! ### Switches of several commands -/

/-- Asks for an explanation. -/
def helpSwitch : Switch := ⟨"help", some 'h', .help, false, "Print help"⟩

/-- Asks for the version. -/
def versionSwitch : Switch := ⟨"version", some 'V', .version, false, "Print version"⟩

/-- Asks for another form of the log, which is not part of the output; understood everywhere. -/
def logSwitch : Switch := .optional "json-logs" .flag "Emit logs as JSON"

namespace Form

/-! ### The program and its commands -/

/-- The program, up to the name of a command. -/
def program : Form where
  name := "bwallet"
  about := "Bounded-authority Solana spending account with hard caps, cooldown and "
    ++ "timelocked withdrawal"
  words := [("COMMAND", "")]
  switches :=
    [⟨"config", some 'c', .text, false, "Path to config file [default: wallet.toml]"⟩, logSwitch,
      helpSwitch, versionSwitch]

/-- Showing the configuration. -/
def config : Form :=
  ⟨"config", "Show current configuration", [], [logSwitch, helpSwitch]⟩

/-- Showing the saved ledger. -/
def status : Form :=
  ⟨"status", "Show persisted counters, allowance, cooldown and withdrawal status", [],
    [logSwitch, helpSwitch]⟩

/-- Classifying a call. -/
def classify : Form where
  name := "classify"
  about := "Check whether a call would be allowed and what it would spend"
  words := []
  switches :=
    [⟨"target", none, .text, true, "Program or recipient address"⟩, logSwitch,
      .optional "value" .amount "Lamports attached to the call [default: 0]",
      .optional "data" .text "Instruction data, base64",
      .optional "accounts" .texts "Instruction accounts, comma separated", helpSwitch]

/-- Running a scenario. -/
def simulate : Form where
  name := "simulate"
  about := "Replay a JSON scenario against an in-memory chain"
  words := [("SCENARIO", "Scenario file")]
  switches :=
    [.optional "save" .flag "Persist the final ledger state to the configured path", logSwitch,
      helpSwitch]

/-- Explaining a command. -/
def help : Form where
  name := "help"
  about := "Print this message or the help of the given subcommand(s)"
  words := [("COMMAND", "Print help for the subcommand(s)")]
  switches := []

/-- All commands. -/
def all : List Form := [config, status, classify, simulate, help]

/-- The command of a name. -/
def named? (name : String) : Option Form := all.find? fun f => f.name = name

end Form

end SpendGuard
