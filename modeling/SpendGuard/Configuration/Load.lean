import SpendGuard.Configuration
import SpendGuard.Setting.Sources

/-!
# Loading configurations

A configuration is put together from defaults, a document and variables, each overriding the
one before, and is then read and validated.
-/

namespace SpendGuard

namespace Configuration

/-- What is set before any source has its say. -/
def baseline : Setting :=
  .table
    [("account", .table [("exchange_rate", .int AccountSettings.standard.exchangeRate.toNat)]),
      ("state", .table [("path", .text standardPath)])]

/-- All settings: the sources are put on top of each other first, and then on the defaults. -/
def settings (document : List (String × Setting)) (environment : Table String String) : Setting :=
  let sources := ((Setting.table []).layer document).layer (Setting.ofVariables environment)
  baseline.layer sources.entries

/-- The configuration that a document, if there is one, and variables describe. -/
def load (document : Option String) (environment : Table String String) :
    Except Failure Configuration :=
  match Toml.parse? (document.getD "") with
  | none => .error .configurationMalformed
  | some entries =>
    match ofSetting? (settings (Setting.ofTomlEntries entries) environment) with
    | none => .error .configurationMistyped
    | some c => c.validate.map fun _ => c

end Configuration

end SpendGuard
