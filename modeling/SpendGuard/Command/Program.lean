import SpendGuard.Command.Arguments
import SpendGuard.Command.Perform
import SpendGuard.Command.Usage
import SpendGuard.Setting.VariableFile

/-!
# The program

One run of the program: variables are read from a file if there is one, the arguments say what
is asked for, a configuration is put together, and the command is carried out.
-/

namespace SpendGuard

namespace Program

/-- How a run ends. -/
inductive Ending where
  /-- All is done. -/
  | finished
  /-- The configuration or the command failed. -/
  | failed (reason : Failure)
  /-- The arguments make no sense. -/
  | misused
deriving DecidableEq

/-- The exit code of an ending. -/
def Ending.code : Ending → UInt8
  | finished => 0
  | failed _ => 1
  | misused => 2

/-- What the program says about its version. -/
def versionText : String := Form.program.name ++ " 0.1.0"

/-! ### Files that are looked for -/

/-- What follows the last point in a file name, unless it begins the name. -/
def extensionOf (path : String) : Option String :=
  let name := (path.toList.reverse.takeWhile (· ≠ '/')).reverse
  let ending := (name.reverse.takeWhile (· ≠ '.')).reverse
  if ending.length + 1 < name.length then some (String.ofList ending) else none

/-- The document of a configuration: the file of the path, if its name says that it is TOML, or else
the file whose name adds that to the path. Without either there is none. Files whose names say that
they are in another format, which the program can read, too, are ignored here. -/
def document (path : String) : Script (Option String) := do
  match ← Script.contentOf path with
  | .ok text => return if extensionOf path = some "toml" then some text else none
  | .error .notText => return none
  | .error _ => return (← Script.contentOf (path ++ ".toml")).toOption

/-- The file of variables. -/
def variableFile : String := ".env"

/-- How many folders further up the file of variables is looked for. -/
def upwardLimit : Nat := 64

/-- The text of the file of variables in the folder or in one of those above it. -/
def findVariables : (levels : Nat) → (path : String) → Script (Option String)
  | 0, _ => return none
  | levels + 1, path => do
    match ← Script.contentOf path with
    | .ok text => return some text
    | .error .notText => return none
    | .error _ => findVariables levels ("../" ++ path)

/-! ### Runs -/

/-- Carries out an invocation. -/
def invoke (o : Occasion) (environment : Table String String) (i : Invocation) :
    Script Ending := do
  match Configuration.load (← document i.configuration) environment with
  | .error f => return .failed f
  | .ok c =>
    match ← i.command.perform o c with
    | .error f => return .failed f
    | .ok () => return .finished

/-- One run of the program with these arguments. -/
def run (o : Occasion) (environment : Table String String) (arguments : List String) :
    Script Ending := do
  let environment ← match ← findVariables upwardLimit variableFile with
    | some text => pure (VariableFile.extend environment text)
    | none => pure environment
  match Arguments.read arguments with
  | .error .wrong => return .misused
  | .error (.help none) =>
    Script.lines Usage.ofProgram
    return .finished
  | .error (.help (some f)) =>
    Script.lines (Usage.ofCommand f)
    return .finished
  | .error .version =>
    Script.line versionText
    return .finished
  | .ok i => invoke o environment i

end Program

end SpendGuard
