import SpendGuard.Command.Program
import SpendGuard.Ed25519.Signing
import Std.Time.DateTime.Timestamp

/-!
# The executable

Runs the program against real files, with the system's clock and random bytes. Nothing is
decided here.
-/

namespace SpendGuard

namespace Executable

/-! ### Files -/

/-- What the system says about a file, as a fault. -/
def faultOf : IO.Error → FileFault
  | .noFileOrDirectory .. => .missing
  | .inappropriateType .. => .isFolder
  | e => .stated (toString e)

/-- An action with files, whose errors are faults. -/
def guarded {α : Type} (action : IO α) : IO (Except FileFault α) := do
  try return .ok (← action) catch e => return .error (faultOf e)

/-- The text of a file. -/
def readText (path : String) : IO (Except FileFault String) := do
  match ← guarded (IO.FS.readBinFile path) with
  | .error fault => return .error fault
  | .ok bytes =>
    match String.fromUTF8? bytes with
    | some text => return .ok text
    | none => return .error .notText

/-- Whether there is anything at a path. -/
def isPresent (path : String) : IO Bool := do
  return (← guarded (IO.FS.realPath path)).toBool

/-- Runs a script against real files. -/
def perform {α : Type} : Script α → IO α
  | .done a => return a
  | .print text next => do
    IO.print text
    perform next
  | .probe path next => do perform (next (← isPresent path))
  | .read path next => do perform (next (← readText path))
  | .write path content next => do
    perform (next (← guarded (IO.FS.writeFile path content)))

/-! ### Surroundings -/

/-- Where the system keeps the variables that a process began with. -/
def variablesPath : String := "/proc/self/environ"

/-- A variable as a name and a text. -/
def splitVariable (s : String) : String × String :=
  let cs := s.toList
  (String.ofList (cs.takeWhile (· ≠ '=')), String.ofList ((cs.dropWhile (· ≠ '=')).drop 1))

/-- The variables of the environment. -/
def environment : IO (Table String String) := do
  match ← readText variablesPath with
  | .error _ => return []
  | .ok text => return ((text.splitOn "\x00").filter (· ≠ "")).map splitVariable

/-- What time it is, in seconds. -/
def now : IO Instant := do
  let t ← Std.Time.Timestamp.now
  return Int64.ofInt t.toSecondsSinceUnixEpoch.val

/-- What is given to the program. -/
def occasion : IO Occasion := do
  let secret ← IO.getRandomBytes 32
  return ⟨← now, secret.toList, Ed25519.scheme⟩

/-- Tells what went wrong. -/
def complain : Program.Ending → IO Unit
  | .finished => return ()
  | .failed f => IO.eprintln s!"error: {f.message}"
  | .misused => Usage.ofProgram.forM IO.eprintln

end Executable

end SpendGuard

/-- Runs the program once. -/
def main (arguments : List String) : IO UInt32 := do
  let script := SpendGuard.Program.run (← SpendGuard.Executable.occasion)
    (← SpendGuard.Executable.environment) arguments
  let ending ← SpendGuard.Executable.perform script
  SpendGuard.Executable.complain ending
  return ending.code.toUInt32
