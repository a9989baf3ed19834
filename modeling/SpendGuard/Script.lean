import SpendGuard.Error
import SpendGuard.Table

/-!
# Scripts

A command prints lines and reads and writes files. A *script* says which, and what it does
depends on what it finds; it does nothing by itself. It can be run against files kept in memory
(`Script.runIn`), which is what statements about commands are about, or against real ones.
-/

namespace SpendGuard

/-- Why a file cannot be read or written. -/
inductive FileFault where
  /-- There is no such file, or no folder to put it in. -/
  | missing
  /-- The path names a folder. -/
  | isFolder
  /-- The path goes through something that is no folder. -/
  | notFolder
  /-- The bytes of the file are no text. -/
  | notText
  /-- Another fault, in the system's words. -/
  | stated (text : String)
deriving DecidableEq

/-- The wording of a fault. -/
def FileFault.message : FileFault → String
  | missing => "No such file or directory (os error 2)"
  | isFolder => "Is a directory (os error 21)"
  | notFolder => "Not a directory (os error 20)"
  | notText => "stream did not contain valid UTF-8"
  | stated text => text

/-- A fault as an error. -/
def FileFault.error (f : FileFault) : Error := .file f.message

/-- What a command does, up to its result. -/
inductive Script (α : Type) where
  /-- It is done. -/
  | done (result : α)
  /-- It prints text. -/
  | print (text : String) (next : Script α)
  /-- It asks whether there is anything at a path. -/
  | probe (path : String) (next : Bool → Script α)
  /-- It reads a file. -/
  | read (path : String) (next : Except FileFault String → Script α)
  /-- It writes a file. -/
  | write (path content : String) (next : Except FileFault Unit → Script α)

namespace Script

/-- One script after another. -/
protected def bind {α β : Type} (s : Script α) (f : α → Script β) : Script β :=
  match s with
  | done a => f a
  | print text next => print text (next.bind f)
  | probe path next => probe path fun b => (next b).bind f
  | read path next => read path fun r => (next r).bind f
  | write path content next => write path content fun r => (next r).bind f

instance : Monad Script where
  pure := done
  bind := Script.bind

/-- Prints a line. -/
def line (text : String) : Script Unit := print (text ++ "\n") (done ())

/-- Prints lines. -/
def lines : List String → Script Unit
  | [] => done ()
  | text :: rest => print (text ++ "\n") (lines rest)

/-- Whether there is anything at a path. -/
def present (path : String) : Script Bool := probe path done

/-- The content of a file. -/
def contentOf (path : String) : Script (Except FileFault String) := read path done

/-- Puts content into a file. -/
def store (path content : String) : Script (Except FileFault Unit) := write path content done

end Script

/-! ### Files in memory -/

/-- A folder of files, by name. -/
abbrev Folder := Table String String

namespace Folder

/-- What a path leads to within one folder. -/
inductive Spot where
  /-- The folder itself. -/
  | folder
  /-- A file of it, which may not exist. -/
  | file (name : String)
  /-- Nowhere. -/
  | nowhere (fault : FileFault)

/-- The parts of a path: points for the folder itself are left out. -/
def parts (path : String) : List String :=
  ((path.toList.splitBy fun a b => a ≠ '/' && b ≠ '/').map String.ofList).filter
    fun p => p ≠ "/" && p ≠ "."

/-- Where a path leads. There are no folders within the folder, and nothing outside of it. -/
def spot (folder : Folder) (path : String) : Spot :=
  if path.isEmpty || path.front = '/' then .nowhere .missing
  else match parts path with
    | [] => .folder
    | [name] => .file name
    | name :: _ =>
      if (Table.get? folder name).isSome then .nowhere .notFolder else .nowhere .missing

/-- Whether there is anything at a path. -/
def present (folder : Folder) (path : String) : Bool :=
  match folder.spot path with
  | .folder => true
  | .file name => (Table.get? folder name).isSome
  | .nowhere _ => false

/-- The content of the file at a path. -/
def contentOf (folder : Folder) (path : String) : Except FileFault String :=
  match folder.spot path with
  | .folder => .error .isFolder
  | .file name =>
    match Table.get? folder name with
    | some content => .ok content
    | none => .error .missing
  | .nowhere fault => .error fault

/-- The folder with content put into the file at a path. -/
def store (folder : Folder) (path content : String) : Except FileFault Folder :=
  match folder.spot path with
  | .folder => .error .isFolder
  | .file name => .ok (Table.put folder name content)
  | .nowhere fault => .error fault

end Folder

/-- Runs a script in a folder: its result, everything printed, and the folder afterwards. -/
def Script.runIn {α : Type} (folder : Folder) : Script α → α × String × Folder
  | done a => (a, "", folder)
  | print text next =>
    let (a, printed, folder) := next.runIn folder
    (a, text ++ printed, folder)
  | probe path next => (next (folder.present path)).runIn folder
  | read path next => (next (folder.contentOf path)).runIn folder
  | write path content next =>
    match folder.store path content with
    | .ok folder => (next (.ok ())).runIn folder
    | .error fault => (next (.error fault)).runIn folder

end SpendGuard
