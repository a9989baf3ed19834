import SpendGuard.Setting.Path
import SpendGuard.Toml.Reader

/-!
# Sources of settings

Settings come from a TOML document and from variables of the environment. A variable named
`bwallet__account__owner`, in any case, sets `account.owner`; its text is taken as a truth
value, a number or a text, whichever fits first.
-/

namespace SpendGuard

namespace Setting

/-! ### Documents -/

mutual

/-- A value of a document as a setting. -/
def ofToml : Toml.Value → Setting
  | .text s => .text s
  | .int i => .int i
  | .real x => .real x
  | .bool b => .bool b
  | .moment s => .text s
  | .array items => .array (ofTomlItems items)
  | .table entries => .table (ofTomlEntries entries)

/-- The items of an array as settings. -/
def ofTomlItems : List Toml.Value → List Setting
  | [] => []
  | v :: rest => ofToml v :: ofTomlItems rest

/-- The entries of a table as settings. -/
def ofTomlEntries : List (String × Toml.Value) → List (String × Setting)
  | [] => []
  | e :: rest => (e.1, ofToml e.2) :: ofTomlEntries rest

end

/-! ### Variables -/

/-- What the names of variables begin with, in lower case. -/
def variableMark : List Char := "bwallet__".toList

/-- A name with a point for every two underscores. -/
def pointed : List Char → List Char
  | '_' :: '_' :: rest => '.' :: pointed rest
  | c :: rest => c :: pointed rest
  | [] => []

/-- What is left of a text after what it begins with. -/
def dropMark? : (mark cs : List Char) → Option (List Char)
  | [], cs => some cs
  | m :: mark, c :: cs => if c = m then dropMark? mark cs else none
  | _ :: _, [] => none

/-- The setting that a variable's text stands for. -/
def ofVariable (s : String) : Setting :=
  match lower s with
  | "true" => .bool true
  | "false" => .bool false
  | _ =>
    match (integerText? ['+', '-'] s).bind SignedWord.fit? with
    | some i => .int i
    | none =>
      match Binary64.ofText? s with
      | some x => .real x
      | none => .text s

/-- The settings that variables make, each named by a path. -/
def ofVariables (environment : Table String String) : List (String × Setting) :=
  environment.filterMap fun v =>
    (dropMark? variableMark (lower v.1).toList).map fun name =>
      (String.ofList (pointed name), ofVariable v.2)

end Setting

end SpendGuard
