import SpendGuard.Binary64.Text
import SpendGuard.Table

/-!
# Settings

Settings come from several sources and are put together before anyone asks what they mean. They
form a tree of tables whose keys ignore case; a later source overrides an earlier one value by
value, and tables are merged. A value is read as what is asked for: a number may be written as
a text, a truth value or a fraction, and a text as any single value.
-/

namespace SpendGuard

/-- A value that has been set. -/
inductive Setting where
  /-- A place that exists but was not set. -/
  | unset
  | bool (b : Bool)
  | int (i : Int)
  | real (x : Binary64)
  | text (s : String)
  | array (items : List Setting)
  | table (entries : List (String × Setting))

namespace Setting

/-! ### Keys -/

/-- The lower case of a character. Keys that anyone asks for consist of the letters `a` to `z`
and underscores, and beside their capitals only the kelvin sign has one of them as its lower
case. -/
def lowerChar (c : Char) : Char := if c.toNat = 0x212A then 'k' else c.toLower

/-- The lower case of a key. -/
def lower (s : String) : String := String.ofList (s.toList.map lowerChar)

/-! ### Merging -/

/-- The entries of a table; none if the value is no table. -/
def entries : Setting → Table String Setting
  | .table entries => entries
  | _ => []

mutual

/-- A table with a value set under a key. A table is merged into what is there. -/
def insert (target : Setting) (key : String) : (value : Setting) → Setting
  | .table incoming =>
    let inner := (Table.get? target.entries (lower key)).getD (.table [])
    .table (Table.put target.entries (lower key) (insertAll inner incoming))
  | .unset => .table (Table.put target.entries (lower key) .unset)
  | .bool b => .table (Table.put target.entries (lower key) (.bool b))
  | .int i => .table (Table.put target.entries (lower key) (.int i))
  | .real x => .table (Table.put target.entries (lower key) (.real x))
  | .text s => .table (Table.put target.entries (lower key) (.text s))
  | .array items => .table (Table.put target.entries (lower key) (.array items))

/-- A table with entries set, in order. -/
def insertAll (target : Setting) : List (String × Setting) → Setting
  | [] => target
  | e :: rest => insertAll (insert target e.1 e.2) rest

end

/-! ### Reading values -/

/-- The texts that stand for one. -/
def truths : List String := ["true", "on", "yes"]

/-- The texts that stand for zero. -/
def falsehoods : List String := ["false", "off", "no"]

/-- Digits after a sign that may be missing. -/
def integerText? (signs : List Char) (s : String) : Option Int :=
  let (negative, digits) := match s.toList with
    | c :: cs => if c ∈ signs then (c == '-', cs) else (false, c :: cs)
    | [] => (false, [])
  if digits.isEmpty || !digits.all Char.isDigit then none
  else
    let n : Int := Decimal.ofDigits digits
    some (if negative then -n else n)

/-- The amount that an integer is. -/
def amountOfInt? (i : Int) : Option Amount := if i < 0 then none else Amount.ofNat? i.toNat

/-- A value as an amount. -/
def amount? : Setting → Option Amount
  | bool b => some (if b then 1 else 0)
  | int i => amountOfInt? i
  | real x => some x.toAmount
  | text s =>
    if lower s ∈ truths then some 1
    else if lower s ∈ falsehoods then some 0
    else (integerText? ['+'] s).bind amountOfInt?
  | _ => none

/-- A value as a text. -/
def text? : Setting → Option String
  | bool b => some (if b then "true" else "false")
  | int i => some (String.ofList (Decimal.intChars i))
  | real x => some x.text
  | text s => some s
  | _ => none

/-- A value as a text that may be missing. -/
def optionalText? : Setting → Option (Option String)
  | unset => some none
  | v => v.text?.map some

/-- The fields of a record in the order of their names: by name from a table, by place from an
array. What is left over is passed over. -/
def fields? (names : List String) : Setting → Option (List (Option Setting))
  | table entries => some (names.map fun n => Table.get? entries n)
  | array items =>
    some ((items.take names.length).map some
      ++ List.replicate (names.length - items.length) none)
  | _ => none

end Setting

end SpendGuard
