import SpendGuard.Table
import SpendGuard.Toml.Value

/-!
# Tables under construction

A document defines its tables piece by piece: by headers, by dotted keys, and by being on the
way to another table. How a table came about decides who may still add to it, so it is kept
while the document is read: a header may complete a table that was only on the way, a dotted
key may extend one that dotted keys made, and nothing is defined twice.
-/

namespace SpendGuard

namespace Toml

/-- How a table came about. -/
inductive Origin where
  /-- By a header, or as the whole document. -/
  | header
  /-- By being on the way to a header. -/
  | implied
  /-- By a dotted key. -/
  | dotted
deriving DecidableEq

/-- An entry of a table under construction. -/
inductive Node where
  /-- A finished value. -/
  | value (v : Value)
  /-- A table. -/
  | table (origin : Origin) (entries : List (String × Node))
  /-- The tables of an array, the last of which is under construction. -/
  | tables (rows : List (List (String × Node)))

/-- The entries of a table under construction. -/
abbrev Entries := Table String Node

namespace Entries

/-- The entries with a change made to the table that a path leads to. Tables that are missing on
the way are made; of an array of tables the last one is meant. A dotted path does not enter a
table that has a header of its own. -/
def within (dotted : Bool) (change : Origin → Entries → Option Entries) :
    (path : List String) → Origin → Entries → Option Entries
  | [], origin, entries => change origin entries
  | key :: path, _, entries =>
    match entries.get? key with
    | none =>
      let origin := if dotted then Origin.dotted else .implied
      (within dotted change path origin []).map fun inner =>
        Table.put entries key (.table origin inner)
    | some (.table origin inner) =>
      if dotted && origin = .header then none
      else
        (within dotted change path origin inner).map fun inner =>
          Table.put entries key (.table origin inner)
    | some (.tables rows) =>
      match rows.getLast? with
      | none => none
      | some row =>
        (within dotted change path .header row).map fun row =>
          Table.put entries key (.tables (rows.dropLast ++ [row]))
    | some (.value _) => none

/-- The entries with a value under a new key; a dotted key only adds to tables that dotted keys
made. -/
def define (path : List String) (key : String) (v : Value) (entries : Entries) :
    Option Entries :=
  within true (fun origin inner =>
    if decide (origin = .dotted) = path.isEmpty then none
    else if (inner.get? key).isSome then none
    else some (Table.put inner key (.value v))) path .header entries

/-- The entries with the table of a header begun. -/
def beginTable (path : List String) (key : String) (entries : Entries) : Option Entries :=
  within false (fun _ inner =>
    match inner.get? key with
    | none => some (Table.put inner key (.table .header []))
    | some (.table .implied rows) => some (Table.put inner key (.table .header rows))
    | _ => none) path .header entries

/-- The entries with a further table in the array of a header begun. -/
def beginRow (path : List String) (key : String) (entries : Entries) : Option Entries :=
  within false (fun _ inner =>
    match inner.get? key with
    | none => some (Table.put inner key (.tables [[]]))
    | some (.tables rows) => some (Table.put inner key (.tables (rows ++ [[]])))
    | _ => none) path .header entries

end Entries

mutual

/-- The finished value of an entry. -/
def Node.finish : Node → Value
  | .value v => v
  | .table _ entries => .table (finishEntries entries)
  | .tables rows => .array (finishRows rows)

/-- The finished entries of a table. -/
def finishEntries : List (String × Node) → List (String × Value)
  | [] => []
  | e :: rest => (e.1, e.2.finish) :: finishEntries rest

/-- The finished tables of an array. -/
def finishRows : List (List (String × Node)) → List Value
  | [] => []
  | row :: rest => .table (finishEntries row) :: finishRows rest

end

end Toml

end SpendGuard
