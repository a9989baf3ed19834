import SpendGuard.Instant
import SpendGuard.Setting

/-!
# Paths to settings

A source may name a setting by a path, such as `account.owner` or `list[2].name`: a name, and
then names after points and places in brackets. What is missing on the way is made, and what is
in the way is replaced. A text that is no path names itself.
-/

namespace SpendGuard

namespace Setting

/-- One step of a path. -/
inductive Hop where
  /-- To an entry of a table. -/
  | name (key : String)
  /-- To a place in an array, counted from its end if negative. -/
  | place (index : Int)
deriving DecidableEq

/-! ### Reading paths -/

/-- The characters of a name. -/
def isNameChar (c : Char) : Bool := c.isAlphanum || c = ' ' || c = '_' || c = '-'

/-- A place between brackets, blanks around it allowed. -/
def placeOfChars? (cs : List Char) : Option Int := do
  let isBlank (c : Char) : Bool := c = ' ' || c = '\t'
  let trimmed := ((cs.dropWhile isBlank).reverse.dropWhile isBlank).reverse
  SignedWord.fit? (← integerText? ['-'] (String.ofList trimmed))

/-- The hops that follow a name. -/
def hopsOfChars? (cs : List Char) : Option (List Hop) :=
  match cs with
  | [] => some []
  | '.' :: rest =>
    let name := rest.takeWhile isNameChar
    if name.isEmpty then none
    else
      have := (List.dropWhile_suffix isNameChar (l := rest)).length_le
      (hopsOfChars? (rest.dropWhile isNameChar)).map (.name (String.ofList name) :: ·)
  | '[' :: rest =>
    match h : rest.dropWhile (· ≠ ']') with
    | _ :: after => do
      have hle := (List.dropWhile_suffix (· ≠ ']') (l := rest)).length_le
      have : after.length < rest.length := by rw [h] at hle; exact hle
      let i ← placeOfChars? (rest.takeWhile (· ≠ ']'))
      let hops ← hopsOfChars? after
      return .place i :: hops
    | [] => none
  | _ => none
termination_by cs.length
decreasing_by all_goals (simp_wf; omega)

/-- The path that a text spells; a text that spells none names itself. -/
def pathOf (s : String) : List Hop :=
  let cs := s.toList
  let name := cs.takeWhile isNameChar
  match if name.isEmpty then none else hopsOfChars? (cs.dropWhile isNameChar) with
  | some hops => .name (String.ofList name) :: hops
  | none => [.name s]

/-! ### Following paths -/

/-- The items of an array; none if the value is no array. -/
def items : Setting → List Setting
  | .array items => items
  | _ => []

/-- The place that an index means among so many items, when there is one. -/
def placeIn? (length : Nat) (index : Int) : Option Nat :=
  if 0 ≤ index then some index.toNat
  else if index.natAbs ≤ length then some (length - index.natAbs)
  else none

/-- The items with a change made at a place; places before it that are missing are unset. -/
def changeAt (place : Nat) (change : Setting → Setting) (items : List Setting) : List Setting :=
  let filled := items ++ List.replicate (place + 1 - items.length) .unset
  filled.modify place change

/-- A value with something set at the end of a path. -/
def assign (value : Setting) : (path : List Hop) → (target : Setting) → Setting
  | [], _ => value
  | [.name key], target => target.insert key value
  | .name key :: path, target =>
    let inner := (Table.get? target.entries key).getD .unset
    .table (Table.put target.entries key (assign value path inner))
  | .place index :: path, target =>
    match placeIn? target.items.length index with
    | none => target
    | some place => .array (changeAt place (assign value path) target.items)

/-- A value with settings of a source put on top, each named by a path. -/
def layer (target : Setting) (source : List (String × Setting)) : Setting :=
  source.foldl (fun t s => assign s.2 (pathOf s.1) t) target

end Setting

end SpendGuard
