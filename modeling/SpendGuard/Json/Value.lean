import SpendGuard.Decimal

/-!
# JSON values

A JSON text is read in two steps, into tokens and then into a value. Integers are kept apart
from numbers written with a fraction or an exponent, since the former are exact. A text literal
may name half of a surrogate pair and then stands for no text; such a literal is kept as
`none`, because it is harmless where nobody looks at it.
-/

namespace SpendGuard

namespace Json

/-- What a text literal stands for; none if it names an unpaired surrogate. -/
abbrev Literal := Option String

/-- The smallest pieces of a JSON text. -/
inductive Token where
  | openBrace
  | closeBrace
  | openBracket
  | closeBracket
  | comma
  | colon
  | null
  | bool (b : Bool)
  | int (i : Int)
  | real (d : Decimal)
  | text (s : Literal)
deriving DecidableEq

/-- A JSON value; the members of an object are kept in order. -/
inductive Value where
  | null
  | bool (b : Bool)
  | int (i : Int)
  | real (d : Decimal)
  | text (s : Literal)
  | array (items : List Value)
  | object (members : List (Literal × Value))

namespace Value

/-- A text value. -/
def string (s : String) : Value := .text (some s)

/-- An object with these members. -/
def record (members : List (String × Value)) : Value :=
  .object (members.map fun m => (some m.1, m.2))

mutual

/-- How deep containers are nested in a value. -/
def depth : Value → Nat
  | array items => depthItems items + 1
  | object members => depthMembers members + 1
  | _ => 0

/-- The greatest depth among items. -/
def depthItems : List Value → Nat
  | [] => 0
  | v :: rest => max v.depth (depthItems rest)

/-- The greatest depth among members. -/
def depthMembers : List (Literal × Value) → Nat
  | [] => 0
  | m :: rest => max m.2.depth (depthMembers rest)

end

mutual

/-- Whether a condition on literals and one on numbers hold throughout a value. -/
def every (literal : Literal → Bool) (number : Decimal → Bool) : Value → Bool
  | null | bool _ => true
  | int i => number ⟨i < 0, i.natAbs, 0⟩
  | real d => number d
  | text s => literal s
  | array items => everyItem literal number items
  | object members => everyMember literal number members

/-- The conditions throughout items. -/
def everyItem (literal : Literal → Bool) (number : Decimal → Bool) : List Value → Bool
  | [] => true
  | v :: rest => v.every literal number && everyItem literal number rest

/-- The conditions throughout members. -/
def everyMember (literal : Literal → Bool) (number : Decimal → Bool) :
    List (Literal × Value) → Bool
  | [] => true
  | m :: rest => literal m.1 && m.2.every literal number && everyMember literal number rest

end

end Value

end Json

end SpendGuard
