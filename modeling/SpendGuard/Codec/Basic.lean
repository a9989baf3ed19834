import SpendGuard.Instant
import SpendGuard.Json.Value
import SpendGuard.Key

/-!
# JSON forms

A type has a *JSON form* when its values can be written as JSON values and read back. Records are
written as objects with their fields in order. They are read from an object, where members of
other names are passed over and a name given twice is refused, or from an array of the fields in
order, where trailing fields may be missing. Keys and signatures are arrays of their bytes.
-/

namespace SpendGuard

open Json (Value Literal)

/-- Values that can be written as JSON. -/
class Encodes (α : Type) where
  /-- The JSON form of a value. -/
  encode : α → Value

/-- Values that can be written as JSON and read back. -/
class Coded (α : Type) extends Encodes α where
  /-- The value of a JSON form. -/
  decode? : Value → Option α

export Encodes (encode)
export Coded (decode?)

/-! ### Scalars -/

/-- A natural number below a bound, written as an integer. -/
def naturalBelow? (bound : Nat) : Value → Option Nat
  | .int (.ofNat n) => if n < bound then some n else none
  | _ => none

instance : Coded Bool where
  encode := .bool
  decode?
    | .bool b => some b
    | _ => none

instance : Coded UInt8 where
  encode n := .int n.toNat
  decode? v := (naturalBelow? UInt8.size v).map UInt8.ofNat

instance : Coded UInt64 where
  encode n := .int n.toNat
  decode? v := (naturalBelow? UInt64.size v).map UInt64.ofNat

instance : Coded Int64 where
  encode t := .int t.toInt
  decode?
    | .int i => Instant.ofInt? i
    | _ => none

instance : Coded String where
  encode := .string
  decode?
    | .text s => s
    | _ => none

/-! ### Options and lists -/

instance {α : Type} [Encodes α] : Encodes (Option α) where
  encode
    | none => .null
    | some a => encode a

instance {α : Type} [Coded α] : Coded (Option α) where
  decode?
    | .null => some none
    | v => (decode? v).map some

instance {α : Type} [Encodes α] : Encodes (List α) where
  encode xs := .array (xs.map encode)

instance {α : Type} [Coded α] : Coded (List α) where
  decode?
    | .array items => items.mapM decode?
    | _ => none

instance : Coded Key where
  encode k := encode k.bytes
  decode? v := do Key.ofBytes? (← decode? v)

instance : Coded Signature where
  encode s := encode s.bytes
  decode? v := do Signature.ofBytes? (← decode? v)

/-! ### Records -/

/-- The members of an object under their names, when every key is a text. -/
def namedMembers? (members : List (Literal × Value)) : Option (List (String × Value)) :=
  members.mapM fun m => m.1.map fun k => (k, m.2)

/-- The values of a record's fields, in the order of their names; none where one is missing. -/
def fields? (names : List String) : Value → Option (List (Option Value))
  | .object members => do
    let named ← namedMembers? members
    if names.all fun n => (named.filter fun m => m.1 == n).length ≤ 1 then
      return names.map fun n => named.lookup n
    else none
  | .array items =>
    if names.length < items.length then none
    else some (items.map some ++ List.replicate (names.length - items.length) none)
  | _ => none

/-- The value of a field that must be there. -/
def required? {α : Type} [Coded α] (field : Option Value) : Option α := field.bind decode?

/-- The value of a field that stands for a default when it is missing. -/
def defaulted? {α : Type} [Coded α] (default : α) : Option Value → Option α
  | none => some default
  | some v => decode? v

end SpendGuard
