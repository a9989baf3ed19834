import SpendGuard.Json.Value

/-!
# Writing JSON values

Two layouts: compact, without blanks, and indented by two spaces per level with one item or
member per line. An empty container is written without a line break in both.
-/

namespace SpendGuard

namespace Json

/-- How a character is written in a text literal. -/
def literalChar (c : Char) : List Char :=
  if c = '"' then ['\\', '"']
  else if c = '\\' then ['\\', '\\']
  else if c = '\x08' then ['\\', 'b']
  else if c = '\x0c' then ['\\', 'f']
  else if c = '\n' then ['\\', 'n']
  else if c = '\r' then ['\\', 'r']
  else if c = '\t' then ['\\', 't']
  else if c.toNat < 32 then
    ['\\', 'u', '0', '0', Nat.digitChar (c.toNat / 16), Nat.digitChar (c.toNat % 16)]
  else [c]

/-- A text between quotation marks. -/
def literalChars (s : String) : List Char := '"' :: s.toList.flatMap literalChar ++ ['"']

/-- A number that is no integer: its digits and, if there is one, the power of ten. -/
def realChars (d : Decimal) : List Char :=
  (if d.negative then ['-'] else []) ++ Decimal.natChars d.digits ++
    (if d.exponent = 0 then ['.', '0'] else 'e' :: Decimal.intChars d.exponent)

/-- How a token that is no punctuation is written. -/
def scalarChars : Value → List Char
  | .null => "null".toList
  | .bool b => if b then "true".toList else "false".toList
  | .int i => Decimal.intChars i
  | .real d => realChars d
  | .text s => literalChars (s.getD "")
  | .array _ => []
  | .object _ => []

/-- How lines are broken and members are set apart. -/
structure Layout where
  /-- What goes before an item or a member at a nesting level, and before the end at the level
  above. -/
  lineBreak : (level : Nat) → List Char
  /-- What goes between a key and its value. -/
  colon : List Char

/-- Everything on one line, without blanks. -/
def Layout.compact : Layout := ⟨fun _ => [], [':']⟩

/-- One item or member per line, indented by two spaces per level. -/
def Layout.indented : Layout :=
  ⟨fun level => '\n' :: List.replicate (2 * level) ' ', [':', ' ']⟩

mutual

/-- A value in a layout, at a nesting level. -/
def chars (layout : Layout) (level : Nat) : Value → List Char
  | .array [] => ['[', ']']
  | .array (v :: rest) =>
    '[' :: layout.lineBreak (level + 1) ++ chars layout (level + 1) v
      ++ itemChars layout (level + 1) rest ++ layout.lineBreak level ++ [']']
  | .object [] => ['\x7b', '\x7d']
  | .object (m :: rest) =>
    '\x7b' :: layout.lineBreak (level + 1) ++ literalChars (m.1.getD "") ++ layout.colon
      ++ chars layout (level + 1) m.2 ++ memberChars layout (level + 1) rest
      ++ layout.lineBreak level ++ ['\x7d']
  | .null => scalarChars .null
  | .bool b => scalarChars (.bool b)
  | .int i => scalarChars (.int i)
  | .real d => scalarChars (.real d)
  | .text s => scalarChars (.text s)

/-- The further items of an array. -/
def itemChars (layout : Layout) (level : Nat) : List Value → List Char
  | [] => []
  | v :: rest =>
    ',' :: layout.lineBreak level ++ chars layout level v ++ itemChars layout level rest

/-- The further members of an object. -/
def memberChars (layout : Layout) (level : Nat) : List (Literal × Value) → List Char
  | [] => []
  | m :: rest =>
    ',' :: layout.lineBreak level ++ literalChars (m.1.getD "") ++ layout.colon
      ++ chars layout level m.2 ++ memberChars layout level rest

end

/-- The text of a value in a layout. -/
def Value.render (layout : Layout) (v : Value) : String := String.ofList (chars layout 0 v)

end Json

end SpendGuard
