import SpendGuard.Table

/-!
# Files of variables

A file may set variables of the environment, one `NAME=value` per line, without overriding any
that are already there. Values may be quoted, also over several lines; a backslash takes the
meaning from the next character, a hash sign after a blank begins a comment, and `$NAME` stands
for another variable. At the first line that makes no sense reading stops; what was set before
it stays. The blanks are the characters with the property *White_Space* of the Unicode standard.
-/

namespace SpendGuard

/-! ### Blanks -/

namespace Text

/-- Whether a character is white space. -/
def isBlank (c : Char) : Bool :=
  let n := c.toNat
  (0x09 ≤ n && n ≤ 0x0D) || (0x2000 ≤ n && n ≤ 0x200A)
    || n ∈ [0x20, 0x85, 0xA0, 0x1680, 0x2028, 0x2029, 0x202F, 0x205F, 0x3000]

/-- The characters without blanks at the beginning. -/
def trimStart (cs : List Char) : List Char := cs.dropWhile isBlank

/-- The characters without blanks at the end. -/
def trimEnd (cs : List Char) : List Char := (cs.reverse.dropWhile isBlank).reverse

end Text

namespace VariableFile

open Text (trimStart trimEnd)

/-! ### Lines -/

/-- Where one is within a line, as far as its end is concerned. -/
inductive Place where
  /-- Within a word. -/
  | word
  /-- After a blank. -/
  | blank
  /-- After a backslash. -/
  | escaped
  /-- Between quotation marks. -/
  | quoted
  /-- Between quotation marks, after a backslash. -/
  | quotedEscaped
  /-- Between apostrophes. -/
  | literal
  /-- Between apostrophes, after a backslash. -/
  | literalEscaped
deriving DecidableEq

/-- Where a character leads that no quotes enclose. -/
def Place.afterPlain (c : Char) : Place :=
  if c = '\\' then .escaped
  else if c = '"' then .quoted
  else if c = '\'' then .literal
  else .word

/-- Where a character leads; none where it begins a comment. -/
def Place.next (c : Char) : Place → Option Place
  | blank => if c = '#' then none else some (afterPlain c)
  | word =>
    if Text.isBlank c && c ≠ '\n' && c ≠ '\r' then some blank else some (afterPlain c)
  | escaped => some word
  | quoted => some (if c = '\\' then quotedEscaped else if c = '"' then word else quoted)
  | quotedEscaped => some quoted
  | literal => some (if c = '\\' then literalEscaped else if c = '\'' then word else literal)
  | literalEscaped => some literal

/-- Where a line leads; for a line with a comment, what stands before it. -/
def scan (place : Place) : (read : List Char) → List Char → Place ⊕ List Char
  | _, [] => .inl place
  | read, c :: rest =>
    match place.next c with
    | none => .inr read.reverse
    | some place => scan place (c :: read) rest

/-- The lines of a text, each with its line break. -/
def splitLines (cs : List Char) : List (List Char) := cs.splitBy fun a _ => a ≠ '\n'

/-- A line without its line break. -/
def chomp (cs : List Char) : List Char :=
  match cs.reverse with
  | '\n' :: '\r' :: rest => rest.reverse
  | '\n' :: rest => rest.reverse
  | _ => cs

/-- The lines, joined where quotes or a backslash join them, and without comments; the last one
is none if the text ends within a line. -/
def joinLines (pending : List Char) (place : Place) :
    List (List Char) → List (Option (List Char))
  | [] => if place = .word then [] else [none]
  | line :: rest =>
    let whole := pending ++ line
    if (trimStart whole).head? = some '#' then some [] :: joinLines [] .word rest
    else match scan place [] line with
      | .inr before => some (pending ++ before) :: joinLines [] .word rest
      | .inl .word => some (chomp whole) :: joinLines [] .word rest
      | .inl place => joinLines whole place rest

/-! ### Values -/

/-- What a name stands for: the environment comes first, then what the file set before. -/
def meaning (environment known : Table String String) (name : List Char) : List Char :=
  let name := String.ofList name
  match Table.get? environment name with
  | some v => v.toList
  | none => ((Table.get? known name).getD "").toList

/-- What is being read within a value. -/
inductive Mode where
  /-- Text, between quotation marks or outside of them. -/
  | text
  /-- Text between apostrophes. -/
  | literal
  /-- A name after a dollar sign, so far. -/
  | name (name : List Char)
  /-- A name in braces, so far. -/
  | braced (name : List Char)
  /-- The character after a backslash. -/
  | escaped
  /-- Blanks after the value. -/
  | ended
  /-- A comment after the value. -/
  | comment
deriving DecidableEq

/-- A value that is being read. -/
structure Draft where
  /-- What is being read. -/
  mode : Mode
  /-- Whether between quotation marks; names and escapes do not end that. -/
  inQuotes : Bool
  /-- The value so far. -/
  value : List Char
deriving DecidableEq

namespace Draft

/-- Nothing read yet. -/
def empty : Draft := ⟨.text, false, []⟩

/-- What the character after a backslash stands for. -/
def escape? (c : Char) : Option Char :=
  if c ∈ ['\\', '\'', '"', '$', ' '] then some c else if c = 'n' then some '\n' else none

/-- The value with characters added, back in text. -/
def push (d : Draft) (cs : List Char) : Draft := { d with mode := .text, value := d.value ++ cs }

/-- The value after a character of text. -/
def readText (c : Char) (d : Draft) : Draft :=
  if c = '$' then { d with mode := .name [] }
  else if c = '"' then { d with inQuotes := !d.inQuotes }
  else if c = '\\' then { d with mode := .escaped }
  else if d.inQuotes then d.push [c]
  else if c = '\'' then { d with mode := .literal }
  else if c = ' ' || c = '\t' then { d with mode := .ended }
  else d.push [c]

/-- The value after one more character. The character that ends a name without braces counts as
text, whatever it is, except that a dollar sign begins the next name. -/
def read (meaning : List Char → List Char) (d : Draft) (c : Char) : Option Draft :=
  match d.mode with
  | .text => some (d.readText c)
  | .literal => some (if c = '\'' then d.push [] else { d with value := d.value ++ [c] })
  | .escaped => (escape? c).map fun x => d.push [x]
  | .name n =>
    if c.isAlphanum then some { d with mode := .name (n ++ [c]) }
    else if c = '\x7b' && n.isEmpty then some { d with mode := .braced [] }
    else if c = '$' then some { d with mode := .name [], value := d.value ++ meaning n }
    else some (d.push (meaning n ++ [c]))
  | .braced n =>
    if c = '\x7d' then some (d.push (meaning n)) else some { d with mode := .braced (n ++ [c]) }
  | .ended =>
    if c = ' ' || c = '\t' then some d
    else if c = '#' then some { d with mode := .comment }
    else none
  | .comment => some d

/-- The finished value, unless quotes or braces are still open. -/
def finish? (meaning : List Char → List Char) (d : Draft) : Option (List Char) :=
  if d.inQuotes then none
  else match d.mode with
    | .literal | .braced _ => none
    | .name n => some (d.value ++ meaning n)
    | _ => some d.value

end Draft

/-- The value that characters spell. -/
def readValue? (meaning : List Char → List Char) (cs : List Char) : Option (List Char) :=
  (cs.foldlM (Draft.read meaning) Draft.empty).bind (Draft.finish? meaning)

/-! ### Assignments -/

/-- The characters that a name may go on with. -/
def isNameChar (c : Char) : Bool := c.isAlphanum || c = '_' || c = '.'

/-- A name, and what follows it and the blanks after it. -/
def takeName? (cs : List Char) : Option (List Char × List Char) :=
  match cs with
  | c :: _ =>
    if c.isAlpha || c = '_' then
      some (cs.takeWhile isNameChar, trimStart (cs.dropWhile isNameChar))
    else none
  | [] => none

/-- The name that a line assigns to, and what follows the equals sign. The word `export` may
stand before the name. -/
def takeTarget? (cs : List Char) : Option (List Char × List Char) := do
  let (name, rest) ← takeName? cs
  match rest with
  | '=' :: rest => return (name, trimStart rest)
  | rest =>
    if name = "export".toList then
      let (name, rest) ← takeName? rest
      match rest with
      | '=' :: rest => return (name, trimStart rest)
      | _ => none
    else none

/-- Whether nothing, or only a comment, is left. -/
def isVoid (cs : List Char) : Bool := cs.isEmpty || cs.head? = some '#'

/-- The variables of the environment and those that a file set, in this order. -/
abbrev Reading := Table String String × Table String String

/-- What a line adds; a variable of the environment keeps its value there. -/
def addLine (r : Reading) (line : List Char) : Option Reading :=
  let cs := trimStart (trimEnd line)
  if isVoid cs then some r
  else do
    let (name, rest) ← takeTarget? cs
    let value ← if isVoid rest then some [] else readValue? (meaning r.1 r.2) rest
    let (name, value) := (String.ofList name, String.ofList value)
    let environment := if (Table.get? r.1 name).isSome then r.1 else Table.put r.1 name value
    return (environment, Table.put r.2 name value)

/-- What lines add, up to the first that makes no sense. -/
def addLines (r : Reading) : List (Option (List Char)) → Reading
  | some line :: rest =>
    match addLine r line with
    | some r => addLines r rest
    | none => r
  | _ => r

/-- The environment with the variables that a file sets. -/
def extend (environment : Table String String) (text : String) : Table String String :=
  let cs := match text.toList with
    | c :: cs => if c.toNat = 0xFEFF then cs else c :: cs
    | [] => []
  (addLines (environment, []) (joinLines [] .word (splitLines cs))).1

end VariableFile

end SpendGuard
