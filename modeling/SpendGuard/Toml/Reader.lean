import SpendGuard.Instant
import SpendGuard.Toml.Moment
import SpendGuard.Toml.Text
import SpendGuard.Toml.Tree

/-!
# Reading TOML

The notation of keys and values, and the lines of a document. Every step takes at least one
character, so the number of characters bounds the steps; arrays and inline tables may be nested
a bounded number of times.
-/

namespace SpendGuard

namespace Toml

/-! ### Blanks and comments -/

/-- What follows blanks, line breaks and comments; every comment ends with a line break. -/
def skipSpace? (inComment : Bool) : List Char → Option (List Char)
  | '\r' :: '\n' :: rest => skipSpace? false rest
  | '\n' :: rest => skipSpace? false rest
  | c :: rest =>
    if inComment then (if isTextChar c then skipSpace? true rest else none)
    else if c = '#' then skipSpace? true rest
    else if isBlank c then skipSpace? false rest
    else some (c :: rest)
  | [] => some []

/-- What follows the end of a line, which blanks and a comment may precede. -/
def lineEnd? (cs : List Char) : Option (List Char) :=
  let rest := match cs.dropWhile isBlank with
    | '#' :: rest => rest.dropWhile isTextChar
    | rest => rest
  if rest.isEmpty then some [] else afterBreak? rest

/-! ### Keys -/

/-- A key without dots, and what follows it. -/
def takeSimpleKey? : List Char → Option (String × List Char)
  | '"' :: rest => (takeQuoted? rest).map fun p => (String.ofList p.1, p.2)
  | '\'' :: rest => (takeLiteral? rest).map fun p => (String.ofList p.1, p.2)
  | cs =>
    let key := cs.takeWhile isBareChar
    if key.isEmpty then none else some (String.ofList key, cs.dropWhile isBareChar)

/-- A key with all its parts, and what follows it and the blanks around it. -/
def takeParts? : (steps : Nat) → List Char → Option (List String × List Char)
  | 0, _ => none
  | steps + 1, cs => do
    let (key, rest) ← takeSimpleKey? (cs.dropWhile isBlank)
    match rest.dropWhile isBlank with
    | '.' :: rest =>
      let (keys, rest) ← takeParts? steps rest
      return (key :: keys, rest)
    | rest => return ([key], rest)

/-- How many parts a key may have, and how deep values may be nested, plus one. -/
def nestingLimit : Nat := 80

/-- A key as the path to it and its last part, and what follows it. -/
def takeKey? (cs : List Char) : Option ((List String × String) × List Char) := do
  let (keys, rest) ← takeParts? (cs.length + 1) cs
  let last ← keys.getLast?
  if keys.length < nestingLimit then some ((keys.dropLast, last), rest) else none

/-! ### Numbers and words -/

/-- Digits that single underscores may set apart, without the underscores. -/
def ungroup? (isDigit : Char → Bool) : List Char → Option (List Char)
  | [] => none
  | [c] => if isDigit c then some [c] else none
  | c :: '_' :: rest => if isDigit c then (ungroup? isDigit rest).map (c :: ·) else none
  | c :: rest => if isDigit c then (ungroup? isDigit rest).map (c :: ·) else none

/-- The digits of an integer part, which has no needless zeros. -/
def wholeDigits? (cs : List Char) : Option (List Char) := do
  let digits ← ungroup? Char.isDigit cs
  if digits.head? = some '0' && cs ≠ ['0'] then none else some digits

/-- A signed 64-bit integer as a value. -/
def int? (i : Int) : Option Value := (SignedWord.fit? i).map .int

/-- An integer in another base, after its mark. -/
def based? (base : Nat) (cs : List Char) : Option Value := do
  let isDigit (c : Char) : Bool := (Hex.digit? c).any (· < base)
  let digits ← ungroup? isDigit cs
  let values ← digits.mapM Hex.digit?
  let n := values.foldl (fun n d => base * n + d) 0
  int? n

/-- A power of ten after its letter. -/
def power? (cs : List Char) : Option Int :=
  match cs with
  | '-' :: cs => (ungroup? Char.isDigit cs).map fun ds => -(Decimal.ofDigits ds : Int)
  | '+' :: cs => (ungroup? Char.isDigit cs).map fun ds => Decimal.ofDigits ds
  | cs => (ungroup? Char.isDigit cs).map fun ds => Decimal.ofDigits ds

/-- Whether a character ends the integer part of a number. -/
def endsWhole (c : Char) : Bool := c = '.' || c = 'e' || c = 'E'

/-- Whether a character begins a power of ten. -/
def beginsPower (c : Char) : Bool := c = 'e' || c = 'E'

/-- A binary floating point number as a value; one beyond the range has to be negative. -/
def real? (d : Decimal) : Option Value :=
  let x := Binary64.ofDecimal d
  if x = .infinite false then none else some (.real x)

/-- A decimal number after its sign. -/
def decimal? (negative : Bool) (cs : List Char) : Option Value := do
  let whole ← wholeDigits? (cs.takeWhile fun c => !endsWhole c)
  match cs.dropWhile fun c => !endsWhole c with
  | [] =>
    let n : Int := Decimal.ofDigits whole
    int? (if negative then -n else n)
  | '.' :: rest =>
    let fraction ← ungroup? Char.isDigit (rest.takeWhile fun c => !beginsPower c)
    match rest.dropWhile fun c => !beginsPower c with
    | [] => real? (.ofParts negative whole fraction 0)
    | _ :: rest => real? (.ofParts negative whole fraction (← power? rest))
  | _ :: rest => real? (.ofParts negative whole [] (← power? rest))

/-- A number after its sign, also one that is not finite. -/
def signed? (negative : Bool) : List Char → Option Value
  | ['i', 'n', 'f'] => some (.real (.infinite negative))
  | ['n', 'a', 'n'] => some (.real .nan)
  | cs => decimal? negative cs

/-- The value that a word spells. -/
def ofWord? (cs : List Char) : Option Value :=
  match Moment.ofChars? cs with
  | some m => some (.moment m.text)
  | none =>
    match cs with
    | ['t', 'r', 'u', 'e'] => some (.bool true)
    | ['f', 'a', 'l', 's', 'e'] => some (.bool false)
    | '0' :: 'x' :: cs => based? 16 cs
    | '0' :: 'o' :: cs => based? 8 cs
    | '0' :: 'b' :: cs => based? 2 cs
    | '-' :: cs => signed? true cs
    | '+' :: cs => signed? false cs
    | cs => signed? false cs

/-- Whether a character belongs to a word. -/
def isWordChar (c : Char) : Bool := c ∉ [' ', '\t', '\n', '\r', '#', ',', ']', '\x7d']

/-- A value that is one word, and what follows it. A date that a blank and a digit follow goes
on with a time. -/
def takeWord? (cs : List Char) : Option (Value × List Char) :=
  let word := cs.takeWhile isWordChar
  let rest := cs.dropWhile isWordChar
  let (word, rest) := match takeDate? word, rest with
    | some (_, []), ' ' :: c :: more =>
      if c.isDigit then (word ++ ' ' :: c :: more.takeWhile isWordChar, more.dropWhile isWordChar)
      else (word, rest)
    | _, _ => (word, rest)
  (ofWord? word).map fun v => (v, rest)

/-! ### Values -/

/-- What follows a character, when it comes next. -/
def expect? (c : Char) : List Char → Option (List Char)
  | d :: rest => if d = c then some rest else none
  | [] => none

mutual

/-- A value, and what follows it. -/
def takeValue? : (steps depth : Nat) → List Char → Option (Value × List Char)
  | 0, _, _ => none
  | steps + 1, depth, cs =>
    match cs with
    | '"' :: _ | '\'' :: _ => (takeText? cs).map fun p => (.text p.1, p.2)
    | '[' :: rest =>
      match depth with
      | 0 => none
      | depth + 1 => do
        let (items, rest) ← takeItems? steps depth rest
        return (.array items, rest)
    | '\x7b' :: rest =>
      match depth with
      | 0 => none
      | depth + 1 =>
        match rest.dropWhile isBlank with
        | '\x7d' :: rest => some (.table [], rest)
        | rest => do
          let (entries, rest) ← takePairs? steps depth [] rest
          return (.table (finishEntries entries), rest)
    | cs => takeWord? cs

/-- The items of an array up to its end; a comma may follow the last one. -/
def takeItems? : (steps depth : Nat) → List Char → Option (List Value × List Char)
  | 0, _, _ => none
  | steps + 1, depth, cs => do
    match ← skipSpace? false cs with
    | ']' :: rest => return ([], rest)
    | cs =>
      let (v, rest) ← takeValue? steps depth cs
      match ← skipSpace? false rest with
      | ',' :: rest =>
        let (vs, rest) ← takeItems? steps depth rest
        return (v :: vs, rest)
      | ']' :: rest => return ([v], rest)
      | _ => none

/-- The pairs of an inline table up to its end, added to entries. -/
def takePairs? : (steps depth : Nat) → Entries → List Char → Option (Entries × List Char)
  | 0, _, _, _ => none
  | steps + 1, depth, entries, cs => do
    let ((path, key), rest) ← takeKey? cs
    let rest ← expect? '=' rest
    let (v, rest) ← takeValue? steps depth (rest.dropWhile isBlank)
    let entries ← entries.define path key v
    match rest.dropWhile isBlank with
    | ',' :: rest => takePairs? steps depth entries rest
    | '\x7d' :: rest => return (entries, rest)
    | _ => none

end

/-! ### Documents -/

/-- A line of a document that says something. -/
inductive Line where
  /-- A key and its value. -/
  | pair (path : List String) (key : String) (v : Value)
  /-- The header of a table. -/
  | header (path : List String) (key : String)
  /-- The header of a table in an array. -/
  | rowHeader (path : List String) (key : String)

/-- A header after its opening brackets, with as many closing ones. -/
def takeHeader? (row : Bool) (cs : List Char) : Option (Line × List Char) := do
  let ((path, key), rest) ← takeKey? cs
  let rest ← expect? ']' rest
  if row then
    let rest ← expect? ']' rest
    return (.rowHeader path key, rest)
  else return (.header path key, rest)

/-- A line that is neither blank nor a mere comment. -/
def takeLine? (cs : List Char) : Option (Line × List Char) :=
  match cs with
  | '[' :: '[' :: rest => takeHeader? true rest
  | '[' :: rest => takeHeader? false rest
  | cs => do
    let ((path, key), rest) ← takeKey? cs
    let rest ← expect? '=' rest
    let (v, rest) ← takeValue? (rest.length + 1) (nestingLimit - 1) (rest.dropWhile isBlank)
    return (.pair path key v, rest)

/-- The lines that say something. -/
def lines? : (steps : Nat) → List Char → Option (List Line)
  | 0, _ => none
  | steps + 1, cs =>
    match cs.dropWhile isBlank with
    | [] => some []
    | c :: rest =>
      if c = '#' || c = '\n' || c = '\r' then do
        lines? steps (← lineEnd? (c :: rest))
      else do
        let (line, rest) ← takeLine? (c :: rest)
        let lines ← lines? steps (← lineEnd? rest)
        return line :: lines

/-- A document under construction: the path of the table that pairs are added to, and all
entries. -/
structure Draft where
  /-- Where pairs are added. -/
  current : List String
  /-- All entries. -/
  entries : Entries

/-- The document with a line added. -/
def Draft.add (d : Draft) : Line → Option Draft
  | .pair path key v => do
    let change (_ : Origin) (inner : Entries) := inner.define path key v
    let entries ← d.entries.within false change d.current .header
    return { d with entries }
  | .header path key => do
    return ⟨path ++ [key], ← d.entries.beginTable path key⟩
  | .rowHeader path key => do
    return ⟨path ++ [key], ← d.entries.beginRow path key⟩

/-- The text without a byte order mark at its beginning. -/
def dropMark : List Char → List Char
  | c :: rest => if c.toNat = 0xFEFF then rest else c :: rest
  | [] => []

/-- The entries of the document that a text spells. -/
def parse? (text : String) : Option (List (String × Value)) := do
  let cs := dropMark text.toList
  let lines ← lines? (cs.length + 1) cs
  let draft ← lines.foldlM Draft.add ⟨[], []⟩
  return finishEntries draft.entries

end Toml

end SpendGuard
