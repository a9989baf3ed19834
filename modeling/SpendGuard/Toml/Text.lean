import SpendGuard.Decimal
import SpendGuard.Toml.Value

/-!
# TOML texts

Four notations: between quotation marks, with escapes, or between apostrophes, without; each on
one line or, with the mark written three times, over several. Every function here is given what
follows the opening mark and tells the text and what follows the closing one.
-/

namespace SpendGuard

namespace Toml

/-! ### Escapes -/

/-- What a one-letter escape names. -/
def escape? (c : Char) : Option Char :=
  if c = '"' || c = '\\' then some c
  else if c = 'b' then some '\x08'
  else if c = 'f' then some '\x0c'
  else if c = 'n' then some '\n'
  else if c = 'r' then some '\r'
  else if c = 't' then some '\t'
  else none

/-- The character of a code point in hexadecimal; halves of surrogate pairs are none. -/
def codePoint? (digits : List Char) : Option Char := do
  let n ← Hex.number? digits
  if n.isValidChar then some (Char.ofNat n) else none

/-! ### One line -/

/-- A text between quotation marks. -/
def takeQuoted? : List Char → Option (List Char × List Char)
  | [] => none
  | '"' :: rest => some ([], rest)
  | '\\' :: 'u' :: a :: b :: c :: d :: rest => do
    let x ← codePoint? [a, b, c, d]
    let (xs, rest) ← takeQuoted? rest
    return (x :: xs, rest)
  | '\\' :: 'U' :: a :: b :: c :: d :: e :: f :: g :: h :: rest => do
    let x ← codePoint? [a, b, c, d, e, f, g, h]
    let (xs, rest) ← takeQuoted? rest
    return (x :: xs, rest)
  | '\\' :: e :: rest => do
    let x ← escape? e
    let (xs, rest) ← takeQuoted? rest
    return (x :: xs, rest)
  | c :: rest =>
    if isTextChar c && c ≠ '\\' then do
      let (xs, rest) ← takeQuoted? rest
      return (c :: xs, rest)
    else none

/-- A text between apostrophes. -/
def takeLiteral? : List Char → Option (List Char × List Char)
  | [] => none
  | '\'' :: rest => some ([], rest)
  | c :: rest =>
    if isTextChar c then do
      let (xs, rest) ← takeLiteral? rest
      return (c :: xs, rest)
    else none

/-! ### Several lines -/

/-- What follows a line break. -/
def afterBreak? : List Char → Option (List Char)
  | '\n' :: rest => some rest
  | '\r' :: '\n' :: rest => some rest
  | _ => none

/-- What follows blanks and line breaks. -/
def skipBreaks : List Char → List Char
  | '\r' :: '\n' :: rest => skipBreaks rest
  | c :: rest => if isBlank c || c = '\n' then skipBreaks rest else c :: rest
  | [] => []

theorem length_skipBreaks_le (cs : List Char) : (skipBreaks cs).length ≤ cs.length := by
  fun_induction skipBreaks cs with
  | case1 rest ih => simp only [List.length_cons]; omega
  | case2 c rest _ _ ih => simp only [List.length_cons]; omega
  | case3 c rest => exact Nat.le_refl _
  | case4 => exact Nat.le_refl _

/-- What follows the end of a line and all blanks and line breaks after it, if nothing but
blanks stands before the end. -/
def skipToText? (cs : List Char) : Option (List Char) :=
  let rest := cs.dropWhile isBlank
  if (afterBreak? rest).isSome then some (skipBreaks rest) else none

theorem length_skipToText?_le {cs rest : List Char} (h : skipToText? cs = some rest) :
    rest.length ≤ cs.length := by
  unfold skipToText? at h
  dsimp only at h
  split at h
  · cases h
    exact Nat.le_trans (length_skipBreaks_le _) (List.dropWhile_suffix _).length_le
  · cases h

/-- A text between threefold quotation marks. One or two quotation marks may stand anywhere,
also right before the closing ones, and a backslash at the end of a line joins it to the next
text. -/
def takeQuotedLines? (cs : List Char) : Option (List Char × List Char) :=
  match cs with
  | '"' :: '"' :: '"' :: '"' :: '"' :: rest => some (['"', '"'], rest)
  | '"' :: '"' :: '"' :: '"' :: rest => some (['"'], rest)
  | '"' :: '"' :: '"' :: rest => some ([], rest)
  | '\\' :: 'u' :: a :: b :: c :: d :: rest => do
    let x ← codePoint? [a, b, c, d]
    let (xs, rest) ← takeQuotedLines? rest
    return (x :: xs, rest)
  | '\\' :: 'U' :: a :: b :: c :: d :: e :: f :: g :: h :: rest => do
    let x ← codePoint? [a, b, c, d, e, f, g, h]
    let (xs, rest) ← takeQuotedLines? rest
    return (x :: xs, rest)
  | '\\' :: e :: rest =>
    match h : skipToText? (e :: rest) with
    | some rest' =>
      have := length_skipToText?_le h
      takeQuotedLines? rest'
    | none => do
      let x ← escape? e
      let (xs, rest) ← takeQuotedLines? rest
      return (x :: xs, rest)
  | '\r' :: '\n' :: rest => do
    let (xs, rest) ← takeQuotedLines? rest
    return ('\n' :: xs, rest)
  | c :: rest =>
    if (isTextChar c || c = '\n') && c ≠ '\\' then do
      let (xs, rest) ← takeQuotedLines? rest
      return (c :: xs, rest)
    else none
  | [] => none
termination_by cs.length
decreasing_by all_goals simp_all <;> omega

/-- A text between threefold apostrophes. -/
def takeLiteralLines? : List Char → Option (List Char × List Char)
  | '\'' :: '\'' :: '\'' :: '\'' :: '\'' :: rest => some (['\'', '\''], rest)
  | '\'' :: '\'' :: '\'' :: '\'' :: rest => some (['\''], rest)
  | '\'' :: '\'' :: '\'' :: rest => some ([], rest)
  | '\r' :: '\n' :: rest => do
    let (xs, rest) ← takeLiteralLines? rest
    return ('\n' :: xs, rest)
  | c :: rest =>
    if isTextChar c || c = '\n' then do
      let (xs, rest) ← takeLiteralLines? rest
      return (c :: xs, rest)
    else none
  | [] => none

/-- The text without a line break at its very beginning. -/
def dropFirstBreak (cs : List Char) : List Char := (afterBreak? cs).getD cs

/-- A text in any of the four notations, and what follows it. -/
def takeText? (cs : List Char) : Option (String × List Char) :=
  let found := match cs with
    | '"' :: '"' :: '"' :: rest => takeQuotedLines? (dropFirstBreak rest)
    | '"' :: rest => takeQuoted? rest
    | '\'' :: '\'' :: '\'' :: rest => takeLiteralLines? (dropFirstBreak rest)
    | '\'' :: rest => takeLiteral? rest
    | _ => none
  found.map fun p => (String.ofList p.1, p.2)

end Toml

end SpendGuard
