import SpendGuard.Decimal
import SpendGuard.Json.Value

/-!
# JSON tokens

Blanks separate tokens, six characters are tokens by themselves, quotation marks enclose text
literals, and whatever else stands together is one word: a number, `null`, `true` or `false`.
-/

namespace SpendGuard

namespace Json

/-! ### Characters -/

/-- The blanks: space, tab, line feed and carriage return. -/
def isBlank (c : Char) : Bool := c = ' ' || c = '\t' || c = '\n' || c = '\r'

/-- The characters that are tokens by themselves. -/
def punctuation? (c : Char) : Option Token :=
  if c = '\x7b' then some .openBrace
  else if c = '\x7d' then some .closeBrace
  else if c = '[' then some .openBracket
  else if c = ']' then some .closeBracket
  else if c = ',' then some .comma
  else if c = ':' then some .colon
  else none

/-- The characters that words are made of. -/
def isWordChar (c : Char) : Bool := !isBlank c && (punctuation? c).isNone && c ≠ '"'

/-! ### Numbers -/

/-- An exponent after its letter: a sign, which may be missing, and digits. -/
def exponent? (cs : List Char) : Option Int :=
  let (negative, digits) := match cs with
    | '-' :: rest => (true, rest)
    | '+' :: rest => (false, rest)
    | rest => (false, rest)
  if digits.isEmpty || !digits.all Char.isDigit then none
  else
    let n : Int := Decimal.ofDigits digits
    some (if negative then -n else n)

/-- A number with its integer part already read. An integer is exact; minus zero is no
integer. -/
def numberTail? (negative : Bool) (whole rest : List Char) : Option Token :=
  match rest with
  | [] =>
    let n := Decimal.ofDigits whole
    if negative && n = 0 then some (.real ⟨true, 0, 0⟩)
    else some (.int (if negative then -n else n))
  | '.' :: rest =>
    let fraction := rest.takeWhile Char.isDigit
    if fraction.isEmpty then none
    else match rest.dropWhile Char.isDigit with
      | [] => some (.real (.ofParts negative whole fraction 0))
      | e :: rest =>
        if e = 'e' || e = 'E' then
          (exponent? rest).map fun x => .real (.ofParts negative whole fraction x)
        else none
  | e :: rest =>
    if e = 'e' || e = 'E' then
      (exponent? rest).map fun x => .real (.ofParts negative whole [] x)
    else none

/-- A number after its sign: an integer part without needless zeros, then fraction and
exponent. -/
def number? (negative : Bool) (cs : List Char) : Option Token :=
  let whole := cs.takeWhile Char.isDigit
  match whole with
  | [] => none
  | ['0'] => numberTail? negative whole (cs.dropWhile Char.isDigit)
  | '0' :: _ => none
  | _ => numberTail? negative whole (cs.dropWhile Char.isDigit)

/-- The token that a word is. -/
def word? : List Char → Option Token
  | ['n', 'u', 'l', 'l'] => some .null
  | ['t', 'r', 'u', 'e'] => some (.bool true)
  | ['f', 'a', 'l', 's', 'e'] => some (.bool false)
  | '-' :: cs => number? true cs
  | cs => number? false cs

/-! ### Text literals -/

/-- A piece of a text literal: a character, or half of a surrogate pair. -/
inductive Piece where
  | char (c : Char)
  | half (unit : Nat)

/-- What a four-digit escape names. -/
def unit? (a b c d : Char) : Option Piece := do
  let n ← Hex.number? [a, b, c, d]
  return if 0xD800 ≤ n && n ≤ 0xDFFF then .half n else .char (Char.ofNat n)

/-- What a one-letter escape names. -/
def escape? (c : Char) : Option Char :=
  if c = '"' || c = '\\' || c = '/' then some c
  else if c = 'b' then some '\x08'
  else if c = 'f' then some '\x0c'
  else if c = 'n' then some '\n'
  else if c = 'r' then some '\r'
  else if c = 't' then some '\t'
  else none

/-- The pieces up to the closing quotation mark, and what follows it. -/
def takeLiteral? : List Char → Option (List Piece × List Char)
  | [] => none
  | '"' :: rest => some ([], rest)
  | '\\' :: 'u' :: a :: b :: c :: d :: rest => do
    let p ← unit? a b c d
    let (ps, rest) ← takeLiteral? rest
    return (p :: ps, rest)
  | '\\' :: e :: rest => do
    let c ← escape? e
    let (ps, rest) ← takeLiteral? rest
    return (.char c :: ps, rest)
  | c :: rest =>
    if c.toNat < 32 || c = '\\' then none
    else do
      let (ps, rest) ← takeLiteral? rest
      return (.char c :: ps, rest)

/-- The characters that pieces make: an upper half and the lower half right after it make one. -/
def joinPieces : List Piece → Option (List Char)
  | [] => some []
  | .char c :: rest => (joinPieces rest).map (c :: ·)
  | .half hi :: .half lo :: rest =>
    if hi < 0xDC00 && 0xDC00 ≤ lo then
      (joinPieces rest).map (Char.ofNat ((hi - 0xD800) * 0x400 + (lo - 0xDC00) + 0x10000) :: ·)
    else none
  | .half _ :: _ => none

/-- A closing quotation mark is always found further on. -/
theorem length_lt_of_takeLiteral? {cs rest : List Char} {ps : List Piece}
    (h : takeLiteral? cs = some (ps, rest)) : rest.length < cs.length := by
  fun_induction takeLiteral? cs generalizing ps with
  | case1 => cases h
  | case2 r => cases h; simp
  | case3 a b c d r ih =>
    simp only [Option.bind_eq_bind, Option.bind_eq_some_iff, Option.pure_def,
      Option.some.injEq, Prod.mk.injEq] at h
    obtain ⟨_, _, ⟨_, _⟩, hr, _, rfl⟩ := h
    have hlt := ih hr
    simp only [List.length_cons] at hlt ⊢
    omega
  | case4 e r _ ih =>
    simp only [Option.bind_eq_bind, Option.bind_eq_some_iff, Option.pure_def,
      Option.some.injEq, Prod.mk.injEq] at h
    obtain ⟨_, _, ⟨_, _⟩, hr, _, rfl⟩ := h
    have hlt := ih hr
    simp only [List.length_cons] at hlt ⊢
    omega
  | case5 => cases h
  | case6 c r _ _ _ _ ih =>
    simp only [Option.bind_eq_bind, Option.bind_eq_some_iff, Option.pure_def,
      Option.some.injEq, Prod.mk.injEq] at h
    obtain ⟨⟨_, _⟩, hr, _, rfl⟩ := h
    have hlt := ih hr
    simp only [List.length_cons] at hlt ⊢
    omega

/-! ### Tokens -/

/-- The tokens of a text, when it has no other parts. -/
def tokens? (cs : List Char) : Option (List Token) :=
  match cs with
  | [] => some []
  | c :: rest =>
    if isBlank c then tokens? rest
    else match punctuation? c with
      | some t => (tokens? rest).map (t :: ·)
      | none =>
        if c = '"' then
          match h : takeLiteral? rest with
          | none => none
          | some (ps, after) =>
            have := length_lt_of_takeLiteral? h
            (tokens? after).map (.text ((joinPieces ps).map String.ofList) :: ·)
        else
          have := (List.dropWhile_suffix isWordChar (l := rest)).length_le
          match word? (c :: rest.takeWhile isWordChar) with
          | none => none
          | some t => (tokens? (rest.dropWhile isWordChar)).map (t :: ·)
termination_by cs.length
decreasing_by all_goals simp_wf <;> omega

end Json

end SpendGuard
