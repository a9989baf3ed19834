import SpendGuard.Json.Lexer

/-!
# Reading JSON values

The grammar over tokens. Every step takes at least one token, so the number of tokens bounds the
steps; `Value.parse?` asks for one value and nothing after it.
-/

namespace SpendGuard

namespace Json

mutual

/-- A value at the front of the tokens, and the tokens after it. -/
def takeValue? : (steps : Nat) → List Token → Option (Value × List Token)
  | 0, _ => none
  | steps + 1, ts =>
    match ts with
    | .null :: ts => some (.null, ts)
    | .bool b :: ts => some (.bool b, ts)
    | .int i :: ts => some (.int i, ts)
    | .real d :: ts => some (.real d, ts)
    | .text s :: ts => some (.text s, ts)
    | .openBracket :: .closeBracket :: ts => some (.array [], ts)
    | .openBracket :: ts => do
      let (v, ts) ← takeValue? steps ts
      let (vs, ts) ← takeItems? steps ts
      return (.array (v :: vs), ts)
    | .openBrace :: .closeBrace :: ts => some (.object [], ts)
    | .openBrace :: .text k :: .colon :: ts => do
      let (v, ts) ← takeValue? steps ts
      let (ms, ts) ← takeMembers? steps ts
      return (.object ((k, v) :: ms), ts)
    | _ => none

/-- The further items of an array, up to its end. -/
def takeItems? : (steps : Nat) → List Token → Option (List Value × List Token)
  | 0, _ => none
  | steps + 1, ts =>
    match ts with
    | .closeBracket :: ts => some ([], ts)
    | .comma :: ts => do
      let (v, ts) ← takeValue? steps ts
      let (vs, ts) ← takeItems? steps ts
      return (v :: vs, ts)
    | _ => none

/-- The further members of an object, up to its end. -/
def takeMembers? : (steps : Nat) → List Token → Option (List (Literal × Value) × List Token)
  | 0, _ => none
  | steps + 1, ts =>
    match ts with
    | .closeBrace :: ts => some ([], ts)
    | .comma :: .text k :: .colon :: ts => do
      let (v, ts) ← takeValue? steps ts
      let (ms, ts) ← takeMembers? steps ts
      return ((k, v) :: ms, ts)
    | _ => none

end

/-- The value that tokens spell, all of them. -/
def Value.ofTokens? (ts : List Token) : Option Value :=
  match takeValue? (ts.length + 1) ts with
  | some (v, []) => some v
  | _ => none

/-- The value that a text spells. -/
def Value.parse? (text : String) : Option Value := do
  let ts ← tokens? text.toList
  Value.ofTokens? ts

end Json

end SpendGuard
