import SpendGuard.Json.Parser
import SpendGuard.Proofs.Json.Lexer

/-!
# Values that are read back

A value is **plain** when all its numbers are integers and all its literals stand for texts. Every
plain value is read back from its text, in any layout that adds only blanks
(`Value.parse?_render`). The proof goes through the tokens of a value: the grammar takes exactly
them from the front of any tokens, and the lexer finds exactly them in the value's text.
-/

namespace SpendGuard

namespace Json

namespace Value

/-- Values that their texts keep. -/
inductive Plain : Value → Prop
  | null : Plain .null
  | bool (b : Bool) : Plain (.bool b)
  | int (i : Int) : Plain (.int i)
  | string (s : String) : Plain (.string s)
  | array {items : List Value} (h : ∀ v ∈ items, Plain v) : Plain (.array items)
  | record {members : List (String × Value)} (h : ∀ m ∈ members, Plain m.2) :
    Plain (.record members)

end Value

/-! ### The tokens of a value -/

mutual

/-- The tokens that spell a value. -/
def tokensOf : Value → List Token
  | .null => [.null]
  | .bool b => [.bool b]
  | .int i => [.int i]
  | .real d => [.real d]
  | .text s => [.text s]
  | .array [] => [.openBracket, .closeBracket]
  | .array (v :: rest) => .openBracket :: (tokensOf v ++ (itemTokens rest ++ [.closeBracket]))
  | .object [] => [.openBrace, .closeBrace]
  | .object (m :: rest) =>
    .openBrace :: .text m.1 :: .colon ::
      (tokensOf m.2 ++ (memberTokens rest ++ [.closeBrace]))

/-- The tokens of the further items of an array. -/
def itemTokens : List Value → List Token
  | [] => []
  | v :: rest => .comma :: (tokensOf v ++ itemTokens rest)

/-- The tokens of the further members of an object. -/
def memberTokens : List (Literal × Value) → List Token
  | [] => []
  | m :: rest => .comma :: .text m.1 :: .colon :: (tokensOf m.2 ++ memberTokens rest)

end

/-- No value begins with the end of an array. -/
theorem tokensOf_append_ne (v : Value) (rest ts : List Token) :
    tokensOf v ++ rest ≠ .closeBracket :: ts := by
  rcases v with _ | _ | _ | _ | _ | (_ | _) | (_ | _) <;> simp [tokensOf]

/-! ### The grammar -/

/-- A value is taken from its tokens, whatever follows them, if there are enough steps. -/
def Taken (v : Value) : Prop :=
  ∀ steps rest, (tokensOf v).length ≤ steps →
    takeValue? steps (tokensOf v ++ rest) = some (v, rest)

theorem takeItems?_itemTokens {items : List Value} (h : ∀ v ∈ items, Taken v) (steps : Nat)
    (rest : List Token) (hsteps : (itemTokens items).length < steps) :
    takeItems? steps (itemTokens items ++ .closeBracket :: rest) = some (items, rest) := by
  induction items generalizing steps with
  | nil =>
    obtain ⟨steps, rfl⟩ := Nat.exists_eq_succ_of_ne_zero (Nat.ne_zero_of_lt hsteps)
    rfl
  | cons v items ih =>
    obtain ⟨steps, rfl⟩ := Nat.exists_eq_succ_of_ne_zero (Nat.ne_zero_of_lt hsteps)
    rw [itemTokens, List.length_cons, List.length_append] at hsteps
    have hv := h v List.mem_cons_self steps (itemTokens items ++ .closeBracket :: rest) (by omega)
    have hitems := ih (fun w hw => h w (List.mem_cons_of_mem _ hw)) steps (by omega)
    rw [itemTokens, List.cons_append, List.append_assoc, takeItems?, hv]
    simp only [bind, Option.bind, hitems]
    rfl

theorem takeMembers?_memberTokens (members : List (Literal × Value))
    (h : ∀ m ∈ members, Taken m.2) (steps : Nat) (rest : List Token)
    (hsteps : (memberTokens members).length < steps) :
    takeMembers? steps (memberTokens members ++ .closeBrace :: rest) = some (members, rest) := by
  induction members generalizing steps with
  | nil =>
    obtain ⟨steps, rfl⟩ := Nat.exists_eq_succ_of_ne_zero (Nat.ne_zero_of_lt hsteps)
    rfl
  | cons m members ih =>
    obtain ⟨steps, rfl⟩ := Nat.exists_eq_succ_of_ne_zero (Nat.ne_zero_of_lt hsteps)
    simp only [memberTokens, List.length_cons, List.length_append] at hsteps
    have hv := h m List.mem_cons_self steps (memberTokens members ++ .closeBrace :: rest) (by omega)
    have hmembers := ih (fun w hw => h w (List.mem_cons_of_mem _ hw)) steps (by omega)
    simp only [memberTokens, List.cons_append, List.append_assoc]
    rw [takeMembers?, hv]
    simp only [bind, Option.bind, hmembers]
    rfl

/-- **The grammar takes a plain value** from its tokens. -/
theorem taken_of_plain {v : Value} (h : v.Plain) : Taken v := by
  -- A step is spent on every token that opens or continues something, so the tokens left bound the
  -- steps left.
  induction h with
  | null | bool | int | string =>
    intro steps rest hsteps
    obtain ⟨steps, rfl⟩ := Nat.exists_eq_succ_of_ne_zero (Nat.ne_zero_of_lt hsteps)
    rfl
  | @array items h ih =>
    intro steps rest hsteps
    cases items with
    | nil =>
      obtain ⟨steps, rfl⟩ := Nat.exists_eq_succ_of_ne_zero (Nat.ne_zero_of_lt hsteps)
      rfl
    | cons v items =>
      simp only [tokensOf, List.length_cons, List.length_append, List.length_nil] at hsteps
      obtain ⟨steps, rfl⟩ := Nat.exists_eq_succ_of_ne_zero (Nat.ne_zero_of_lt hsteps)
      have hv := ih v List.mem_cons_self steps (itemTokens items ++ .closeBracket :: rest)
        (by omega)
      have hitems := takeItems?_itemTokens (fun w hw => ih w (List.mem_cons_of_mem _ hw)) steps rest
        (by omega)
      simp only [tokensOf, List.cons_append, List.append_assoc, List.nil_append]
      -- The array is not empty: what follows its bracket is no closing one.
      rw [takeValue?.eq_8 _ _ fun ts => tokensOf_append_ne v _ ts, hv]
      simp only [bind, Option.bind, hitems]
      rfl
  | @record members h ih =>
    intro steps rest hsteps
    cases members with
    | nil =>
      obtain ⟨steps, rfl⟩ := Nat.exists_eq_succ_of_ne_zero (Nat.ne_zero_of_lt hsteps)
      rfl
    | cons m members =>
      simp only [Value.record, List.map_cons, tokensOf, List.length_cons, List.length_append,
        List.length_nil] at hsteps
      obtain ⟨steps, rfl⟩ := Nat.exists_eq_succ_of_ne_zero (Nat.ne_zero_of_lt hsteps)
      have hrest : ∀ m ∈ members.map fun m => ((some m.1 : Literal), m.2), Taken m.2 := by
        intro w hw
        obtain ⟨m, hm, rfl⟩ := List.mem_map.mp hw
        exact ih m (List.mem_cons_of_mem _ hm)
      have hmembers := takeMembers?_memberTokens _ hrest steps rest (by omega)
      have hv := ih m List.mem_cons_self steps
        (memberTokens (members.map fun m => (some m.1, m.2)) ++ .closeBrace :: rest) (by omega)
      simp only [Value.record, List.map_cons, tokensOf, List.cons_append, List.append_assoc,
        List.nil_append]
      rw [takeValue?, hv]
      simp only [bind, Option.bind, hmembers]
      rfl

/-! ### The printer -/

/-- A layout adds nothing but blanks. -/
structure Layout.Blank (layout : Layout) : Prop where
  /-- Lines are broken by blanks. -/
  lineBreak : ∀ level, ∀ c ∈ layout.lineBreak level, isBlank c = true
  /-- After the colon there are blanks. -/
  colon : ∃ blanks, layout.colon = ':' :: blanks ∧ ∀ c ∈ blanks, isBlank c = true

theorem Layout.blank_compact : Layout.compact.Blank :=
  ⟨fun _ _ h => (List.not_mem_nil h).elim, [], rfl, fun _ h => (List.not_mem_nil h).elim⟩

theorem Layout.blank_indented : Layout.indented.Blank := by
  refine ⟨fun level c hc => ?_, [' '], rfl, fun c hc => ?_⟩
  · rcases List.mem_cons.mp hc with rfl | hc
    · decide
    · rw [List.eq_of_mem_replicate hc]
      decide
  · rw [List.mem_singleton.mp hc]
    decide

variable {layout : Layout}

/-- The tokens of a text in front of others are those of a value, whatever goes before its lines and
however deep it is nested. -/
def Spelled (layout : Layout) (v : Value) : Prop :=
  ∀ level rest, Ends rest →
    tokens? (chars layout level v ++ rest) = (tokens? rest).map (tokensOf v ++ ·)

theorem ends_lineBreak_append (hlayout : layout.Blank) (level : Nat) {rest : List Char}
    (h : Ends rest) : Ends (layout.lineBreak level ++ rest) := by
  cases hbreak : layout.lineBreak level with
  | nil => exact h
  | cons c blanks =>
    have hc := hlayout.lineBreak level c (hbreak ▸ List.mem_cons_self)
    exact Ends.cons (by simp [isWordChar, hc])

theorem ends_itemChars_append (layout : Layout) (level : Nat) (items : List Value)
    {rest : List Char} (h : Ends rest) : Ends (itemChars layout level items ++ rest) := by
  cases items with
  | nil => exact h
  | cons => exact .cons rfl

theorem ends_memberChars_append (layout : Layout) (level : Nat)
    (members : List (Literal × Value)) {rest : List Char} (h : Ends rest) :
    Ends (memberChars layout level members ++ rest) := by
  cases members with
  | nil => exact h
  | cons => exact .cons rfl

theorem tokens?_itemChars (hlayout : layout.Blank) {items : List Value}
    (h : ∀ v ∈ items, Spelled layout v) (level : Nat) {rest : List Char} (hends : Ends rest) :
    tokens? (itemChars layout level items ++ rest) =
      (tokens? rest).map (itemTokens items ++ ·) := by
  induction items with
  | nil => simp [itemChars, itemTokens]
  | cons v items ih =>
    have ih := ih fun w hw => h w (List.mem_cons_of_mem _ hw)
    simp only [itemChars, List.cons_append, List.append_assoc]
    rw [tokens?_punctuation rfl (t := .comma) rfl, tokens?_blanks_append (hlayout.lineBreak level),
      h v List.mem_cons_self level _ (ends_itemChars_append layout level items hends),
      ih]
    simp only [itemTokens, Option.map_map]
    congr 1
    funext ts
    simp

/-- A key, the colon and a value are three steps of the lexer. -/
theorem tokens?_member (hlayout : layout.Blank) (key : String) {v : Value}
    (h : Spelled layout v) (level : Nat) {rest : List Char} (hends : Ends rest) :
    tokens? (literalChars key ++ (layout.colon ++ (chars layout level v ++ rest))) =
      (tokens? rest).map (.text (some key) :: .colon :: tokensOf v ++ ·) := by
  obtain ⟨blanks, hcolon, hblanks⟩ := hlayout.colon
  rw [tokens?_literalChars_append, hcolon, List.cons_append,
    tokens?_punctuation rfl (t := .colon) rfl, tokens?_blanks_append hblanks, h level rest hends]
  simp only [Option.map_map]
  congr 1

theorem tokens?_memberChars (hlayout : layout.Blank) {members : List (String × Value)}
    (h : ∀ m ∈ members, Spelled layout m.2) (level : Nat) {rest : List Char} (hends : Ends rest) :
    tokens? (memberChars layout level (members.map fun m => (some m.1, m.2)) ++ rest) =
      (tokens? rest).map (memberTokens (members.map fun m => (some m.1, m.2)) ++ ·) := by
  induction members with
  | nil => simp [memberChars, memberTokens]
  | cons m members ih =>
    have ih := ih fun w hw => h w (List.mem_cons_of_mem _ hw)
    simp only [List.map_cons, memberChars, Option.getD_some, List.cons_append, List.append_assoc]
    rw [tokens?_punctuation rfl (t := .comma) rfl, tokens?_blanks_append (hlayout.lineBreak level),
      tokens?_member hlayout m.1 (h m List.mem_cons_self) level
        (ends_memberChars_append layout level _ hends), ih]
    simp only [memberTokens, Option.map_map]
    congr 1
    funext ts
    simp

/-- **The lexer finds the tokens of a plain value** in its text. -/
theorem spelled_of_plain (hlayout : layout.Blank) {v : Value} (h : v.Plain) : Spelled layout v := by
  induction h with
  | null =>
    exact fun _ _ hends =>
      tokens?_word_append (w := "null".toList) rfl (List.all_eq_true.mp rfl) hends
  | bool b =>
    intro level rest hends
    cases b
    · exact tokens?_word_append (w := "false".toList) rfl (List.all_eq_true.mp rfl) hends
    · exact tokens?_word_append (w := "true".toList) rfl (List.all_eq_true.mp rfl) hends
  | int i =>
    exact fun _ _ hends =>
      tokens?_word_append (word?_intChars i) (fun c hc => isWordChar_of_mem_intChars hc) hends
  | string s => exact fun _ _ _ => tokens?_literalChars_append s
  | @array items _ ih =>
    intro level rest _
    cases items with
    | nil =>
      simp only [chars, List.cons_append, List.nil_append]
      rw [tokens?_punctuation rfl (t := .openBracket) rfl,
        tokens?_punctuation rfl (t := .closeBracket) rfl, Option.map_map]
      rfl
    | cons v items =>
      have hclose : Ends (layout.lineBreak level ++ ']' :: rest) :=
        ends_lineBreak_append hlayout level (.cons rfl)
      have hafter := ends_itemChars_append layout (level + 1) items hclose
      simp only [chars, List.cons_append, List.append_assoc, List.nil_append]
      rw [tokens?_punctuation rfl (t := .openBracket) rfl,
        tokens?_blanks_append (hlayout.lineBreak _), ih v List.mem_cons_self _ _ hafter,
        tokens?_itemChars hlayout (fun w hw => ih w (List.mem_cons_of_mem _ hw)) _ hclose,
        tokens?_blanks_append (hlayout.lineBreak _),
        tokens?_punctuation rfl (t := .closeBracket) rfl]
      simp only [Option.map_map]
      congr 1
      funext ts
      simp [tokensOf]
  | @record members _ ih =>
    intro level rest _
    cases members with
    | nil =>
      simp only [Value.record, List.map_nil, chars, List.cons_append, List.nil_append]
      rw [tokens?_punctuation rfl (t := .openBrace) rfl,
        tokens?_punctuation rfl (t := .closeBrace) rfl, Option.map_map]
      rfl
    | cons m members =>
      have hclose : Ends (layout.lineBreak level ++ '\x7d' :: rest) :=
        ends_lineBreak_append hlayout level (.cons rfl)
      have hafter := ends_memberChars_append layout (level + 1)
        (members.map fun m => (some m.1, m.2)) hclose
      simp only [Value.record, List.map_cons, chars, Option.getD_some, List.cons_append,
        List.append_assoc, List.nil_append]
      rw [tokens?_punctuation rfl (t := .openBrace) rfl,
        tokens?_blanks_append (hlayout.lineBreak _),
        tokens?_member hlayout m.1 (ih m List.mem_cons_self) _ hafter,
        tokens?_memberChars hlayout (fun w hw => ih w (List.mem_cons_of_mem _ hw)) _ hclose,
        tokens?_blanks_append (hlayout.lineBreak _),
        tokens?_punctuation rfl (t := .closeBrace) rfl]
      simp only [Option.map_map]
      congr 1
      funext ts
      simp [tokensOf]

/-! ### Together -/

/-- **A plain value is read back** from its text. -/
theorem Value.parse?_render (hlayout : layout.Blank) {v : Value} (h : v.Plain) :
    Value.parse? (v.render layout) = some v := by
  have hspelled : tokens? (chars layout 0 v) = some (tokensOf v) := by
    have := spelled_of_plain hlayout h 0 [] .nil
    simpa [tokens?] using this
  have htaken : takeValue? ((tokensOf v).length + 1) (tokensOf v) = some (v, []) := by
    have := taken_of_plain h ((tokensOf v).length + 1) [] (by omega)
    rwa [List.append_nil] at this
  simp [Value.parse?, Value.render, hspelled, Value.ofTokens?, htaken]

end Json

end SpendGuard
