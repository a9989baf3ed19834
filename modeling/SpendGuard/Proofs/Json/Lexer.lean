import Mathlib.Data.List.TakeWhile
import SpendGuard.Json.Lexer
import SpendGuard.Json.Printer
import SpendGuard.Proofs.Decimal

/-!
# Tokens that are read back

What the printer writes for a text or an integer is read as one token: a **text literal** whatever
follows it (`tokens?_literalChars_append`), and a **word** as long as nothing goes on with it
(`tokens?_word_append`). Blanks are passed over.
-/

namespace SpendGuard

namespace Json

variable {rest : List Char}

/-! ### Text literals -/

/-- The escape of a control character names it. -/
theorem unit?_control {n : Nat} (h : n < 32) :
    unit? '0' '0' (Nat.digitChar (n / 16)) (Nat.digitChar (n % 16)) =
      some (.char (Char.ofNat n)) := by
  have hread : Hex.number? ['0', '0', Nat.digitChar (n / 16), Nat.digitChar (n % 16)] = some n := by
    revert n
    decide
  have hlow : ¬ 0xD800 ≤ n := by omega
  simp [unit?, hread, hlow]

/-- **A character is read back** from the way it is written in a literal. -/
theorem takeLiteral?_literalChar_append (c : Char) {ps : List Piece} {after : List Char}
    (h : takeLiteral? rest = some (ps, after)) :
    takeLiteral? (literalChar c ++ rest) = some (.char c :: ps, after) := by
  have hescape {e : Char} (hne : e ≠ 'u') (he : escape? e = some c) :
      takeLiteral? ('\\' :: e :: rest) = some (.char c :: ps, after) := by
    rw [takeLiteral?.eq_4 _ _ fun _ _ _ _ _ heq => absurd heq hne, he, h]
    rfl
  -- Seven characters have an escape of their own, the other control characters a numeric one.
  unfold literalChar
  split_ifs with hquote hslash hb hf hn hr ht hlow
  · exact hescape (by decide) (by rw [hquote]; rfl)
  · exact hescape (by decide) (by rw [hslash]; rfl)
  · exact hescape (by decide) (by rw [hb]; rfl)
  · exact hescape (by decide) (by rw [hf]; rfl)
  · exact hescape (by decide) (by rw [hn]; rfl)
  · exact hescape (by decide) (by rw [hr]; rfl)
  · exact hescape (by decide) (by rw [ht]; rfl)
  · simp only [List.cons_append, List.nil_append]
    rw [takeLiteral?, unit?_control hlow, h, Char.ofNat_toNat]
    rfl
  · -- Any other character stands for itself.
    rw [List.singleton_append, takeLiteral?.eq_5 _ _ hquote (fun _ _ _ _ _ heq => absurd heq hslash)
      (fun _ _ heq => absurd heq hslash), if_neg (by simp [hlow, hslash]), h]
    rfl

theorem takeLiteral?_flatMap_append (cs rest : List Char) :
    takeLiteral? (cs.flatMap literalChar ++ '"' :: rest) = some (cs.map .char, rest) := by
  induction cs with
  | nil => rw [List.flatMap_nil, List.nil_append, takeLiteral?, List.map_nil]
  | cons c cs ih =>
    rw [List.flatMap_cons, List.append_assoc, List.map_cons]
    exact takeLiteral?_literalChar_append c ih

theorem joinPieces_map_char (cs : List Char) : joinPieces (cs.map .char) = some cs := by
  induction cs with
  | nil => rfl
  | cons c cs ih => rw [List.map_cons, joinPieces, ih, Option.map_some]

/-! ### Numbers -/

/-- Digits are read as the number they spell, after a minus sign unless it is zero. -/
theorem number?_natChars (negative : Bool) {n : Nat} (h : negative = true → n ≠ 0) :
    number? negative (Decimal.natChars n) = some (.int (if negative then -n else n)) := by
  obtain ⟨c, cs, heq, hzero⟩ := Decimal.natChars_eq_cons n
  have hdigits : ∀ d ∈ Decimal.natChars n, d.isDigit = true :=
    fun d hd => Decimal.isDigit_of_mem_natChars hd
  have htail : numberTail? negative (Decimal.natChars n) [] =
      some (.int (if negative then -n else n)) := by
    rw [numberTail?, Decimal.ofDigits_natChars]
    have hminus : ¬ (negative && decide (n = 0)) = true := by
      simpa using h
    rw [if_neg hminus]
  have htake := List.takeWhile_eq_self_iff.mpr hdigits
  have hdrop := List.dropWhile_eq_nil_iff.mpr hdigits
  rw [← htail]
  simp only [number?, htake, hdrop]
  split
  · next hnil =>
    rw [heq] at hnil
    cases hnil
  · rfl
  · next rest hmore hneedless =>
    -- A leading zero would be the only digit.
    rw [heq] at hneedless
    cases hneedless
    obtain ⟨-, rfl⟩ := hzero rfl
    exact absurd rfl hmore
  · rfl

/-- An integer is read back. -/
theorem word?_intChars (i : Int) : word? (Decimal.intChars i) = some (.int i) := by
  cases i with
  | ofNat n =>
    obtain ⟨c, cs, heq, -⟩ := Decimal.natChars_eq_cons n
    have hdigit : c.isDigit = true :=
      Decimal.isDigit_of_mem_natChars (n := n) (heq ▸ List.mem_cons_self)
    -- A digit begins none of the three names and is no minus sign.
    have hword : word? (Decimal.natChars n) = number? false (Decimal.natChars n) := by
      rw [heq]
      unfold word?
      split
      · next h => cases h; exact absurd hdigit (by decide)
      · next h => cases h; exact absurd hdigit (by decide)
      · next h => cases h; exact absurd hdigit (by decide)
      · next h => cases h; exact absurd hdigit (by decide)
      · rfl
    exact hword.trans (number?_natChars false (by simp))
  | negSucc n => exact number?_natChars true (by omega)

/-! ### Tokens -/

/-- No word goes on: there is nothing more, or a character that belongs to no word. -/
def Ends (rest : List Char) : Prop := ∀ c, rest.head? = some c → isWordChar c = false

theorem Ends.nil : Ends [] := fun _ h => by cases h

theorem Ends.cons {c : Char} (h : isWordChar c = false) : Ends (c :: rest) := by
  rintro _ ⟨⟩
  exact h

/-- Blanks are passed over. -/
theorem tokens?_blanks_append {blanks : List Char} (h : ∀ c ∈ blanks, isBlank c = true) :
    tokens? (blanks ++ rest) = tokens? rest := by
  induction blanks with
  | nil => rfl
  | cons c blanks ih =>
    rw [List.cons_append, tokens?, if_pos (h c List.mem_cons_self)]
    exact ih fun c hc => h c (List.mem_cons_of_mem _ hc)

theorem tokens?_punctuation {c : Char} {t : Token} (hblank : isBlank c = false)
    (h : punctuation? c = some t) : tokens? (c :: rest) = (tokens? rest).map (t :: ·) := by
  rw [tokens?, hblank, h]
  rfl

/-- **A text literal is one token**, whatever follows it. -/
theorem tokens?_literalChars_append (s : String) :
    tokens? (literalChars s ++ rest) = (tokens? rest).map (.text (some s) :: ·) := by
  have hquote : literalChars s ++ rest = '"' :: (s.toList.flatMap literalChar ++ '"' :: rest) := by
    simp [literalChars]
  have hread := takeLiteral?_flatMap_append s.toList rest
  rw [hquote, tokens?]
  simp only [show isBlank '"' = false from rfl, show punctuation? '"' = none from rfl,
    Bool.false_eq_true, if_false, if_true]
  split
  · next hnone =>
    rw [hread] at hnone
    cases hnone
  · next ps after hsome =>
    rw [hread] at hsome
    cases hsome
    rw [joinPieces_map_char, Option.map_some, String.ofList_toList]

/-- **A word is one token**, if nothing goes on with it. -/
theorem tokens?_word_append {w : List Char} {t : Token} (hword : word? w = some t)
    (hchars : ∀ c ∈ w, isWordChar c = true) (hends : Ends rest) :
    tokens? (w ++ rest) = (tokens? rest).map (t :: ·) := by
  cases w with
  | nil => cases hword
  | cons c cs =>
    have hc : isWordChar c = true := hchars c List.mem_cons_self
    have hcs : ∀ d ∈ cs, isWordChar d = true := fun d hd => hchars d (List.mem_cons_of_mem _ hd)
    have htake : rest.takeWhile isWordChar = [] := by
      cases rest with
      | nil => rfl
      | cons d rest => rw [List.takeWhile_cons, hends d rfl, if_neg Bool.false_ne_true]
    have hdrop : rest.dropWhile isWordChar = rest := by
      cases rest with
      | nil => rfl
      | cons d rest => rw [List.dropWhile_cons, hends d rfl, if_neg Bool.false_ne_true]
    obtain ⟨⟨hblank, hpunctuation⟩, hquote⟩ :
        (isBlank c = false ∧ punctuation? c = none) ∧ c ≠ '"' := by
      simpa [isWordChar] using hc
    rw [List.cons_append, tokens?]
    simp only [hblank, hpunctuation, hquote, Bool.false_eq_true, if_false]
    rw [List.takeWhile_append_of_pos hcs, List.dropWhile_append_of_pos hcs, htake, hdrop,
      List.append_nil, hword]

theorem isWordChar_of_isDigit {c : Char} (h : c.isDigit = true) : isWordChar c = true := by
  have hne {d : Char} (hd : d.isDigit = false) : c ≠ d := by
    rintro rfl
    rw [h] at hd
    cases hd
  simp [isWordChar, isBlank, punctuation?, hne (d := ' ') rfl, hne (d := '\t') rfl,
    hne (d := '\n') rfl, hne (d := '\r') rfl, hne (d := '\x7b') rfl, hne (d := '\x7d') rfl,
    hne (d := '[') rfl, hne (d := ']') rfl, hne (d := ',') rfl, hne (d := ':') rfl,
    hne (d := '"') rfl]

theorem isWordChar_of_mem_intChars {i : Int} {c : Char} (h : c ∈ Decimal.intChars i) :
    isWordChar c = true := by
  cases i with
  | ofNat n => exact isWordChar_of_isDigit (Decimal.isDigit_of_mem_natChars h)
  | negSucc n =>
    rcases List.mem_cons.mp h with rfl | h
    · decide
    · exact isWordChar_of_isDigit (Decimal.isDigit_of_mem_natChars h)

end Json

end SpendGuard
