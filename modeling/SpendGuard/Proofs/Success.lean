/-!
# Successes

Whether an answer is a success, as a test (`Except.isOk`) and as a statement. Where it does not
matter what was granted, only that something was, lemmas are stated with the test.
-/

namespace SpendGuard

variable {ε α β : Type}

@[simp]
theorem isOk_ok (a : α) : (Except.ok a : Except ε α).isOk = true := rfl

@[simp]
theorem isOk_error (e : ε) : (Except.error e : Except ε α).isOk = false := rfl

@[simp]
theorem isOk_map (f : α → β) (answer : Except ε α) : (answer.map f).isOk = answer.isOk := by
  cases answer <;> rfl

theorem map_eq_ok_iff {f : α → β} {answer : Except ε α} {b : β} :
    answer.map f = .ok b ↔ ∃ a, answer = .ok a ∧ f a = b := by
  cases answer <;> simp [Except.map]

theorem map_eq_error_iff {f : α → β} {answer : Except ε α} {e : ε} :
    answer.map f = .error e ↔ answer = .error e := by
  cases answer <;> simp [Except.map]

theorem isOk_iff_exists {answer : Except ε α} : answer.isOk = true ↔ ∃ a, answer = .ok a := by
  cases answer <;> simp

theorem not_isOk_iff_exists {answer : Except ε α} :
    ¬ answer.isOk = true ↔ ∃ e, answer = .error e := by
  cases answer <;> simp

/-- One step after another succeeds when the first does and the second does with its result. -/
theorem bind_eq_ok_iff {answer : Except ε α} {next : α → Except ε β} {b : β} :
    answer.bind next = .ok b ↔ ∃ a, answer = .ok a ∧ next a = .ok b := by
  cases answer <;> simp [Except.bind]

/-- A check in front succeeds when it does and what comes after it does. -/
theorem check_bind_eq_ok_iff {check : Except ε Unit} {next : Unit → Except ε β} {b : β} :
    check.bind next = .ok b ↔ check = .ok () ∧ next () = .ok b := by
  cases check <;> simp [Except.bind]

/-- One step after another fails when the first does, or the second does with its result. -/
theorem bind_eq_error_iff {answer : Except ε α} {next : α → Except ε β} {e : ε} :
    answer.bind next = .error e ↔ answer = .error e ∨ ∃ a, answer = .ok a ∧ next a = .error e := by
  cases answer <;> simp [Except.bind]

/-- A check in front that throws makes all fail when it applies, and else it is up to what comes
after. -/
theorem throw_if_eq_error_iff {check : Prop} [Decidable check] {e thrown : ε}
    {next : PUnit → Except ε β} {rest : Except ε β} :
    (if check then (throw thrown : Except ε PUnit).bind next else rest) = .error e ↔
      check ∧ thrown = e ∨ ¬ check ∧ rest = .error e := by
  by_cases hcheck : check
  · simp [hcheck, throw, throwThe, MonadExceptOf.throw, Except.bind]
  · simp [hcheck]

end SpendGuard
