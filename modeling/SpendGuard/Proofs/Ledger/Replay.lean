import SpendGuard.Proofs.Ledger.Trace

/-!
# Running only what was granted

What becomes of an account in a run depends on the requests that were granted and on nothing else:
not on those that failed, and not on the executors beyond whether they carried things out. What one
granted request makes of the account is told by the request and its instant
(`Ledger.Outcome.ledger_unique`), and an executor that carries out everything grants it again
(`Ledger.isOk_perform_obliging`). So the granted requests can be run by themselves, and they lead to
the same account (`Ledger.ledger_run_granted`).
-/

namespace SpendGuard

namespace Course

variable {σ : Type}

/-- The run with only those of its entries that were granted. -/
def onlyGranted (c : Course σ) : Course σ :=
  ⟨c.entries.filter fun e => e.answer.isOk, c.ledger, c.world⟩

/-- The requests of a run that were granted, each at its instant. -/
def granted (c : Course σ) : List (Instant × Request) :=
  c.onlyGranted.entries.map fun e => (e.now, e.request)

end Course

namespace Ledger

variable {σ τ : Type} {x : Executor σ} {y : Executor τ} {l l₁ l₂ : Ledger} {now : Instant}
  {world world₁ : σ} {other other₂ : τ} {request : Request} {grant grant' : Grant}

/-! ### One request -/

/-- What a granted request makes of the account does not depend on the executor. -/
theorem Outcome.ledger_unique (h : Outcome x l now world request (.ok grant) l₁ world₁)
    (h' : Outcome y l now other request (.ok grant') l₂ other₂) : l₁ = l₂ := by
  cases h with
  | executed _ asked classified judged _ =>
    cases h' with
    | executed _ asked' classified' judged' _ =>
      cases asked.symm.trans asked'
      cases classified.symm.trans classified'
      cases judged.symm.trans judged'
      rfl
    | reclaimed | foreseen | requested | withdrawnNothing | withdrawn => cases asked
  | reclaimed _ judged _ =>
    cases h' with
    | executed _ asked _ _ _ => cases asked
    | reclaimed _ judged' _ =>
      cases judged.symm.trans judged'
      rfl
  | foreseen =>
    cases h' with
    | executed _ asked _ _ _ => cases asked
    | foreseen => rfl
  | requested =>
    cases h' with
    | executed _ asked _ _ _ => cases asked
    | requested => rfl
  | withdrawnNothing | withdrawn =>
    cases h' with
    | executed _ asked _ _ _ => cases asked
    | withdrawnNothing | withdrawn => rfl

/-- Whatever is granted at all is granted by an executor that carries out everything. -/
theorem isOk_perform_obliging (h : (l.perform x now world request).1.isOk = true) :
    (l.perform .obliging now () request).1.isOk = true := by
  cases request with
  | execute caller call =>
    rw [perform, Prod.map_fst, isOk_map, isOk_execute_iff] at h ⊢
    obtain ⟨hcaller, spend, classified, judged, -⟩ := h
    exact ⟨hcaller, spend, classified, judged, rfl⟩
  | executeBatch caller calls =>
    rw [perform, Prod.map_fst, isOk_map, isOk_executeBatch_iff] at h ⊢
    obtain ⟨hcaller, spend, classified, judged, -⟩ := h
    exact ⟨hcaller, spend, classified, judged, rfl⟩
  | reclaimGas caller amount compute =>
    rw [perform, Prod.map_fst, isOk_map, isOk_reclaimGas_iff] at h ⊢
    obtain ⟨hcaller, enough, judged, call, built, -⟩ := h
    exact ⟨hcaller, enough, judged, call, built, rfl⟩
  | preflight caller calls fee => exact h
  | requestWithdraw caller => exact h
  | executeWithdraw caller recipient =>
    rw [perform, Prod.map_fst, isOk_map, isOk_executeWithdraw_iff] at h ⊢
    obtain ⟨hcaller, released, -⟩ := h
    -- The obliging executor holds nothing, so there is nothing to send.
    exact ⟨hcaller, released, 0, 0, [], rfl, rfl, rfl, .inl rfl⟩

/-- Two executors that grant a request make the same of the account. -/
theorem ledger_perform_unique (h : (l.perform x now world request).1.isOk = true)
    (h' : (l.perform y now other request).1.isOk = true) :
    (l.perform x now world request).2.1 = (l.perform y now other request).2.1 := by
  obtain ⟨grant, hgrant⟩ := isOk_iff_exists.mp h
  obtain ⟨grant', hgrant'⟩ := isOk_iff_exists.mp h'
  have houtcome := l.outcome_perform x now world request
  have houtcome' := l.outcome_perform y now other request
  rw [hgrant] at houtcome
  rw [hgrant'] at houtcome'
  exact houtcome.ledger_unique houtcome'

/-! ### Runs -/

section Run

variable {rest : List (Attempt σ Request)}

theorem granted_run_cons_of_isOk (h : (l.perform x now world request).1.isOk = true) :
    (l.run world (⟨x, now, request⟩ :: rest)).granted =
      (now, request) :: (l.runAfter x world now request rest).granted := by
  simp [Course.granted, Course.onlyGranted, entries_run_cons, h]

theorem granted_run_cons_of_not_isOk (h : ¬ (l.perform x now world request).1.isOk = true) :
    (l.run world (⟨x, now, request⟩ :: rest)).granted =
      (l.runAfter x world now request rest).granted := by
  simp [Course.granted, Course.onlyGranted, entries_run_cons, h]

theorem onlyGranted_run_cons_of_isOk (h : (l.perform x now world request).1.isOk = true) :
    (l.run world (⟨x, now, request⟩ :: rest)).onlyGranted =
      ⟨⟨now, request, (l.perform x now world request).1⟩ ::
          (l.runAfter x world now request rest).onlyGranted.entries,
        (l.runAfter x world now request rest).ledger,
        (l.runAfter x world now request rest).world⟩ := by
  simp [Course.onlyGranted, run_cons, h]

theorem onlyGranted_run_cons_of_not_isOk (h : ¬ (l.perform x now world request).1.isOk = true) :
    (l.run world (⟨x, now, request⟩ :: rest)).onlyGranted =
      (l.runAfter x world now request rest).onlyGranted := by
  simp [Course.onlyGranted, run_cons, h]

variable (l world) (attempts : List (Attempt σ Request))

/-- Executors that grant all that was granted make of the account what the run made of it. -/
theorem ledger_run_granted (again : List (Attempt τ Request)) (other : τ)
    (hagain : again.map Attempt.order = (l.run world attempts).granted)
    (hall : ∀ e ∈ (l.run other again).entries, e.answer.isOk = true) :
    (l.run other again).ledger = (l.run world attempts).ledger := by
  induction attempts generalizing l world again other with
  | nil =>
    obtain rfl := List.map_eq_nil_iff.mp hagain
    rfl
  | cons q rest ih =>
    obtain ⟨x, now, request⟩ := q
    rw [ledger_run_cons]
    by_cases hok : (l.perform x now world request).1.isOk = true
    · rw [granted_run_cons_of_isOk hok] at hagain
      obtain ⟨⟨y, now', request'⟩, again', rfl, horder, hrest⟩ := List.map_eq_cons_iff.mp hagain
      cases horder
      rw [entries_run_cons, List.forall_mem_cons] at hall
      have hsame := ledger_perform_unique hall.1 hok
      rw [ledger_run_cons, runAfter, hsame]
      rw [runAfter, hsame] at hall
      exact ih _ _ _ _ hrest hall.2
    · obtain ⟨e, herror⟩ := not_isOk_iff_exists.mp hok
      rw [granted_run_cons_of_not_isOk hok, runAfter, ledger_perform_of_error herror] at hagain
      rw [runAfter, ledger_perform_of_error herror]
      exact ih _ _ _ _ hagain hall

/-- An executor that carries out everything grants all that was granted. -/
theorem isOk_of_mem_run_granted :
    ∀ e ∈ (l.run () (Executor.obliging.serving (l.run world attempts).granted)).entries,
      e.answer.isOk = true := by
  induction attempts generalizing l world with
  | nil => exact fun _ h => nomatch h
  | cons q rest ih =>
    obtain ⟨x, now, request⟩ := q
    by_cases hok : (l.perform x now world request).1.isOk = true
    · have hok' := isOk_perform_obliging hok
      rw [granted_run_cons_of_isOk hok, Executor.serving_cons, entries_run_cons,
        List.forall_mem_cons, runAfter, ledger_perform_unique hok' hok]
      exact ⟨hok', ih _ _⟩
    · obtain ⟨e, herror⟩ := not_isOk_iff_exists.mp hok
      rw [granted_run_cons_of_not_isOk hok, runAfter, ledger_perform_of_error herror]
      exact ih _ _

/-- On an in-memory chain the granted requests run by themselves as they did among the others. -/
theorem run_granted_chain (chain : Chain) (requests : List (Instant × Request)) :
    let course := l.run chain (Chain.executor.serving requests)
    l.run chain (Chain.executor.serving course.granted) = course.onlyGranted := by
  induction requests generalizing l chain with
  | nil => rfl
  | cons q rest ih =>
    obtain ⟨now, request⟩ := q
    dsimp only at ih ⊢
    rw [Executor.serving_cons]
    by_cases hok : (l.perform Chain.executor now chain request).1.isOk = true
    · rw [granted_run_cons_of_isOk hok, onlyGranted_run_cons_of_isOk hok, Executor.serving_cons,
        run_cons, runAfter, runAfter, ih]
      rfl
    · obtain ⟨e, herror⟩ := not_isOk_iff_exists.mp hok
      rw [granted_run_cons_of_not_isOk hok, onlyGranted_run_cons_of_not_isOk hok, runAfter,
        perform_chain_of_error herror]
      exact ih l chain

end Run

end Ledger

end SpendGuard
