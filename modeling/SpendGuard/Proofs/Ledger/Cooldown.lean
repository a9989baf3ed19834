import SpendGuard.Proofs.Ledger.Refusal

/-!
# A large spend blocks spending for an hour

An account remembers one large spend, the last. That is enough. While a cooldown runs nothing is
spent, so the remembered instant only ever moves forward, on whatever clock, and it stands for all
large spends there were (`Ledger.exists_le_lastLargeSpend`); and it always is the instant of one of
them, or the one that the account began with (`Ledger.largeSpendAt_of_lastLargeSpend`). Nothing but
another large spend changes it: a failed spend puts it back, and a reclamation, which does not have
to pass the cooldown, leaves it alone.
-/

namespace SpendGuard

/-- Calls were carried out that are worth more than half of the daily token cap. -/
def Entry.IsLargeSpend (profile : Profile) (e : Entry) : Prop :=
  ∃ receipt, e.answer = .ok (.executed receipt) ∧
    profile.limits.token.daily.toNat < 2 * Cooldown.value receipt.spend profile.exchangeRate

namespace Ledger

/-- The instants of large spends: the one that an account remembers, and those of entries. -/
inductive LargeSpendAt (l : Ledger) (entries : List Entry) : Instant → Prop
  /-- The account remembers it. -/
  | remembered {t : Instant} (stamp : l.state.lastLargeSpend = some t) : LargeSpendAt l entries t
  /-- It is that of an entry. -/
  | spent {e : Entry} (mem : e ∈ entries) (large : e.IsLargeSpend l.profile) :
      LargeSpendAt l entries e.now

variable {σ : Type} {x : Executor σ} {l l' : Ledger} {now t : Instant} {world world' : σ}
  {request : Request} {answer : Except Error Grant} {rest : List Entry}

/-! ### One request -/

/-- A large spend is remembered, and was made when no cooldown was running. -/
theorem Outcome.lastLargeSpend_of_large (h : Outcome x l now world request answer l' world')
    (hlarge : (⟨now, request, answer⟩ : Entry).IsLargeSpend l.profile) :
    l'.state.lastLargeSpend = some now ∧
      ∀ t, l.state.lastLargeSpend = some t → t.after Cooldown.length ≤ now := by
  obtain ⟨receipt, hanswer, hvalue⟩ := hlarge
  cases h with
  | executed _ _ _ judged _ =>
    cases hanswer
    obtain ⟨stamp, sol, token, hgate, -, -, rfl⟩ := Policy.spend_eq_ok_iff.mp judged
    obtain ⟨hcooled, rfl⟩ := Cooldown.gate_eq_ok_iff.mp hgate
    refine ⟨?_, hcooled⟩
    exact if_pos (Cooldown.isLarge_iff.mpr hvalue)
  | refused | failed | reclaimed | foreseen | requested | withdrawnNothing | withdrawn =>
    cases hanswer

/-- Anything else leaves what is remembered as it was. -/
theorem Outcome.lastLargeSpend_of_not_large (h : Outcome x l now world request answer l' world')
    (hsmall : ¬ (⟨now, request, answer⟩ : Entry).IsLargeSpend l.profile) :
    l'.state.lastLargeSpend = l.state.lastLargeSpend := by
  cases h with
  | executed _ _ _ judged _ =>
    obtain ⟨stamp, sol, token, hgate, -, -, rfl⟩ := Policy.spend_eq_ok_iff.mp judged
    obtain ⟨-, rfl⟩ := Cooldown.gate_eq_ok_iff.mp hgate
    refine if_neg fun hlarge => hsmall ⟨_, rfl, ?_⟩
    exact Cooldown.isLarge_iff.mp hlarge
  | reclaimed _ judged _ =>
    obtain ⟨token, -, rfl⟩ := Policy.reclaim_eq_ok_iff.mp judged
    rfl
  | refused | failed | foreseen | requested | withdrawnNothing | withdrawn => rfl

/-- What was carried out for the dispatcher was asked for; a repayment is nothing of the kind. -/
theorem Outcome.exists_calls_of_executed {receipt : Receipt}
    (h : Outcome x l now world request answer l' world')
    (hexecuted : answer = .ok (.executed receipt)) : ∃ calls, request.spending? = some calls := by
  cases h with
  | executed _ asked => exact ⟨_, asked⟩
  | refused | failed | reclaimed | foreseen | requested | withdrawnNothing | withdrawn =>
    cases hexecuted

/-- Whatever the dispatcher is granted, it is granted while no cooldown is running. -/
theorem Outcome.cooled_of_ok {grant : Grant}
    (h : Outcome x l now world request (.ok grant) l' world') (hrole : request.role = .dispatcher)
    (ht : l.state.lastLargeSpend = some t) : t.after Cooldown.length ≤ now := by
  have hpassed : ∃ spend, (Policy.spend l.profile l.state spend now).isOk = true := by
    cases h with
    | executed _ _ _ judged _ => exact ⟨_, isOk_iff_exists.mpr ⟨_, judged⟩⟩
    | foreseen judged =>
      obtain ⟨-, _, -, -, hjudged⟩ := preflight_eq_ok_iff.mp judged
      exact ⟨_, hjudged⟩
    | reclaimed | requested | withdrawnNothing | withdrawn => cases hrole
  obtain ⟨spend, hspend⟩ := hpassed
  exact (Policy.isOk_spend_iff.mp hspend).1 t ht

/-- A cooldown is told of by the executor, or to the dispatcher while the hour after the large spend
that the account remembers is running. -/
theorem Refusal.cooldown {ends : Instant}
    (h : Refusal x l now world request (.cooldownActive ends)) :
    x.Reports l.address world (.cooldownActive ends) ∨
      request.role = .dispatcher ∧ now < ends ∧
        ∃ t, l.state.lastLargeSpend = some t ∧ ends = t.after Cooldown.length := by
  cases h with
  | unaccepted asks judged =>
    cases judged with
    | coolingDown stamped running => exact .inr ⟨asks, running, _, stamped, rfl⟩
    | breach _ capped => cases capped
  | overCap judged => cases judged
  | reported executor => exact .inl executor

/-! ### Runs -/

/-- A large spend that is still to come is one for the account as it is then. -/
theorem LargeSpendAt.of_mem_rest (h : Outcome x l now world request answer l' world') {e : Entry}
    (mem : e ∈ rest) (large : e.IsLargeSpend l.profile) : l'.LargeSpendAt rest e.now := by
  rw [← h.sameAccount.profile] at large
  exact .spent mem large

/-- With an answer, every large spend is one that the account remembers from then on, or lies before
it, or is still to come. -/
theorem LargeSpendAt.exists_le_of_outcome (h : Outcome x l now world request answer l' world')
    (hat : l.LargeSpendAt (⟨now, request, answer⟩ :: rest) t) :
    ∃ u, l'.LargeSpendAt rest u ∧ t ≤ u := by
  by_cases hlarge : (⟨now, request, answer⟩ : Entry).IsLargeSpend l.profile
  · obtain ⟨hstamp, hcooled⟩ := h.lastLargeSpend_of_large hlarge
    cases hat with
    | remembered stamp =>
      -- Its hour was over when this one passed, so this one is later on the clock, too.
      exact ⟨now, .remembered hstamp, Int64.le_trans (t.le_after _) (hcooled t stamp)⟩
    | spent mem large =>
      rcases List.mem_cons.mp mem with rfl | mem
      · exact ⟨now, .remembered hstamp, Int64.le_refl now⟩
      · exact ⟨_, .of_mem_rest h mem large, Int64.le_refl _⟩
  · have hstamp := h.lastLargeSpend_of_not_large hlarge
    cases hat with
    | remembered stamp => exact ⟨t, .remembered (hstamp.trans stamp), Int64.le_refl t⟩
    | spent mem large =>
      rcases List.mem_cons.mp mem with rfl | mem
      · exact absurd large hlarge
      · exact ⟨_, .of_mem_rest h mem large, Int64.le_refl _⟩

/-- What the account remembers after an answer is that answer's large spend, or was remembered
before. -/
theorem LargeSpendAt.of_outcome (h : Outcome x l now world request answer l' world')
    (hat : l'.LargeSpendAt rest t) : l.LargeSpendAt (⟨now, request, answer⟩ :: rest) t := by
  cases hat with
  | spent mem large =>
    rw [h.sameAccount.profile] at large
    exact .spent (List.mem_cons_of_mem _ mem) large
  | remembered stamp =>
    by_cases hlarge : (⟨now, request, answer⟩ : Entry).IsLargeSpend l.profile
    · obtain ⟨hstamp, -⟩ := h.lastLargeSpend_of_large hlarge
      obtain rfl := Option.some.inj (hstamp.symm.trans stamp)
      exact .spent List.mem_cons_self hlarge
    · have hstamp := h.lastLargeSpend_of_not_large hlarge
      exact .remembered (hstamp.symm.trans stamp)

variable (l world) (attempts : List (Attempt σ Request))

/-- No large spend is later than the one that is remembered. -/
theorem exists_le_lastLargeSpend (hat : l.LargeSpendAt (l.run world attempts).entries t) :
    ∃ u, (l.run world attempts).ledger.state.lastLargeSpend = some u ∧ t ≤ u := by
  induction attempts generalizing l world t with
  | nil =>
    cases hat with
    | remembered stamp => exact ⟨t, stamp, Int64.le_refl t⟩
    | spent mem => cases mem
  | cons q rest ih =>
    obtain ⟨x, now, request⟩ := q
    rw [entries_run_cons] at hat
    obtain ⟨u, hu, hle⟩ := hat.exists_le_of_outcome (l.outcome_perform x now world request)
    obtain ⟨v, hv, hle'⟩ := ih _ _ hu
    exact ⟨v, hv, Int64.le_trans hle hle'⟩

/-- What is remembered is a large spend. -/
theorem largeSpendAt_of_lastLargeSpend
    (ht : (l.run world attempts).ledger.state.lastLargeSpend = some t) :
    l.LargeSpendAt (l.run world attempts).entries t := by
  induction attempts generalizing l world with
  | nil => exact .remembered ht
  | cons q rest ih =>
    obtain ⟨x, now, request⟩ := q
    rw [entries_run_cons]
    exact (ih _ _ ht).of_outcome (l.outcome_perform x now world request)

/-! ### After a run -/

variable {l world attempts}

/-- The dispatcher is granted nothing at an instant less than an hour after a large spend. -/
theorem LargeSpendAt.isOk_eq_false (hat : l.LargeSpendAt (l.run world attempts).entries t)
    (hrole : request.role = .dispatcher) (hearly : now < t.after Cooldown.length) :
    ((l.run world attempts).ledger.perform x now (l.run world attempts).world
      request).1.isOk = false := by
  -- The remembered large spend is no earlier than this one, so its hour is not over either.
  obtain ⟨u, hu, hle⟩ := exists_le_lastLargeSpend l world attempts hat
  have hlater : t.after Cooldown.length ≤ u.after Cooldown.length := Instant.after_le_after hle _
  have houtcome := (l.run world attempts).ledger.outcome_perform x now
    (l.run world attempts).world request
  cases hanswer : ((l.run world attempts).ledger.perform x now (l.run world attempts).world
    request).1 with
  | error e => rfl
  | ok grant =>
    rw [hanswer] at houtcome
    have hcooled : u.after Cooldown.length ≤ now := houtcome.cooled_of_ok hrole hu
    exact absurd (Int64.le_trans hlater hcooled) (Int64.not_le.mpr hearly)

/-- A reclamation leaves what is remembered alone. -/
theorem Outcome.lastLargeSpend_of_reclaimGas {caller : Key} {amount compute : Amount}
    (h : Outcome x l now world (.reclaimGas caller amount compute) answer l' world') :
    l'.state.lastLargeSpend = l.state.lastLargeSpend := by
  refine h.lastLargeSpend_of_not_large ?_
  rintro ⟨receipt, hexecuted, -⟩
  obtain ⟨calls, hcalls⟩ := h.exists_calls_of_executed hexecuted
  cases hcalls

/-- **A large spend blocks spending for an hour**, whatever was requested before, on whatever clock
and of whatever executors.

* After a large spend nothing that the dispatcher asks for, be it a call, a batch or a preflight, is
  granted at an instant less than an hour after it.
* A reclamation leaves what is remembered alone. It is never told of a cooldown, unless the executor
  itself reports one.
* Whoever else is told of a cooldown is told truly: it is running, and ends an hour after a large
  spend there was, or the one that the account began with. The in-memory chain never reports a
  cooldown. -/
theorem large_spend_blocks (l : Ledger) (world : σ) (earlier : List (Attempt σ Request))
    (x : Executor σ) (now : Instant) (request : Request) :
    let before := l.run world earlier
    let after := before.ledger.perform x now before.world request
    (∀ e ∈ before.entries, e.IsLargeSpend l.profile → request.role = .dispatcher →
      now < e.now.after Cooldown.length → after.1.isOk = false) ∧
    (∀ caller amount compute, request = .reclaimGas caller amount compute →
      after.2.1.state.lastLargeSpend = before.ledger.state.lastLargeSpend ∧
      ∀ ends, after.1 = .error (.cooldownActive ends) →
        x.Reports before.ledger.address before.world (.cooldownActive ends)) ∧
    (∀ ends, after.1 = .error (.cooldownActive ends) →
      x.Reports before.ledger.address before.world (.cooldownActive ends) ∨
        now < ends ∧ ∃ t, l.LargeSpendAt before.entries t ∧ ends = t.after Cooldown.length) ∧
    ∀ account chain ends, ¬ Chain.executor.Reports account chain (.cooldownActive ends) := by
  intro before after
  refine ⟨fun e hmem hlarge hrole hearly => LargeSpendAt.isOk_eq_false (.spent hmem hlarge) hrole
    hearly, ?_, fun ends herror => ?_, fun account chain ends hreports => ?_⟩
  · rintro caller amount compute rfl
    have houtcome := before.ledger.outcome_perform x now before.world
      (.reclaimGas caller amount compute)
    refine ⟨houtcome.lastLargeSpend_of_reclaimGas, fun ends herror => ?_⟩
    -- The policy speaks of a cooldown only where the dispatcher's role is needed.
    obtain hreports | ⟨hrole, -⟩ := (refusal_of_error herror).cooldown
    · exact hreports
    · cases hrole
  · obtain hreports | ⟨-, hearly, t, ht, hends⟩ := (refusal_of_error herror).cooldown
    · exact .inl hreports
    · exact .inr ⟨hearly, t, largeSpendAt_of_lastLargeSpend l world earlier ht, hends⟩
  · obtain ⟨fault, hfault⟩ := Chain.callFailed_of_reports hreports
    cases hfault

/-- A batch of six lamports and five units, which are worth eleven units of the twenty allowed in a
day, and then a repayment and a withdrawal request. -/
def splurge : List (Attempt Unit Request) :=
  Executor.obliging.serving
    [(100, .executeBatch (.repeating 2) [.native (.repeating 6) 6,
        ⟨Token.standardProgram, 0, Token.Instruction.transferData 5,
          [.repeating 7, .repeating 8, .repeating 5]⟩]),
      (200, .reclaimGas (.repeating 3) 3 50000), (300, .requestWithdraw (.repeating 1))]

/-- Neither asset alone makes the batch large. A second before the hour is over one more lamport is
refused, and may not even be foreseen; the sponsor was paid back meanwhile. -/
theorem splurge_blocks :
    let before := (small 0).run () splurge
    let spend := .execute (.repeating 2) (.native (.repeating 6) 1)
    (∃ e ∈ before.entries, e.IsLargeSpend .small ∧ e.now = 100) ∧
      before.ledger.state.token.daily = 8 ∧
      (before.ledger.perform .obliging 3699 before.world spend).1.isOk = false ∧
      (∃ t, (small 0).LargeSpendAt before.entries t ∧ 3700 = t.after Cooldown.length) ∧
      (before.ledger.perform .obliging 3700 before.world spend).1.isOk = true := by
  have hblocks := large_spend_blocks (small 0) () splurge .obliging 3699
    (.execute (.repeating 2) (.native (.repeating 6) 1))
  obtain ⟨e, he, hlarge, hnow⟩ : ∃ e ∈ ((small 0).run () splurge).entries,
      e.IsLargeSpend (small 0).profile ∧ e.now = 100 :=
    ⟨_, List.mem_cons_self, ⟨_, rfl, by decide⟩, rfl⟩
  have hrefused := hblocks.1 e he hlarge rfl (by rw [hnow]; decide)
  have htold : ((((small 0).run () splurge).ledger.perform .obliging 3699
      ((small 0).run () splurge).world
      (.execute (.repeating 2) (.native (.repeating 6) 1))).1) = .error (.cooldownActive 3700) := by
    decide
  obtain hreports | ⟨-, hends⟩ := hblocks.2.2.1 3700 htold
  · rcases hreports with h | h | h <;> cases h
  · exact ⟨⟨e, he, hlarge, hnow⟩, by decide, hrefused, hends, by decide⟩

end Ledger

end SpendGuard
