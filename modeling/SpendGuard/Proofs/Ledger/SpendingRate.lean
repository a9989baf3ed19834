import SpendGuard.Proofs.Ledger.Counting

/-!
# The spending rate

However requests are timed, an account spends at most twice a cap in any stretch of time as long
as the cap's period (`Ledger.totalBetween_le_two_caps`). The windows are lazy: one is anchored anew
by the first request that is granted after its end. So two of its beginnings are at least a period
apart, and a stretch of that length, wherever it lies, meets at most two windows, in each of which
the counter stayed within the cap. The factor cannot be lowered: a full cap just before a window
ends and another one right after it lie in one such stretch.

The clock has to run forward and to stay short of the last instant, where every window is over.
-/

namespace SpendGuard

/-! ### Totals -/

/-- What receipts count of an asset over a stretch of time, the beginning included and the end
not. -/
def totalBetween (asset : Asset) (since before : Int) (receipts : List Receipt) : Nat :=
  ((receipts.filter fun r => since ≤ r.executedAt.toInt ∧ r.executedAt.toInt < before).map
    fun r => (r.spend.of asset).toNat).sum

section Totals

variable {asset : Asset} {since before : Int} {receipts : List Receipt}

theorem totalBetween_cons (r : Receipt) :
    totalBetween asset since before (r :: receipts) =
      (if since ≤ r.executedAt.toInt ∧ r.executedAt.toInt < before then (r.spend.of asset).toNat
        else 0) + totalBetween asset since before receipts := by
  unfold totalBetween
  split
  · next h => simp [h]
  · next h => simp [h]

/-- Receipts from the end of the stretch on do not count. -/
theorem totalBetween_eq_zero (h : ∀ r ∈ receipts, before ≤ r.executedAt.toInt) :
    totalBetween asset since before receipts = 0 := by
  have hnone : (receipts.filter fun r => since ≤ r.executedAt.toInt ∧ r.executedAt.toInt < before) =
      [] := by
    refine List.filter_eq_nil_iff.mpr fun r hr => ?_
    have := h r hr
    simp only [decide_eq_true_eq]
    omega
  rw [totalBetween, hnone]
  rfl

end Totals

namespace Ledger

variable {σ : Type} (l : Ledger) (world : σ)

/-! ### Totals of runs -/

/-- Every receipt of a run bears the instant of one of its requests. -/
theorem exists_of_mem_receipts {attempts : List (Attempt σ Request)} {r : Receipt}
    (hr : r ∈ (l.run world attempts).receipts) : ∃ q ∈ attempts, r.executedAt = q.now := by
  induction attempts generalizing l world with
  | nil => cases hr
  | cons q rest ih =>
    obtain ⟨x, now, request⟩ := q
    obtain ⟨entry, hentry, hreceipt⟩ := List.mem_filterMap.mp hr
    rw [entries_run_cons, List.mem_cons] at hentry
    rcases hentry with rfl | hentry
    · exact ⟨_, List.mem_cons_self, (l.outcome_perform x now world request).executedAt_eq hreceipt⟩
    · obtain ⟨q, hq, heq⟩ := ih _ _ (List.mem_filterMap.mpr ⟨entry, hentry, hreceipt⟩)
      exact ⟨q, List.mem_cons_of_mem _ hq, heq⟩

/-- The total of a run is what its first answer counted, if it lies in the stretch, and the total
of the rest. -/
theorem totalBetween_run_cons (asset : Asset) (since before : Int) (x : Executor σ) (now : Instant)
    (request : Request) (rest : List (Attempt σ Request)) :
    totalBetween asset since before (l.run world (⟨x, now, request⟩ :: rest)).receipts =
      (if since ≤ now.toInt ∧ now.toInt < before then
        countedBy asset (l.perform x now world request).1 else 0) +
      totalBetween asset since before (l.runAfter x world now request rest).receipts := by
  have houtcome := l.outcome_perform x now world request
  rw [Course.receipts, entries_run_cons, List.filterMap_cons, countedBy]
  cases hreceipt : receiptOf? (l.perform x now world request).1 with
  | none => simp [Course.receipts]
  | some receipt =>
    rw [totalBetween_cons, houtcome.executedAt_eq hreceipt]
    rfl

/-! ### One window, two windows -/

variable (attempts : List (Attempt σ Request)) (asset : Asset) (period : Period)

/-- Up to the end of the current window a run counts no more than what its cap has left: the
window cannot be anchored anew before, and after that nothing lies in the stretch any more. -/
theorem totalBetween_le_of_window (since before : Int) (hsorted : attempts.Pairwise (·.now ≤ ·.now))
    (hlast : ∀ q ∈ attempts, q.now < Instant.last)
    (hbefore : before ≤ (l.state.window asset period).anchor.toInt + period.seconds) :
    totalBetween asset since before (l.run world attempts).receipts ≤
      ((l.profile.limits.of asset).of period).toNat -
        (l.state.window asset period).spent.toNat := by
  induction attempts generalizing l world with
  | nil => simp [run, Course.receipts, totalBetween]
  | cons q rest ih =>
    obtain ⟨x, now, request⟩ := q
    obtain ⟨hfirst, hsorted⟩ := List.pairwise_cons.mp hsorted
    have houtcome := l.outcome_perform x now world request
    have hmoves := houtcome.moves asset period
    have ih := ih (l.perform x now world request).2.1 (l.perform x now world request).2.2 hsorted
      (fun q hq => hlast q (List.mem_cons_of_mem _ hq))
    rw [houtcome.sameAccount.profile] at ih
    rw [totalBetween_run_cons]
    by_cases hover : period.isOver (l.state.window asset period).anchor now
    · -- The window is over, so the stretch is: neither this request nor a later one lies in it.
      have hnow : before ≤ now.toInt :=
        Int.le_trans hbefore ((Period.isOver_iff (hlast _ List.mem_cons_self)).mp hover)
      have hrest : totalBetween asset since before
          (l.runAfter x world now request rest).receipts = 0 := by
        refine totalBetween_eq_zero fun r hr => ?_
        obtain ⟨q, hq, heq⟩ := exists_of_mem_receipts _ _ hr
        rw [heq]
        exact Int.le_trans hnow (Int64.le_iff_toInt_le.mp (hfirst q hq))
      rw [if_neg (by omega), hrest]
      omega
    · generalize countedBy asset (l.perform x now world request).1 = counted at hmoves ⊢
      generalize (l.perform x now world request).2.1.state.window asset period = w' at hmoves ih
      cases hmoves with
      | kept =>
        have := ih hbefore
        rw [ite_self, Nat.zero_add]
        exact this
      | grown anchor spent capped =>
        rw [Window.roll_of_not_isOver hover] at anchor spent
        have := ih (by rw [anchor]; exact hbefore)
        rw [runAfter]
        split <;> omega

/-- From its beginning on, a stretch as long as the period meets the current window and at most
one more: what is left of one cap, and another. -/
theorem totalBetween_le_of_forall_le (since : Int) (hsorted : attempts.Pairwise (·.now ≤ ·.now))
    (hlast : ∀ q ∈ attempts, q.now < Instant.last)
    (hsince : ∀ q ∈ attempts, since ≤ q.now.toInt) :
    totalBetween asset since (since + period.seconds) (l.run world attempts).receipts ≤
      ((l.profile.limits.of asset).of period).toNat -
        (l.state.window asset period).spent.toNat +
      ((l.profile.limits.of asset).of period).toNat := by
  induction attempts generalizing l world with
  | nil => simp [run, Course.receipts, totalBetween]
  | cons q rest ih =>
    obtain ⟨x, now, request⟩ := q
    have hrest := (List.pairwise_cons.mp hsorted).2
    have hlastRest := fun q hq => hlast q (List.mem_cons_of_mem _ hq)
    have houtcome := l.outcome_perform x now world request
    have hmoves := houtcome.moves asset period
    have ih := ih (l.perform x now world request).2.1 (l.perform x now world request).2.2 hrest
      hlastRest (fun q hq => hsince q (List.mem_cons_of_mem _ hq))
    have hwindow := fun h => totalBetween_le_of_window (l.perform x now world request).2.1
      (l.perform x now world request).2.2 rest asset period since (since + period.seconds) hrest
      hlastRest h
    rw [houtcome.sameAccount.profile] at ih hwindow
    rw [totalBetween_run_cons, runAfter]
    generalize countedBy asset (l.perform x now world request).1 = counted at hmoves ⊢
    generalize (l.perform x now world request).2.1.state.window asset period = w'
      at hmoves ih hwindow
    cases hmoves with
    | kept =>
      rw [ite_self, Nat.zero_add]
      exact ih
    | grown anchor spent capped =>
      by_cases hover : period.isOver (l.state.window asset period).anchor now
      · -- The second window begins with this request, and the stretch ends before it does.
        rw [Window.roll_of_isOver hover] at anchor spent
        have hnow : since ≤ now.toInt := hsince _ List.mem_cons_self
        have hbegins : w'.anchor = now := anchor
        have hcounts : w'.spent.toNat = counted := spent.trans (Nat.zero_add _)
        have := hwindow (by rw [hbegins]; omega)
        split <;> omega
      · rw [Window.roll_of_not_isOver hover] at spent
        split <;> omega

/-- **The spending rate is bounded.** On a clock that never goes back and stays short of the last
instant, what a run counts of an asset in any stretch of time as long as a period is at most twice
the cap of that period, wherever the stretch begins, whatever the account remembers at first and
whatever the executors, one for each request, make of the calls. -/
theorem totalBetween_le_two_caps (since : Int) (hsorted : attempts.Pairwise (·.now ≤ ·.now))
    (hlast : ∀ q ∈ attempts, q.now < Instant.last) :
    totalBetween asset since (since + period.seconds) (l.run world attempts).receipts ≤
      2 * ((l.profile.limits.of asset).of period).toNat := by
  induction attempts generalizing l world with
  | nil => simp [run, Course.receipts, totalBetween]
  | cons q rest ih =>
    obtain ⟨x, now, request⟩ := q
    obtain ⟨hfirst, hrest⟩ := List.pairwise_cons.mp hsorted
    by_cases hsince : since ≤ now.toInt
    · -- The stretch has begun, and so it has for all that follows.
      have hle := totalBetween_le_of_forall_le l world _ asset period since hsorted hlast
        fun q hq => by
          rcases List.mem_cons.mp hq with rfl | hq
          · exact hsince
          · exact Int.le_trans hsince (Int64.le_iff_toInt_le.mp (hfirst q hq))
      omega
    · have ih := ih (l.perform x now world request).2.1 (l.perform x now world request).2.2 hrest
        fun q hq => hlast q (List.mem_cons_of_mem _ hq)
      rw [(l.outcome_perform x now world request).sameAccount.profile] at ih
      rw [totalBetween_run_cons, if_neg (by omega), Nat.zero_add]
      exact ih

/-- Requests that spend a small account's daily cap on SOL in the last second of a window and again
in the first second of the next. -/
def eagerRequests : List (Attempt Unit Request) :=
  Executor.obliging.serving ([86399, 86400].map fun now =>
    (now, .execute (.repeating 2) (.native (.repeating 6) 10)))

/-- The bound is reached: two full caps lie in one stretch as long as a day. -/
theorem two_caps_around_the_end_of_a_day :
    eagerRequests.Pairwise (·.now ≤ ·.now) ∧ (∀ q ∈ eagerRequests, q.now < Instant.last) ∧
      totalBetween .sol 86399 (86399 + Period.daily.seconds)
        ((small 0).run () eagerRequests).receipts = 2 * 10 ∧
      totalBetween .sol 86399 (86399 + Period.daily.seconds)
        ((small 0).run () eagerRequests).receipts ≤
          2 * (((small 0).profile.limits.of .sol).of .daily).toNat :=
  ⟨by decide, by decide, by decide,
    totalBetween_le_two_caps (small 0) () eagerRequests .sol .daily 86399 (by decide)
      (by decide)⟩

end Ledger

end SpendGuard
