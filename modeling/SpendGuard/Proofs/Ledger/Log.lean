import SpendGuard.Proofs.Ledger.Counting
import SpendGuard.Proofs.Ledger.Replay

/-!
# The counters are sums over the log

What a state remembers of the spending is a digest of the receipts. One receipt moves the windows of
a period for both assets alike: it resets them, or it is added to them (`State.Counted`). So over a
run each counter is the sum of the amounts since the receipt that last reset its window, that one
included, and what was there at first counts only as long as there was no such receipt
(`State.Tallied`). The daily and the monthly windows are reset independently of each other, and on
whatever clock: an instant that lies before the beginning of a window is simply not past its end.
-/

namespace SpendGuard

/-- What receipts count of an asset. -/
def totalOf (asset : Asset) (receipts : List Receipt) : Nat :=
  (receipts.map fun r => (r.spend.of asset).toNat).sum

theorem totalOf_cons (asset : Asset) (r : Receipt) (receipts : List Receipt) :
    totalOf asset (r :: receipts) = (r.spend.of asset).toNat + totalOf asset receipts := by
  rw [totalOf, List.map_cons, List.sum_cons, totalOf]

/-- Whether a receipt resets the windows of a period that begin at an anchor: it bears an instant at
or after their end. -/
def Receipt.Resets (period : Period) (anchor : Instant) (r : Receipt) : Prop :=
  anchor.after period.seconds ≤ r.executedAt

instance (period : Period) (anchor : Instant) (r : Receipt) : Decidable (r.Resets period anchor) :=
  inferInstanceAs (Decidable (_ ≤ _))

/-- Where the windows of a period begin after receipts, the earliest first. -/
def Period.anchorAfter (period : Period) (anchor : Instant) : List Receipt → Instant
  | [] => anchor
  | r :: rest => period.anchorAfter (if r.Resets period anchor then r.executedAt else anchor) rest

namespace State

variable {period : Period} {s s₁ s' : State} {r : Receipt} {log : List Receipt}

/-- How a receipt moves the windows of a period, those of both assets together. -/
inductive Counted (period : Period) (s : State) (r : Receipt) (s' : State) : Prop
  /-- The windows begin anew with the receipt. -/
  | reset (ended : r.Resets period (s.anchor period)) (anchored : s'.anchor period = r.executedAt)
      (spent : ∀ asset, (s'.window asset period).spent.toNat = (r.spend.of asset).toNat)
  /-- The windows stay where they are, and the receipt is added. -/
  | added (within : ¬ r.Resets period (s.anchor period))
      (anchored : s'.anchor period = s.anchor period)
      (spent : ∀ asset, (s'.window asset period).spent.toNat =
        (s.window asset period).spent.toNat + (r.spend.of asset).toNat)

/-- What receipts, the earliest first, make of the windows of a period, those of both assets
together. -/
inductive Tallied (period : Period) (s : State) (log : List Receipt) (s' : State) : Prop
  /-- No receipt has reset the windows: all of them are added to what was there. -/
  | unreset (within : ∀ r ∈ log, ¬ r.Resets period (s.anchor period))
      (anchored : s'.anchor period = s.anchor period)
      (spent : ∀ asset, (s'.window asset period).spent.toNat =
        (s.window asset period).spent.toNat + totalOf asset log)
  /-- The windows were last reset by a receipt: it is added up with those after it, and nothing
  before it counts. -/
  | reset {old recent : List Receipt} {r : Receipt} (split : log = old ++ r :: recent)
      (ended : r.Resets period (period.anchorAfter (s.anchor period) old))
      (within : ∀ later ∈ recent, ¬ later.Resets period r.executedAt)
      (anchored : s'.anchor period = r.executedAt)
      (spent : ∀ asset, (s'.window asset period).spent.toNat = totalOf asset (r :: recent))

/-- Windows that have grown by what a receipt says have counted it. -/
theorem counted_of_grown
    (h : ∀ asset, (s.window asset period).Grown period r.executedAt (r.spend.of asset).toNat
      (s'.window asset period)) : Counted period s r s' := by
  have hanchor : s'.anchor period = ((s.window .sol period).roll period r.executedAt).anchor :=
    (h .sol).anchor
  by_cases hover : r.Resets period (s.anchor period)
  · have hroll (asset : Asset) :
        (s.window asset period).roll period r.executedAt = ⟨r.executedAt, 0⟩ :=
      Window.roll_of_isOver (decide_eq_true hover)
    refine .reset hover (by rw [hanchor, hroll]) fun asset => ?_
    rw [(h asset).spent, hroll]
    exact Nat.zero_add _
  · have hroll (asset : Asset) :
        (s.window asset period).roll period r.executedAt = s.window asset period :=
      Window.roll_of_not_isOver fun hcontra => hover (of_decide_eq_true hcontra)
    refine .added hover (by rw [hanchor, hroll]; rfl) fun asset => ?_
    rw [(h asset).spent, hroll]

/-- Where windows begin after a receipt was counted is where they are said to begin. -/
theorem Counted.anchorAfter_eq (h : Counted period s r s₁) (old : List Receipt) :
    period.anchorAfter (s.anchor period) (r :: old) =
      period.anchorAfter (s₁.anchor period) old := by
  cases h with
  | reset ended anchored => rw [anchored, Period.anchorAfter, if_pos ended]
  | added within anchored => rw [anchored, Period.anchorAfter, if_neg within]

/-- One receipt, and then the others. -/
theorem Counted.tallied (h : Counted period s r s₁) (hrest : Tallied period s₁ log s') :
    Tallied period s (r :: log) s' := by
  cases hrest with
  | reset split ended within anchored spent =>
    -- Whatever the first receipt did, a later one has reset the windows since.
    rw [← h.anchorAfter_eq] at ended
    exact .reset (congrArg (List.cons r) split) ended within anchored spent
  | unreset within' anchored' spent' =>
    cases h with
    | reset ended anchored spent =>
      rw [anchored] at within' anchored'
      refine .reset (List.nil_append (r :: log)).symm ended within' anchored' fun asset => ?_
      rw [spent', spent, totalOf_cons]
    | added within anchored spent =>
      rw [anchored] at within' anchored'
      refine .unreset (List.forall_mem_cons.mpr ⟨within, within'⟩) anchored' fun asset => ?_
      rw [spent', spent, totalOf_cons, Nat.add_assoc]

/-- What leaves the windows as they are can come before. -/
theorem Tallied.of_window_eq (hsame : ∀ asset, s₁.window asset period = s.window asset period)
    (h : Tallied period s₁ log s') : Tallied period s log s' := by
  have hanchor : s₁.anchor period = s.anchor period := congrArg Window.anchor (hsame .sol)
  cases h with
  | reset split ended within anchored spent =>
    rw [hanchor] at ended
    exact .reset split ended within anchored spent
  | unreset within anchored spent =>
    rw [hanchor] at within anchored
    exact .unreset within anchored fun asset => by rw [spent, hsame]

end State

namespace Ledger

variable {σ : Type} (l : Ledger) (world : σ)

/-- A receipt is counted in the windows of both periods. -/
theorem Outcome.counted {x : Executor σ} {l l' : Ledger} {now : Instant} {world world' : σ}
    {request : Request} {answer : Except Error Grant} {receipt : Receipt}
    (h : Outcome x l now world request answer l' world')
    (hreceipt : receiptOf? answer = some receipt) (period : Period) :
    State.Counted period l.state receipt l'.state :=
  State.counted_of_grown fun asset => h.grown hreceipt asset period

/-- A run tallies its receipts. -/
theorem tallied_run (attempts : List (Attempt σ Request)) (period : Period) :
    State.Tallied period l.state (l.run world attempts).receipts
      (l.run world attempts).ledger.state := by
  induction attempts generalizing l world with
  | nil => exact .unreset (by simp [run, Course.receipts]) rfl fun _ => rfl
  | cons q rest ih =>
    obtain ⟨x, now, request⟩ := q
    have houtcome := l.outcome_perform x now world request
    have ih := ih (l.perform x now world request).2.1 (l.perform x now world request).2.2
    rw [ledger_run_cons, Course.receipts, entries_run_cons, List.filterMap_cons]
    cases hreceipt : receiptOf? (l.perform x now world request).1 with
    | some receipt => exact (houtcome.counted hreceipt period).tallied ih
    | none => exact ih.of_window_eq fun asset => houtcome.window_eq hreceipt asset period

/-- **The counters are sums over the log.** Requests are answered one after the other, on whatever
clock, and each on an executor of its own, which makes of the calls what it likes.

* The account is what the granted requests alone make of it, with any executors that grant them
  all, such as one that carries out everything; on an in-memory chain they do so by themselves.
* The windows of each period hold what the receipts add up to since their last reset, for both
  assets.
* Each receipt bears the instant of its request, and resets the windows of a period for both assets,
  when that is at or after their end, or for none. -/
theorem counters_sum_the_log (attempts : List (Attempt σ Request)) :
    ((∀ e ∈ (l.run () (Executor.obliging.serving (l.run world attempts).granted)).entries,
        e.answer.isOk = true) ∧
      ∀ (τ : Type) (other : τ) (again : List (Attempt τ Request)),
        again.map Attempt.order = (l.run world attempts).granted →
        (∀ e ∈ (l.run other again).entries, e.answer.isOk = true) →
        (l.run other again).ledger = (l.run world attempts).ledger) ∧
    (∀ chain requests,
      let course := l.run chain (Chain.executor.serving requests)
      l.run chain (Chain.executor.serving course.granted) = course.onlyGranted) ∧
    (∀ period, State.Tallied period l.state (l.run world attempts).receipts
      (l.run world attempts).ledger.state) ∧
    ∀ x now request receipt, receiptOf? (l.perform x now world request).1 = some receipt →
      receipt.executedAt = now ∧ ∀ period,
        State.Counted period l.state receipt (l.perform x now world request).2.1.state := by
  refine ⟨⟨isOk_of_mem_run_granted l world attempts,
      fun τ other again => ledger_run_granted l world attempts again other⟩,
    run_granted_chain l, tallied_run l world attempts, fun x now request receipt hreceipt => ?_⟩
  have houtcome := l.outcome_perform x now world request
  exact ⟨houtcome.executedAt_eq hreceipt, houtcome.counted hreceipt⟩

/-- Requests on a clock that is set back twice: a day's cap is spent at once, a further request is
refused, the next day begins, and something is spent in it that bears an earlier instant. -/
def erraticRequests : List (Attempt Unit Request) :=
  Executor.obliging.serving ([(100, 10), (50, 5), (86400, 4), (60, 3)].map fun (now, lamports) =>
    (now, .execute (.repeating 2) (.native (.repeating 6) lamports)))

/-- The refused request leaves nothing, the daily counter sums up what came since the day began, and
the monthly counter everything that was granted. -/
theorem erraticRequests_tallied :
    let course := (small 0).run () erraticRequests
    course.granted.map (·.1) = [100, 86400, 60] ∧
      ((small 0).run () (Executor.obliging.serving course.granted)).ledger = course.ledger ∧
      course.ledger.state.window .sol .daily = ⟨86400, 7⟩ ∧
      course.ledger.state.window .sol .monthly = ⟨0, 17⟩ ∧
      State.Tallied .daily (small 0).state course.receipts course.ledger.state := by
  have hsums := counters_sum_the_log (small 0) () erraticRequests
  exact ⟨by decide, hsums.1.2 Unit () _ (Executor.map_order_serving _ _) hsums.1.1, by decide,
    by decide, hsums.2.2.1 .daily⟩

end Ledger

end SpendGuard
