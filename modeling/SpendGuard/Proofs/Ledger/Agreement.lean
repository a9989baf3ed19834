import SpendGuard.Proofs.Ledger.Preflight

/-!
# Three ways to put calls to an account

Calls can be put to an account to learn whether they would pass, to be carried out as a batch, and,
when there is only one, to be carried out by itself. Each way checks the caller, classifies and asks
the policy on its own. They come to one judgement all the same (`Ledger.judge`): a preflight tells
it (`Ledger.preflight_none`), and a batch acts on it (`Ledger.executeBatch_eq`). So what a preflight
accepts only the executor can fail, and what it refuses never reaches the executor. A call by itself
is a batch of one (`Ledger.execute_eq_executeBatch`), except that a batch tells which of its calls
it objects to.
-/

namespace SpendGuard

/-- The first call of a batch is named by its index in front of what is wrong with it. -/
theorem Objection.message_inCall_zero (reason : Objection) :
    (inCall 0 reason).message = "call 0: " ++ reason.message := by
  have hindex : "call 0: " = "call " ++ toString 0 ++ ": " := by decide
  rw [hindex]
  rfl

namespace Ledger

variable {σ : Type} {x : Executor σ} {l : Ledger} {now : Instant} {caller : Key} {call : Call}
  {calls : List Call} {spend : Spend} {world : σ} {e : Error}

/-! ### One judgement -/

/-- How calls of a caller are judged: what they move, and the state that follows if they are
accepted. -/
def judge (l : Ledger) (now : Instant) (caller : Key) (calls : List Call) :
    Except Error (Spend × Acceptance) := do
  l.authorize caller .dispatcher
  let spend ← Batch.classify l.profile.tokenProgram calls
  let accepted ← Policy.spend l.profile l.state spend now
  return (spend, accepted)

/-- Calls are accepted when the dispatcher asks, they pass classification and the policy accepts
what they move. -/
theorem isOk_judge_iff :
    (l.judge now caller calls).isOk = true ↔
      caller = l.profile.dispatcher ∧ ∃ spend,
        Batch.classify l.profile.tokenProgram calls = .ok spend ∧
          (Policy.spend l.profile l.state spend now).isOk = true := by
  simp only [judge, authorize, bind, Except.bind, pure, Except.pure]
  by_cases hcaller : caller = l.profile.holder .dispatcher
  swap
  · rw [if_neg hcaller]
    exact iff_of_false (by simp) fun h => hcaller h.1
  have hdispatcher : caller = l.profile.dispatcher := hcaller
  rw [if_pos hcaller]
  cases Batch.classify l.profile.tokenProgram calls with
  | error e => simp
  | ok spend =>
    cases hspend : Policy.spend l.profile l.state spend now <;> simp [hdispatcher, hspend]

/-- A preflight without a fee tells the judgement. -/
theorem preflight_none :
    l.preflight now caller calls none = (l.judge now caller calls).map Prod.fst := by
  simp only [preflight, judge, bind, Except.bind, pure, Except.pure]
  cases l.authorize caller .dispatcher with
  | error e => rfl
  | ok _ =>
    cases Batch.classify l.profile.tokenProgram calls with
    | error e => rfl
    | ok spend =>
      dsimp only
      cases Policy.spend l.profile l.state spend now <;> rfl

/-- A batch acts on it: what is refused ends there, and what is accepted is counted and carried
out. -/
theorem executeBatch_eq :
    l.executeBatch x now caller calls world =
      match l.judge now caller calls with
      | .error e => (.error e, l, world)
      | .ok (spend, accepted) =>
        settle x l accepted.state calls
          (fun signature => ⟨signature, spend, calls.length, now, accepted.armsCooldown⟩)
          world := by
  simp only [executeBatch, commit, judge, bind, Except.bind, pure, Except.pure]
  cases l.authorize caller .dispatcher with
  | error e => rfl
  | ok _ =>
    cases Batch.classify l.profile.tokenProgram calls with
    | error e => rfl
    | ok spend =>
      dsimp only
      cases Policy.spend l.profile l.state spend now <;> rfl

/-- What a preflight refuses is refused as a batch, with the same error, before anything is handed
to the executor. -/
theorem executeBatch_of_preflight_eq_error (h : l.preflight now caller calls none = .error e) :
    l.executeBatch x now caller calls world = (.error e, l, world) := by
  rw [preflight_none] at h
  cases hjudged : l.judge now caller calls with
  | error e' =>
    rw [hjudged] at h
    cases h
    rw [executeBatch_eq, hjudged]
  | ok judged =>
    rw [hjudged] at h
    cases h

/-- What a preflight accepts is counted as foreseen, and then it is for the executor. -/
theorem executeBatch_of_preflight_eq_ok (x : Executor σ) (world : σ)
    (h : l.preflight now caller calls none = .ok spend) :
    ∃ accepted, Policy.spend l.profile l.state spend now = .ok accepted ∧
      l.executeBatch x now caller calls world =
        settle x l accepted.state calls
          (fun signature => ⟨signature, spend, calls.length, now, accepted.armsCooldown⟩)
          world := by
  obtain ⟨hcaller, moved, classified, htotal, hjudged⟩ := preflight_eq_ok_iff.mp h
  obtain rfl : moved = spend := Option.some.inj ((Spend.add?_nothing moved).symm.trans htotal)
  obtain ⟨accepted, judged⟩ := isOk_iff_exists.mp hjudged
  have hauthorized : l.authorize caller .dispatcher = .ok () := authorize_eq_ok_iff.mpr hcaller
  have hjudge : l.judge now caller calls = .ok (moved, accepted) := by
    simp only [judge, hauthorized, classified, judged, bind, Except.bind, pure, Except.pure]
  refine ⟨accepted, judged, ?_⟩
  rw [executeBatch_eq, hjudge]

/-! ### What the executor makes of it -/

/-- The answer to calls that were judged before is the executor's. -/
theorem settle_fst {next : State} {receipt : Signature → Receipt} :
    (settle x l next calls receipt world).1 = (x.execute l.address calls world).1.map receipt := by
  rcases carried : x.execute l.address calls world with ⟨e | signature, world'⟩
  · rw [settle_of_error carried]
    rfl
  · rw [settle_of_ok carried]
    rfl

/-! ### One call -/

/-- A call that passes classification, or that anyone but the dispatcher asks for, is answered by
itself as it is in a batch of one. -/
theorem execute_eq_executeBatch
    (h : caller = l.profile.dispatcher → (call.classify l.profile.tokenProgram).isOk = true) :
    l.execute x now caller call world = l.executeBatch x now caller [call] world := by
  unfold execute executeBatch authorize
  by_cases hcaller : caller = l.profile.holder .dispatcher
  · obtain ⟨spend, hcall⟩ := isOk_iff_exists.mp (h hcaller)
    rw [if_pos hcaller, hcall, Batch.classify_singleton hcall]
  · rw [if_neg hcaller]

/-- A call that does not pass is objected to either way, in a batch with its index. -/
theorem execute_of_disallowed (x : Executor σ) (now : Instant) (world : σ) {reason : Objection}
    (hcall : call.classify l.profile.tokenProgram = .error (.disallowedCall reason)) :
    l.execute x now l.profile.dispatcher call world = (.error (.disallowedCall reason), l, world) ∧
      l.executeBatch x now l.profile.dispatcher [call] world =
        (.error (.disallowedCall (.inCall 0 reason)), l, world) := by
  have hcaller : l.authorize l.profile.dispatcher .dispatcher = .ok () :=
    authorize_eq_ok_iff.mpr rfl
  refine ⟨?_, ?_⟩
  · rw [execute, hcaller, hcall]
  · rw [executeBatch, hcaller, Batch.classify_singleton_of_error hcall]
    rfl

/-- **Preflight, batch and single call agree**, for every account, at every instant, for every
caller and executor.

* What a preflight accepts is also what the policy accepts. As a batch it is carried out exactly
  when the executor carries it out: then the receipt says what the preflight said, and the account
  has counted that. Otherwise the answer is the executor's error, and the account is what it was.
* What a preflight refuses is refused as a batch, with the same error, and the executor is not
  asked: neither the account nor the executor's world changes.
* A call by itself and a batch of it alone come to the same answer, account and world. Only when the
  call is not permitted the answers differ: what the batch says has the call's index in front. -/
theorem preflight_batch_single_agree (x : Executor σ) (l : Ledger) (now : Instant) (caller : Key)
    (world : σ) :
    (∀ calls spend, l.preflight now caller calls none = .ok spend →
      ∃ accepted, Policy.spend l.profile l.state spend now = .ok accepted ∧
        (∀ signature world', x.execute l.address calls world = (.ok signature, world') →
          l.executeBatch x now caller calls world =
            (.ok ⟨signature, spend, calls.length, now, accepted.armsCooldown⟩,
              { l with state := accepted.state }, world')) ∧
        ∀ e world', x.execute l.address calls world = (.error e, world') →
          l.executeBatch x now caller calls world = (.error e, l, world')) ∧
    (∀ calls e, l.preflight now caller calls none = .error e →
      l.executeBatch x now caller calls world = (.error e, l, world)) ∧
    ∀ call,
      l.execute x now caller call world = l.executeBatch x now caller [call] world ∨
      ∃ reason, call.classify l.profile.tokenProgram = .error (.disallowedCall reason) ∧
        l.execute x now caller call world = (.error (.disallowedCall reason), l, world) ∧
        l.executeBatch x now caller [call] world =
          (.error (.disallowedCall (.inCall 0 reason)), l, world) ∧
        (Objection.inCall 0 reason).message = "call 0: " ++ reason.message := by
  refine ⟨fun calls spend hforeseen => ?_, fun calls e => executeBatch_of_preflight_eq_error,
    fun call => ?_⟩
  · obtain ⟨accepted, judged, hbatch⟩ := executeBatch_of_preflight_eq_ok x world hforeseen
    rw [hbatch]
    exact ⟨accepted, judged, fun signature world' carried => settle_of_ok carried,
      fun e world' failed => settle_of_error failed⟩
  · by_cases hcaller : caller = l.profile.dispatcher
    swap
    · exact .inl (execute_eq_executeBatch fun h => absurd h hcaller)
    subst hcaller
    cases hcall : call.classify l.profile.tokenProgram with
    | ok spend => exact .inl (execute_eq_executeBatch fun _ => by rw [hcall]; rfl)
    | error e =>
      obtain ⟨reason, rfl⟩ := Call.disallowed_of_classify hcall
      obtain ⟨hsingle, hbatch⟩ := execute_of_disallowed x now world hcall
      exact .inr ⟨reason, rfl, hsingle, hbatch, reason.message_inCall_zero⟩

/-- Two calls that pay seven lamports and five units. -/
def lunch : List Call :=
  [.native (.repeating 6) 7,
    ⟨Token.standardProgram, 0, Token.Instruction.transferData 5,
      [.repeating 7, .repeating 8, .repeating 5]⟩]

/-- One lunch is foreseen and paid; two are over the daily cap, for the preflight and for the batch,
and nothing of them is paid; a third call that moves nothing is objected to in its place. -/
theorem lunch_as_foreseen :
    let paid := (small 0).executeBatch Chain.executor 60 (.repeating 2) lunch .funded
    (small 0).preflight 60 (.repeating 2) lunch none = .ok ⟨7, 5⟩ ∧
      (∃ accepted, Policy.spend .small (small 0).state ⟨7, 5⟩ 60 = .ok accepted ∧
        paid.1 = .ok ⟨.numbered 0, ⟨7, 5⟩, 2, 60, accepted.armsCooldown⟩ ∧
          paid.2.1.state = accepted.state) ∧
      (small 0).preflight 60 (.repeating 2) (lunch ++ lunch) none =
        .error (.capExceeded .daily .sol 14 10) ∧
      (small 0).executeBatch Chain.executor 60 (.repeating 2) (lunch ++ lunch) .funded =
        (.error (.capExceeded .daily .sol 14 10), small 0, .funded) ∧
      ((small 0).executeBatch Chain.executor 60 (.repeating 2) (lunch ++ [.native .zero 0])
        .funded).1 = .error (.disallowedCall (.inCall 2 (.movesNothing .zero))) := by
  intro paid
  have hagree := preflight_batch_single_agree Chain.executor (small 0) 60 (.repeating 2) .funded
  have honce : (small 0).preflight 60 (.repeating 2) lunch none = .ok ⟨7, 5⟩ := by decide
  have htwice : (small 0).preflight 60 (.repeating 2) (lunch ++ lunch) none =
      .error (.capExceeded .daily .sol 14 10) := by decide
  obtain ⟨accepted, judged, hcarried, -⟩ := hagree.1 _ _ honce
  have hpaid := hcarried (.numbered 0) _ (Prod.ext (by decide) rfl)
  exact ⟨honce, ⟨accepted, judged, congrArg Prod.fst hpaid, congrArg (·.2.1.state) hpaid⟩, htwice,
    hagree.2.1 _ _ htwice, by decide⟩

end Ledger

end SpendGuard
