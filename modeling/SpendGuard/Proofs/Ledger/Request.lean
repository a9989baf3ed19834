import SpendGuard.Ledger
import SpendGuard.Proofs.Classification
import SpendGuard.Proofs.Success

/-!
# Requests

The six things a ledger can be asked are one type here, and so are the things it grants.
`Ledger.perform` answers a request, and `Ledger.Outcome` lists everything that can come of it:
a refusal, a failure of the executor, or one of the grants, each with the checks that were passed
on the way, the account afterwards and what became of the executor's world. Everything proved about
runs of requests is read off this list, by way of `Ledger.outcome_perform`.
-/

namespace SpendGuard

/-! ### What is asked and what is granted -/

/-- What a ledger is asked. -/
inductive Request where
  /-- To carry out one call. -/
  | execute (caller : Key) (call : Call)
  /-- To carry out calls as one spend. -/
  | executeBatch (caller : Key) (calls : List Call)
  /-- To pay the sponsor back. -/
  | reclaimGas (caller : Key) (amount remainingCompute : Amount)
  /-- Whether calls would be accepted, together with a fee. -/
  | preflight (caller : Key) (calls : List Call) (sponsoredFee : Option Amount)
  /-- To start the timelock of an emergency withdrawal. -/
  | requestWithdraw (caller : Key)
  /-- To withdraw everything. -/
  | executeWithdraw (caller recipient : Key)
deriving DecidableEq

namespace Request

/-- Who asks. -/
def caller : Request → Key
  | execute caller _ | executeBatch caller _ | reclaimGas caller _ _ | preflight caller _ _
  | requestWithdraw caller | executeWithdraw caller _ => caller

/-- The calls that a request has carried out as a spend. -/
def spending? : Request → Option (List Call)
  | execute _ call => some [call]
  | executeBatch _ calls => some calls
  | _ => none

end Request

/-- What a ledger grants. -/
inductive Grant where
  /-- Calls were carried out. -/
  | executed (receipt : Receipt)
  /-- The sponsor was paid back. -/
  | reclaimed (receipt : Receipt)
  /-- Calls would be accepted. -/
  | foreseen (spend : Spend)
  /-- A withdrawal was requested, and when it is released. -/
  | requested (readyAt : Instant)
  /-- Everything was withdrawn. -/
  | withdrawn (receipt : WithdrawalReceipt)
deriving DecidableEq

namespace Grant

/-- The receipt of what was counted. -/
def receipt? : Grant → Option Receipt
  | executed receipt | reclaimed receipt => some receipt
  | _ => none

/-- The receipt of a withdrawal. -/
def withdrawal? : Grant → Option WithdrawalReceipt
  | withdrawn receipt => some receipt
  | _ => none

end Grant

/-- The receipt of what an answer counted, if it counted anything. -/
def receiptOf? (answer : Except Error Grant) : Option Receipt :=
  answer.toOption.bind Grant.receipt?

/-- The receipt of a withdrawal that an answer reports. -/
def withdrawalOf? (answer : Except Error Grant) : Option WithdrawalReceipt :=
  answer.toOption.bind Grant.withdrawal?

/-- How much of an asset an answer counted. -/
def countedBy (asset : Asset) (answer : Except Error Grant) : Nat :=
  ((receiptOf? answer).map fun r => (r.spend.of asset).toNat).getD 0

/-! ### Answering -/

namespace Ledger

variable {σ : Type}

/-- Answers a request at an instant. -/
def perform (x : Executor σ) (l : Ledger) (now : Instant) (world : σ) :
    Request → Except Error Grant × Ledger × σ
  | .execute caller call =>
    Prod.map (Except.map .executed) id (l.execute x now caller call world)
  | .executeBatch caller calls =>
    Prod.map (Except.map .executed) id (l.executeBatch x now caller calls world)
  | .reclaimGas caller amount compute =>
    Prod.map (Except.map .reclaimed) id (l.reclaimGas x now caller amount compute world)
  | .preflight caller calls fee => ((l.preflight now caller calls fee).map .foreseen, l, world)
  | .requestWithdraw caller =>
    Prod.map (Except.map .requested) (·, world) (l.requestWithdraw now caller)
  | .executeWithdraw caller recipient =>
    Prod.map (Except.map .withdrawn) id (l.executeWithdraw x now caller recipient world)

/-- What can come of a request: the answer, the account and the executor's world afterwards. -/
inductive Outcome (x : Executor σ) (l : Ledger) (now : Instant) (world : σ) :
    Request → Except Error Grant → Ledger → σ → Prop
  /-- The request was refused before anything was handed to the executor. -/
  | refused (request : Request) (e : Error) : Outcome x l now world request (.error e) l world
  /-- The executor failed. -/
  | failed {request : Request} {calls : List Call} {e : Error} {world' : σ}
      (carried : x.execute l.address calls world = (.error e, world')) :
      Outcome x l now world request (.error e) l world'
  /-- The dispatcher had calls carried out. -/
  | executed {request : Request} {calls : List Call} {spend : Spend} {accepted : Acceptance}
      {signature : Signature} {world' : σ}
      (caller : request.caller = l.profile.dispatcher) (asked : request.spending? = some calls)
      (classified : Batch.classify l.profile.tokenProgram calls = .ok spend)
      (judged : Policy.spend l.profile l.state spend now = .ok accepted)
      (carried : x.execute l.address calls world = (.ok signature, world')) :
      Outcome x l now world request
        (.ok (.executed ⟨signature, spend, calls.length, now, accepted.armsCooldown⟩))
        { l with state := accepted.state } world'
  /-- The sponsor was paid back. -/
  | reclaimed {amount compute : Amount} {call : Call} {next : State} {signature : Signature}
      {world' : σ}
      (built : Call.tokenTransfer l.profile.tokenProgram l.tokenAccount
        (l.profile.tokenAccountOf l.profile.sponsor) l.address amount = .ok call)
      (judged : Policy.reclaim l.profile l.state amount now = .ok next)
      (carried : x.execute l.address [call] world = (.ok signature, world')) :
      Outcome x l now world (.reclaimGas l.profile.sponsor amount compute)
        (.ok (.reclaimed ⟨signature, ⟨0, amount⟩, 1, now, false⟩)) { l with state := next } world'
  /-- The dispatcher was told that calls would be accepted. -/
  | foreseen {calls : List Call} {fee : Option Amount} {spend : Spend}
      (judged : l.preflight now l.profile.dispatcher calls fee = .ok spend) :
      Outcome x l now world (.preflight l.profile.dispatcher calls fee) (.ok (.foreseen spend))
        l world
  /-- The owner started the timelock. -/
  | requested :
      Outcome x l now world (.requestWithdraw l.profile.owner)
        (.ok (.requested (Withdrawal.readyAt now)))
        { l with state := { l.state with withdrawRequestedAt := some now } } world
  /-- The owner withdrew from an account that held nothing. -/
  | withdrawnNothing {recipient : Key} {sol token : Amount}
      (released : Withdrawal.ensureReleased l.state.withdrawRequestedAt now = .ok ())
      (lamports : x.lamportsOf l.address world = .ok sol)
      (tokens : x.tokensIn l.tokenAccount world = .ok token)
      (planned : l.sweepCalls recipient sol token = .ok []) :
      Outcome x l now world (.executeWithdraw l.profile.owner recipient)
        (.ok (.withdrawn ⟨none, recipient, sol, token, now⟩))
        { l with state := { l.state with withdrawRequestedAt := none } } world
  /-- The owner withdrew everything. -/
  | withdrawn {recipient : Key} {sol token : Amount} {calls : List Call} {signature : Signature}
      {world' : σ}
      (released : Withdrawal.ensureReleased l.state.withdrawRequestedAt now = .ok ())
      (lamports : x.lamportsOf l.address world = .ok sol)
      (tokens : x.tokensIn l.tokenAccount world = .ok token)
      (planned : l.sweepCalls recipient sol token = .ok calls) (nonempty : calls ≠ [])
      (carried : x.execute l.address calls world = (.ok signature, world')) :
      Outcome x l now world (.executeWithdraw l.profile.owner recipient)
        (.ok (.withdrawn ⟨some signature, recipient, sol, token, now⟩))
        { l with state := { l.state with withdrawRequestedAt := none } } world'

/-! ### What comes of each request -/

variable (x : Executor σ) (l : Ledger) (now : Instant) (world : σ)

/-- What comes of calls that were asked for and classified. -/
theorem outcome_commit {request : Request} {calls : List Call} {spend : Spend}
    (caller : request.caller = l.profile.dispatcher) (asked : request.spending? = some calls)
    (classified : Batch.classify l.profile.tokenProgram calls = .ok spend) :
    Outcome x l now world request ((l.commit x now calls spend world).1.map .executed)
      (l.commit x now calls spend world).2.1 (l.commit x now calls spend world).2.2 := by
  unfold commit
  cases judged : Policy.spend l.profile l.state spend now with
  | error e => exact .refused request e
  | ok accepted =>
    dsimp only
    rcases carried : x.execute l.address calls world with ⟨e | signature, world'⟩
    · rw [settle_of_error carried]
      exact .failed carried
    · rw [settle_of_ok carried]
      exact .executed caller asked classified judged carried

theorem outcome_execute (caller : Key) (call : Call) :
    Outcome x l now world (.execute caller call)
      ((l.execute x now caller call world).1.map .executed)
      (l.execute x now caller call world).2.1 (l.execute x now caller call world).2.2 := by
  unfold execute authorize
  by_cases hcaller : caller = l.profile.holder .dispatcher
  · rw [if_pos hcaller]
    cases hcall : call.classify l.profile.tokenProgram with
    | error e => exact .refused _ e
    | ok spend => exact l.outcome_commit x now world hcaller rfl (Batch.classify_singleton hcall)
  · rw [if_neg hcaller]
    exact .refused _ _

theorem outcome_executeBatch (caller : Key) (calls : List Call) :
    Outcome x l now world (.executeBatch caller calls)
      ((l.executeBatch x now caller calls world).1.map .executed)
      (l.executeBatch x now caller calls world).2.1
      (l.executeBatch x now caller calls world).2.2 := by
  unfold executeBatch authorize
  by_cases hcaller : caller = l.profile.holder .dispatcher
  · rw [if_pos hcaller]
    cases hcalls : Batch.classify l.profile.tokenProgram calls with
    | error e => exact .refused _ e
    | ok spend => exact l.outcome_commit x now world hcaller rfl hcalls
  · rw [if_neg hcaller]
    exact .refused _ _

theorem outcome_reclaimGas (caller : Key) (amount compute : Amount) :
    Outcome x l now world (.reclaimGas caller amount compute)
      ((l.reclaimGas x now caller amount compute world).1.map .reclaimed)
      (l.reclaimGas x now caller amount compute world).2.1
      (l.reclaimGas x now caller amount compute world).2.2 := by
  unfold reclaimGas authorize
  by_cases hcaller : caller = l.profile.holder .sponsor
  · rw [if_pos hcaller, hcaller]
    by_cases hcompute : compute < reclaimCompute
    · simp only [hcompute, if_true]
      exact .refused _ _
    simp only [hcompute, if_false]
    cases built : Call.tokenTransfer l.profile.tokenProgram l.tokenAccount
        (l.profile.tokenAccountOf l.profile.sponsor) l.address amount with
    | error e => exact .refused _ e
    | ok call =>
      cases judged : Policy.reclaim l.profile l.state amount now with
      | error e => exact .refused _ e
      | ok next =>
        rcases carried : x.execute l.address [call] world with ⟨e | signature, world'⟩
        · dsimp only
          rw [settle_of_error carried]
          exact .failed carried
        · dsimp only
          rw [settle_of_ok carried]
          exact .reclaimed built judged carried
  · rw [if_neg hcaller]
    exact .refused _ _

theorem outcome_preflight (caller : Key) (calls : List Call) (fee : Option Amount) :
    Outcome x l now world (.preflight caller calls fee)
      ((l.preflight now caller calls fee).map .foreseen) l world := by
  cases judged : l.preflight now caller calls fee with
  | error e => exact .refused _ e
  | ok spend =>
    -- Anyone but the dispatcher is refused before the calls are looked at.
    have hcaller : caller = l.profile.dispatcher := by
      by_contra hne
      simp [preflight, authorize, Profile.holder, hne, bind, Except.bind] at judged
    subst hcaller
    exact .foreseen judged

theorem outcome_requestWithdraw (caller : Key) :
    Outcome x l now world (.requestWithdraw caller)
      ((l.requestWithdraw now caller).1.map .requested) (l.requestWithdraw now caller).2 world := by
  unfold requestWithdraw authorize
  by_cases hcaller : caller = l.profile.holder .owner
  · rw [if_pos hcaller, hcaller]
    exact .requested
  · rw [if_neg hcaller]
    exact .refused _ _

theorem outcome_executeWithdraw (caller recipient : Key) :
    Outcome x l now world (.executeWithdraw caller recipient)
      ((l.executeWithdraw x now caller recipient world).1.map .withdrawn)
      (l.executeWithdraw x now caller recipient world).2.1
      (l.executeWithdraw x now caller recipient world).2.2 := by
  unfold executeWithdraw authorize
  by_cases hcaller : caller = l.profile.holder .owner
  · simp only [if_pos hcaller, bind, Except.bind, pure, Except.pure]
    rw [hcaller]
    cases released : Withdrawal.ensureReleased l.state.withdrawRequestedAt now with
    | error e => exact .refused _ e
    | ok _ =>
      cases lamports : x.lamportsOf l.address world with
      | error e => exact .refused _ e
      | ok sol =>
        cases tokens : x.tokensIn l.tokenAccount world with
        | error e => exact .refused _ e
        | ok token =>
          dsimp only
          cases planned : l.sweepCalls recipient sol token with
          | error e => exact .refused _ e
          | ok calls =>
            cases calls with
            | nil => exact .withdrawnNothing released lamports tokens planned
            | cons call rest =>
              rcases carried : x.execute l.address (call :: rest) world with ⟨_ | signature, world'⟩
              · simp only [carried]
                exact .failed carried
              · simp only [carried]
                exact .withdrawn released lamports tokens planned (by simp) carried
  · simp only [if_neg hcaller]
    exact .refused _ _

/-- **What can come of a request** is one of the listed outcomes. -/
theorem outcome_perform (request : Request) :
    Outcome x l now world request (l.perform x now world request).1
      (l.perform x now world request).2.1 (l.perform x now world request).2.2 := by
  cases request with
  | execute caller call => exact l.outcome_execute x now world caller call
  | executeBatch caller calls => exact l.outcome_executeBatch x now world caller calls
  | reclaimGas caller amount compute =>
    exact l.outcome_reclaimGas x now world caller amount compute
  | preflight caller calls fee => exact l.outcome_preflight x now world caller calls fee
  | requestWithdraw caller => exact l.outcome_requestWithdraw x now world caller
  | executeWithdraw caller recipient =>
    exact l.outcome_executeWithdraw x now world caller recipient

/-! ### When a request is granted -/

variable {x l now world} {caller : Key}

/-- Whoever is paid back is the sponsor, and what was done is the transfer and its counting. -/
theorem reclaimGas_of_ok {amount compute : Amount} {receipt : Receipt} {l' : Ledger}
    {world' : σ} (h : l.reclaimGas x now caller amount compute world = (.ok receipt, l', world')) :
    caller = l.profile.sponsor ∧ ∃ call next signature,
      Call.tokenTransfer l.profile.tokenProgram l.tokenAccount
        (l.profile.tokenAccountOf l.profile.sponsor) l.address amount = .ok call ∧
      Policy.reclaim l.profile l.state amount now = .ok next ∧
      x.execute l.address [call] world = (.ok signature, world') ∧
      l' = { l with state := next } := by
  have houtcome := l.outcome_reclaimGas x now world caller amount compute
  rw [h] at houtcome
  generalize hrequest : Request.reclaimGas caller amount compute = request at houtcome
  cases houtcome with
  | reclaimed built judged carried =>
    cases hrequest
    exact ⟨rfl, _, _, _, built, judged, carried, rfl⟩

/-- A withdrawal has read both balances, planned the sweep and had it carried out, unless there was
nothing to do. -/
theorem executeWithdraw_of_ok {recipient : Key} {receipt : WithdrawalReceipt} {l' : Ledger}
    {world' : σ}
    (h : l.executeWithdraw x now caller recipient world = (.ok receipt, l', world')) :
    l' = { l with state := { l.state with withdrawRequestedAt := none } } ∧
      ∃ sol token calls, x.lamportsOf l.address world = .ok sol ∧
        x.tokensIn l.tokenAccount world = .ok token ∧
        l.sweepCalls recipient sol token = .ok calls ∧
        ((calls = [] ∧ receipt = ⟨none, recipient, sol, token, now⟩ ∧ world' = world) ∨
          calls ≠ [] ∧ ∃ signature, receipt = ⟨some signature, recipient, sol, token, now⟩ ∧
            x.execute l.address calls world = (.ok signature, world')) := by
  have houtcome := l.outcome_executeWithdraw x now world caller recipient
  rw [h] at houtcome
  generalize hrequest : Request.executeWithdraw caller recipient = request at houtcome
  cases houtcome with
  | withdrawnNothing released lamports tokens planned =>
    cases hrequest
    exact ⟨rfl, _, _, [], lamports, tokens, planned, .inl ⟨rfl, rfl, rfl⟩⟩
  | withdrawn released lamports tokens planned nonempty carried =>
    cases hrequest
    exact ⟨rfl, _, _, _, lamports, tokens, planned, .inr ⟨nonempty, _, rfl, carried⟩⟩

theorem isOk_settle {next : State} {calls : List Call} {receipt : Signature → Receipt} :
    (settle x l next calls receipt world).1.isOk = (x.execute l.address calls world).1.isOk := by
  rcases carried : x.execute l.address calls world with ⟨e | signature, world'⟩
  · rw [settle_of_error carried, isOk_error, isOk_error]
  · rw [settle_of_ok carried, isOk_ok, isOk_ok]

/-- Calls that were classified are carried out when the policy accepts what they move and the
executor succeeds. -/
theorem isOk_commit_iff {calls : List Call} {spend : Spend} :
    (l.commit x now calls spend world).1.isOk = true ↔
      (Policy.spend l.profile l.state spend now).isOk = true ∧
        (x.execute l.address calls world).1.isOk = true := by
  unfold commit
  cases Policy.spend l.profile l.state spend now with
  | error e => simp
  | ok accepted => simp [isOk_settle]

theorem isOk_execute_iff {call : Call} :
    (l.execute x now caller call world).1.isOk = true ↔
      caller = l.profile.dispatcher ∧
      ∃ spend, call.classify l.profile.tokenProgram = .ok spend ∧
        (Policy.spend l.profile l.state spend now).isOk = true ∧
        (x.execute l.address [call] world).1.isOk = true := by
  unfold execute authorize
  by_cases hcaller : caller = l.profile.holder .dispatcher
  swap
  · rw [if_neg hcaller]
    exact iff_of_false (by simp) fun h => hcaller h.1
  have hdispatcher : caller = l.profile.dispatcher := hcaller
  rw [if_pos hcaller]
  cases call.classify l.profile.tokenProgram with
  | error e => simp
  | ok spend => simp [isOk_commit_iff, hdispatcher]

theorem isOk_executeBatch_iff {calls : List Call} :
    (l.executeBatch x now caller calls world).1.isOk = true ↔
      caller = l.profile.dispatcher ∧
      ∃ spend, Batch.classify l.profile.tokenProgram calls = .ok spend ∧
        (Policy.spend l.profile l.state spend now).isOk = true ∧
        (x.execute l.address calls world).1.isOk = true := by
  unfold executeBatch authorize
  by_cases hcaller : caller = l.profile.holder .dispatcher
  swap
  · rw [if_neg hcaller]
    exact iff_of_false (by simp) fun h => hcaller h.1
  have hdispatcher : caller = l.profile.dispatcher := hcaller
  rw [if_pos hcaller]
  cases Batch.classify l.profile.tokenProgram calls with
  | error e => simp
  | ok spend => simp [isOk_commit_iff, hdispatcher]

/-- The sponsor is paid back when it asks itself, enough compute is left, the policy accepts the
amount, and the transfer can be built and carried out. -/
theorem isOk_reclaimGas_iff {amount compute : Amount} :
    (l.reclaimGas x now caller amount compute world).1.isOk = true ↔
      caller = l.profile.sponsor ∧ reclaimCompute ≤ compute ∧
      (Policy.reclaim l.profile l.state amount now).isOk = true ∧
      ∃ call, Call.tokenTransfer l.profile.tokenProgram l.tokenAccount
          (l.profile.tokenAccountOf l.profile.sponsor) l.address amount = .ok call ∧
        (x.execute l.address [call] world).1.isOk = true := by
  unfold reclaimGas authorize
  rw [← UInt64.not_lt]
  by_cases hcaller : caller = l.profile.holder .sponsor
  swap
  · rw [if_neg hcaller]
    exact iff_of_false (by simp) fun h => hcaller h.1
  rw [if_pos hcaller]
  by_cases hcompute : compute < reclaimCompute
  · simp [hcompute]
  dsimp only
  rw [if_neg hcompute]
  cases Call.tokenTransfer l.profile.tokenProgram l.tokenAccount
      (l.profile.tokenAccountOf l.profile.sponsor) l.address amount with
  | error e => simp
  | ok call =>
    cases Policy.reclaim l.profile l.state amount now with
    | error e => simp
    | ok next =>
      have hsponsor : caller = l.profile.sponsor := hcaller
      simp [isOk_settle, hcompute, hsponsor]

/-- A withdrawal is carried out when the owner asks for it after the timelock, both balances can be
read, and the calls that empty the account can be built and carried out. -/
theorem isOk_executeWithdraw_iff {recipient : Key} :
    (l.executeWithdraw x now caller recipient world).1.isOk = true ↔
      caller = l.profile.owner ∧
      Withdrawal.ensureReleased l.state.withdrawRequestedAt now = .ok () ∧
      ∃ sol token calls, x.lamportsOf l.address world = .ok sol ∧
        x.tokensIn l.tokenAccount world = .ok token ∧
        l.sweepCalls recipient sol token = .ok calls ∧
        (calls = [] ∨ (x.execute l.address calls world).1.isOk = true) := by
  unfold executeWithdraw authorize
  simp only [bind, Except.bind, pure, Except.pure]
  by_cases hcaller : caller = l.profile.holder .owner
  swap
  · rw [if_neg hcaller]
    exact iff_of_false (by simp) fun h => hcaller h.1
  have howner : caller = l.profile.owner := hcaller
  rw [if_pos hcaller]
  cases Withdrawal.ensureReleased l.state.withdrawRequestedAt now with
  | error e => simp
  | ok _ =>
    cases x.lamportsOf l.address world with
    | error e => simp
    | ok sol =>
      cases x.tokensIn l.tokenAccount world with
      | error e => simp
      | ok token =>
        dsimp only
        cases planned : l.sweepCalls recipient sol token with
        | error e => simp [planned]
        | ok calls =>
          cases calls with
          | nil => simp [howner, planned]
          | cons call rest =>
            rcases carried : x.execute l.address (call :: rest) world with
              ⟨e | signature, world'⟩
            · simp [howner, planned, carried]
            · simp [howner, planned, carried]

end Ledger

end SpendGuard
