import SpendGuard.Proofs.Ledger.Agreement

/-!
# What an error means

An account does not answer with an error without a reason. `Ledger.Refusal` lists the reasons, each
with the error that is told then and with what is the case: who asked, what the policy found, what
is missing for a withdrawal, or that the executor reported the error itself. Every error that a
request is answered with is one of these (`Ledger.refusal_of_error`). In particular the policy's
cooldown speaks only to the dispatcher, who alone asks for spending.
-/

namespace SpendGuard

/-- The role that a request needs. The dispatcher asks for spending, or whether it would pass. -/
def Request.role : Request → Role
  | execute _ _ | executeBatch _ _ | preflight _ _ _ => .dispatcher
  | reclaimGas _ _ _ => .sponsor
  | requestWithdraw _ | executeWithdraw _ _ => .owner

/-! ### Errors of the executor -/

/-- An executor answers an account with an error of its own. -/
inductive Executor.Reports {σ : Type} (x : Executor σ) (account : Key) (world : σ) (e : Error) :
    Prop
  /-- It could not carry out calls. -/
  | execute {calls : List Call} (failed : (x.execute account calls world).1 = .error e) :
      Reports x account world e
  /-- It could not tell the lamports of a wallet. -/
  | lamportsOf {wallet : Key} (failed : x.lamportsOf wallet world = .error e) :
      Reports x account world e
  /-- It could not tell the units in a token account. -/
  | tokensIn {holder : Key} (failed : x.tokensIn holder world = .error e) :
      Reports x account world e

/-- The in-memory chain has no other complaint than that calls could not be carried out. -/
theorem Chain.callFailed_of_reports {account : Key} {chain : Chain} {e : Error}
    (h : executor.Reports account chain e) : ∃ fault, e = .callFailed fault := by
  cases h with
  | @execute calls failed =>
    change (Chain.execute account calls chain).1 = .error e at failed
    unfold Chain.execute at failed
    split at failed
    · cases failed
      exact ⟨_, rfl⟩
    · cases failed
  | lamportsOf failed => cases failed
  | tokensIn failed => cases failed

namespace Ledger

variable {σ : Type}

/-! ### The reasons -/

/-- Why a request is answered with an error, and which. -/
inductive Refusal (x : Executor σ) (l : Ledger) (now : Instant) (world : σ) :
    Request → Error → Prop
  /-- The caller does not have the role that the request needs. -/
  | unauthorized {request : Request}
      (stranger : request.caller ≠ l.profile.holder request.role) :
      Refusal x l now world request (.unauthorized request.caller request.role)
  /-- A call is not permitted. -/
  | disallowed {request : Request} (asks : request.role = .dispatcher) (reason : Objection) :
      Refusal x l now world request (.disallowedCall reason)
  /-- What the calls move, with the fee, does not fit. -/
  | unsummable {request : Request} (asks : request.role = .dispatcher) :
      Refusal x l now world request .overflow
  /-- The policy does not accept the spend. -/
  | unaccepted {request : Request} {amount : Spend} {e : Error} (asks : request.role = .dispatcher)
      (judged : Policy.Obstacle l.profile l.state amount now e) :
      Refusal x l now world request e
  /-- Too little compute is left to pay the sponsor back. -/
  | compute {caller : Key} {amount compute : Amount} (short : compute < reclaimCompute) :
      Refusal x l now world (.reclaimGas caller amount compute)
        (.insufficientCompute compute reclaimCompute)
  /-- What the sponsor reclaims is over a cap on the token. -/
  | overCap {caller : Key} {amount compute : Amount} {e : Error}
      (judged : l.profile.limits.token.Breach .token (l.state.roll now).token amount e) :
      Refusal x l now world (.reclaimGas caller amount compute) e
  /-- Token transfers cannot be built. -/
  | unbuildable {request : Request} (program : l.profile.tokenProgram ≠ Token.standardProgram)
      (text : String) : Refusal x l now world request (.encoding text)
  /-- Nobody asked for the withdrawal before. -/
  | unrequested {caller recipient : Key} (idle : l.state.withdrawRequestedAt = none) :
      Refusal x l now world (.executeWithdraw caller recipient) .noWithdrawalPending
  /-- The withdrawal has to wait. -/
  | unreleased {caller recipient : Key} {t : Instant}
      (pending : l.state.withdrawRequestedAt = some t) (waiting : now < Withdrawal.readyAt t) :
      Refusal x l now world (.executeWithdraw caller recipient)
        (.timelockNotElapsed (Withdrawal.readyAt t))
  /-- The executor said so. -/
  | reported {request : Request} {e : Error} (executor : x.Reports l.address world e) :
      Refusal x l now world request e

variable {x : Executor σ} {l : Ledger} {now : Instant} {world : σ} {caller recipient : Key}
  {call : Call} {calls : List Call} {amount compute : Amount} {spend : Spend} {e : Error}

/-! ### The reason for each request -/

theorem refusal_of_authorize {request : Request}
    (h : l.authorize request.caller request.role = .error e) :
    Refusal x l now world request e := by
  unfold authorize at h
  split at h
  · cases h
  · next hstranger =>
    cases h
    exact .unauthorized hstranger

/-- Calls that were classified fail by the policy or by the executor. -/
theorem refusal_of_commit {request : Request} (asks : request.role = .dispatcher)
    (h : (l.commit x now calls spend world).1 = .error e) : Refusal x l now world request e := by
  unfold commit at h
  cases hjudged : Policy.spend l.profile l.state spend now with
  | error e' =>
    rw [hjudged] at h
    cases h
    exact .unaccepted asks (Policy.obstacle_of_spend hjudged)
  | ok accepted =>
    rw [hjudged] at h
    dsimp only at h
    rw [settle_fst] at h
    exact .reported (.execute (map_eq_error_iff.mp h))

theorem refusal_of_execute (h : (l.execute x now caller call world).1 = .error e) :
    Refusal x l now world (.execute caller call) e := by
  unfold execute at h
  cases hcaller : l.authorize caller .dispatcher with
  | error e' =>
    rw [hcaller] at h
    cases h
    exact refusal_of_authorize hcaller
  | ok _ =>
    rw [hcaller] at h
    cases hcall : call.classify l.profile.tokenProgram with
    | error e' =>
      obtain ⟨reason, rfl⟩ := Call.disallowed_of_classify hcall
      rw [hcall] at h
      cases h
      exact .disallowed rfl reason
    | ok spend =>
      rw [hcall] at h
      exact refusal_of_commit rfl h

theorem refusal_of_classify {request : Request} (asks : request.role = .dispatcher)
    (h : Batch.classify l.profile.tokenProgram calls = .error e) :
    Refusal x l now world request e := by
  obtain ⟨reason, rfl⟩ | rfl := Batch.error_of_classify h
  · exact .disallowed asks reason
  · exact .unsummable asks

theorem refusal_of_executeBatch (h : (l.executeBatch x now caller calls world).1 = .error e) :
    Refusal x l now world (.executeBatch caller calls) e := by
  unfold executeBatch at h
  cases hcaller : l.authorize caller .dispatcher with
  | error e' =>
    rw [hcaller] at h
    cases h
    exact refusal_of_authorize hcaller
  | ok _ =>
    rw [hcaller] at h
    cases hcalls : Batch.classify l.profile.tokenProgram calls with
    | error e' =>
      rw [hcalls] at h
      cases h
      exact refusal_of_classify rfl hcalls
    | ok spend =>
      rw [hcalls] at h
      exact refusal_of_commit rfl h

theorem refusal_of_preflight {fee : Option Amount}
    (h : l.preflight now caller calls fee = .error e) :
    Refusal x l now world (.preflight caller calls fee) e := by
  have hjudge {total : Spend}
      (h : ((Policy.spend l.profile l.state total now).bind fun _ => pure total) = .error e) :
      Refusal x l now world (.preflight caller calls fee) e := by
    obtain hjudged | ⟨_, -, hnothing⟩ := bind_eq_error_iff.mp h
    · exact .unaccepted rfl (Policy.obstacle_of_spend hjudged)
    · cases hnothing
  simp only [preflight, bind, bind_eq_error_iff] at h
  obtain hcaller | ⟨_, -, hcalls | ⟨moved, -, h⟩⟩ := h
  · exact refusal_of_authorize hcaller
  · exact refusal_of_classify rfl hcalls
  cases fee with
  | none => exact hjudge h
  | some fee =>
    dsimp only at h
    cases hsum : moved.add? ⟨0, fee⟩ with
    | none =>
      rw [hsum] at h
      cases h
      exact .unsummable rfl
    | some total =>
      rw [hsum] at h
      exact hjudge h

theorem refusal_of_reclaimGas
    (h : (l.reclaimGas x now caller amount compute world).1 = .error e) :
    Refusal x l now world (.reclaimGas caller amount compute) e := by
  unfold reclaimGas at h
  cases hcaller : l.authorize caller .sponsor with
  | error e' =>
    rw [hcaller] at h
    cases h
    exact refusal_of_authorize hcaller
  | ok _ =>
    rw [hcaller] at h
    dsimp only at h
    by_cases hcompute : compute < reclaimCompute
    · rw [if_pos hcompute] at h
      cases h
      exact .compute hcompute
    rw [if_neg hcompute] at h
    cases hbuilt : Call.tokenTransfer l.profile.tokenProgram l.tokenAccount
        (l.profile.tokenAccountOf l.profile.sponsor) l.address amount with
    | error e' =>
      obtain ⟨hprogram, text, rfl⟩ := Call.encoding_of_tokenTransfer hbuilt
      rw [hbuilt] at h
      cases h
      exact .unbuildable hprogram text
    | ok call =>
      cases hjudged : Policy.reclaim l.profile l.state amount now with
      | error e' =>
        rw [hbuilt, hjudged] at h
        cases h
        exact .overCap (Policy.breach_of_reclaim hjudged)
      | ok next =>
        rw [hbuilt, hjudged] at h
        dsimp only at h
        rw [settle_fst] at h
        exact .reported (.execute (map_eq_error_iff.mp h))

theorem refusal_of_requestWithdraw (h : (l.requestWithdraw now caller).1 = .error e) :
    Refusal x l now world (.requestWithdraw caller) e := by
  unfold requestWithdraw at h
  cases hcaller : l.authorize caller .owner with
  | error e' =>
    rw [hcaller] at h
    cases h
    exact refusal_of_authorize hcaller
  | ok _ =>
    rw [hcaller] at h
    cases h

/-- A withdrawal that is held back was not requested, or has to wait. -/
theorem refusal_of_ensureReleased
    (h : Withdrawal.ensureReleased l.state.withdrawRequestedAt now = .error e) :
    Refusal x l now world (.executeWithdraw caller recipient) e := by
  cases hrequest : l.state.withdrawRequestedAt with
  | none =>
    rw [hrequest] at h
    cases h
    exact .unrequested hrequest
  | some t =>
    rw [hrequest, Withdrawal.ensureReleased] at h
    split at h
    · next hwaiting =>
      cases h
      exact .unreleased hrequest hwaiting
    · cases h

theorem unbuildable_of_sweepCalls {sol token : Amount} {request : Request}
    (h : l.sweepCalls recipient sol token = .error e) : Refusal x l now world request e := by
  simp only [sweepCalls, bind, Except.bind, pure, Except.pure] at h
  split at h
  · split at h
    · next hbuilt =>
      cases h
      obtain ⟨hprogram, text, rfl⟩ := Call.encoding_of_tokenTransfer hbuilt
      exact .unbuildable hprogram text
    · cases h
  · cases h

/-- What a withdrawal is about to send: both balances, and the calls that empty the account. -/
def withdrawalPlan (x : Executor σ) (l : Ledger) (now : Instant) (caller recipient : Key)
    (world : σ) : Except Error (Amount × Amount × List Call) := do
  l.authorize caller .owner
  Withdrawal.ensureReleased l.state.withdrawRequestedAt now
  let sol ← x.lamportsOf l.address world
  let token ← x.tokensIn l.tokenAccount world
  let calls ← l.sweepCalls recipient sol token
  return (sol, token, calls)

theorem executeWithdraw_eq :
    l.executeWithdraw x now caller recipient world =
      match l.withdrawalPlan x now caller recipient world with
      | .error e => (.error e, l, world)
      | .ok (sol, token, calls) =>
        let cleared := { l with state := { l.state with withdrawRequestedAt := none } }
        if calls.isEmpty then (.ok ⟨none, recipient, sol, token, now⟩, cleared, world)
        else
          match x.execute l.address calls world with
          | (.error e, world) => (.error e, l, world)
          | (.ok signature, world) =>
            (.ok ⟨some signature, recipient, sol, token, now⟩, cleared, world) := rfl

theorem refusal_of_withdrawalPlan
    (h : l.withdrawalPlan x now caller recipient world = .error e) :
    Refusal x l now world (.executeWithdraw caller recipient) e := by
  simp only [withdrawalPlan, bind, bind_eq_error_iff] at h
  -- One case for each step of the plan, in order.
  obtain hcaller | ⟨_, -, hheld | ⟨_, -, hlamports | ⟨sol, -, htokens | ⟨token, -, hcalls⟩⟩⟩⟩ := h
  · exact refusal_of_authorize hcaller
  · exact refusal_of_ensureReleased hheld
  · exact .reported (.lamportsOf hlamports)
  · exact .reported (.tokensIn htokens)
  · obtain hcalls | ⟨_, -, hnothing⟩ := hcalls
    · exact unbuildable_of_sweepCalls hcalls
    · cases hnothing

theorem refusal_of_executeWithdraw
    (h : (l.executeWithdraw x now caller recipient world).1 = .error e) :
    Refusal x l now world (.executeWithdraw caller recipient) e := by
  rw [executeWithdraw_eq] at h
  cases hplan : l.withdrawalPlan x now caller recipient world with
  | error e' =>
    rw [hplan] at h
    cases h
    exact refusal_of_withdrawalPlan hplan
  | ok plan =>
    rw [hplan] at h
    dsimp only at h
    split at h
    · cases h
    · split at h
      · next hfailed =>
        cases h
        exact .reported (.execute (congrArg Prod.fst hfailed))
      · cases h

/-- **Every error has a reason.** -/
theorem refusal_of_error {request : Request} (h : (l.perform x now world request).1 = .error e) :
    Refusal x l now world request e := by
  cases request with
  | execute caller call => exact refusal_of_execute (map_eq_error_iff.mp h)
  | executeBatch caller calls => exact refusal_of_executeBatch (map_eq_error_iff.mp h)
  | reclaimGas caller amount compute => exact refusal_of_reclaimGas (map_eq_error_iff.mp h)
  | preflight caller calls fee => exact refusal_of_preflight (map_eq_error_iff.mp h)
  | requestWithdraw caller => exact refusal_of_requestWithdraw (map_eq_error_iff.mp h)
  | executeWithdraw caller recipient =>
    exact refusal_of_executeWithdraw (map_eq_error_iff.mp h)

end Ledger

end SpendGuard
