import SpendGuard.Proofs.Classification.Batch
import SpendGuard.Proofs.Classification.TokenCall
import SpendGuard.Proofs.Ledger.Agreement

/-!
# What is handed over

What an account hands to its executor is out of its hands, so nothing should get there that was not
accounted for. An executor that keeps a record tells what got there, and does what it did otherwise
(`Ledger.perform_recording`): calls get there when they are judged acceptable, and then all of them
do. Each is a transfer of the token program without lamports, or attaches lamports and is addressed
to somebody else (`Call.isOk_classify_iff_permitted`). The latter need not be a plain transfer. Its
data and accounts are not looked at (`Ledger.judge_stripped`), so a call that makes a program do
something is let through like one that pays a wallet.
-/

namespace SpendGuard

/-! ### Permitted calls -/

/-- The calls that are let through. -/
inductive Call.Permitted (tokenProgram : Key) : Call → Prop
  /-- Lamports to anyone but the token program, with any data and accounts. -/
  | paying {call : Call} (elsewhere : call.target ≠ tokenProgram) (pays : 0 < call.value) :
      Permitted tokenProgram call
  /-- A transfer of the token program, without lamports. -/
  | transfer (amount : Amount) (trailing : List UInt8) (source destination authority : Key)
      (others : List Key) :
      Permitted tokenProgram ⟨tokenProgram, 0, Token.Instruction.transferData amount ++ trailing,
        source :: destination :: authority :: others⟩

namespace Call

variable {tokenProgram : Key} {call : Call}

theorem isOk_classify_iff_permitted :
    (call.classify tokenProgram).isOk = true ↔ call.Permitted tokenProgram := by
  rw [isOk_iff_exists]
  constructor
  · rintro ⟨spend, hpass⟩
    rcases classify_eq_ok_iff.mp hpass with ⟨elsewhere, pays, -⟩ | ⟨htarget, -⟩
    · exact .paying elsewhere (UInt64.pos_iff_ne_zero.mpr pays)
    · obtain ⟨amount, trailing, source, destination, authority, others, rfl, -⟩ :=
        (classify_token_eq_ok_iff_exists htarget).mp hpass
      exact .transfer amount trailing source destination authority others
  · rintro (⟨elsewhere, pays⟩ | ⟨amount, trailing, source, destination, authority, others⟩)
    · exact ⟨_, classify_eq_ok_iff.mpr
        (.inl ⟨elsewhere, UInt64.pos_iff_ne_zero.mp pays, rfl⟩)⟩
    · exact ⟨_, (classify_token_eq_ok_iff_exists rfl).mpr
        ⟨amount, trailing, source, destination, authority, others, rfl, rfl⟩⟩

/-- The plain transfer of a call's lamports, if they go to anyone but the token program. -/
def stripped (tokenProgram : Key) (call : Call) : Call :=
  if call.target = tokenProgram then call else .native call.target call.value

/-- Data and accounts of a call to anyone but the token program are not looked at. -/
theorem classify_stripped : (call.stripped tokenProgram).classify tokenProgram =
    call.classify tokenProgram := by
  unfold stripped
  split
  · rfl
  · next elsewhere =>
    have hplain : (native call.target call.value).target ≠ tokenProgram := elsewhere
    rw [classify, classify, if_neg hplain, if_neg elsewhere]
    rfl

end Call

namespace Batch

variable {tokenProgram : Key} {calls : List Call}

theorem classifyFrom_stripped {index : Nat} {running : Spend} :
    classifyFrom tokenProgram index running (calls.map (Call.stripped tokenProgram)) =
      classifyFrom tokenProgram index running calls := by
  induction calls generalizing index running with
  | nil => rfl
  | cons call rest ih =>
    rw [List.map_cons, classifyFrom, classifyFrom, Call.classify_stripped]
    simp only [ih]

theorem classify_stripped :
    classify tokenProgram (calls.map (Call.stripped tokenProgram)) =
      classify tokenProgram calls := by
  rw [classify, classify, List.isEmpty_map, classifyFrom_stripped]

end Batch

/-! ### Keeping a record -/

section Recording

variable {σ : Type}

/-- An executor that also keeps what it was handed, batch by batch. -/
def Executor.recording (x : Executor σ) : Executor (σ × List (List Call)) where
  execute sender calls w :=
    let (answer, world) := x.execute sender calls w.1
    (answer, world, w.2 ++ [calls])
  lamportsOf wallet w := x.lamportsOf wallet w.1
  tokensIn account w := x.tokensIn account w.1
  chargeFee payer lamports w :=
    let (answer, world) := x.chargeFee payer lamports w.1
    (answer, world, w.2)

/-- A request whose executor keeps a record. -/
def Attempt.recording {α : Type} (q : Attempt σ α) : Attempt (σ × List (List Call)) α :=
  { q with executor := q.executor.recording }

namespace Ledger

variable {x : Executor σ} {l : Ledger} {now : Instant} {caller : Key} {call : Call}
  {calls : List Call} {world : σ} {record : List (List Call)} {request : Request}

/-- What is handed over when a caller asks for calls to be carried out: all of them or nothing. -/
def handsOver (l : Ledger) (now : Instant) (caller : Key) (calls : List Call) : List (List Call) :=
  if (l.judge now caller calls).isOk then [calls] else []

/-- What comes of a request, with a record put beside the world. -/
def noting (record : List (List Call)) {α : Type} (after : α × Ledger × σ) :
    α × Ledger × σ × List (List Call) :=
  (after.1, after.2.1, after.2.2, record)

theorem settle_recording {next : State} {receipt : Signature → Receipt} :
    settle x.recording l next calls receipt (world, record) =
      noting (record ++ [calls]) (settle x l next calls receipt world) := by
  rcases carried : x.execute l.address calls world with ⟨e | signature, world'⟩
  · have hrecorded : x.recording.execute l.address calls (world, record) =
        (.error e, world', record ++ [calls]) := by simp only [Executor.recording, carried]
    rw [settle_of_error carried, settle_of_error hrecorded, noting]
  · have hrecorded : x.recording.execute l.address calls (world, record) =
        (.ok signature, world', record ++ [calls]) := by simp only [Executor.recording, carried]
    rw [settle_of_ok carried, settle_of_ok hrecorded, noting]

/-- Nothing depends on data and accounts of calls to anyone but the token program. -/
theorem judge_stripped :
    l.judge now caller (calls.map (Call.stripped l.profile.tokenProgram)) =
      l.judge now caller calls := by
  rw [judge, judge, Batch.classify_stripped]

/-- Only permitted calls are accepted. -/
theorem permitted_of_isOk_judge (h : (l.judge now caller calls).isOk = true) :
    ∀ call ∈ calls, call.Permitted l.profile.tokenProgram := by
  obtain ⟨-, spend, hclass, -⟩ := isOk_judge_iff.mp h
  obtain ⟨-, hpass, -⟩ := Batch.isOk_classify_iff.mp (isOk_iff_exists.mpr ⟨spend, hclass⟩)
  exact fun call hcall => Call.isOk_classify_iff_permitted.mp (hpass call hcall)

theorem executeBatch_recording :
    l.executeBatch x.recording now caller calls (world, record) =
      noting (record ++ l.handsOver now caller calls)
        (l.executeBatch x now caller calls world) := by
  rw [executeBatch_eq, executeBatch_eq, handsOver]
  cases l.judge now caller calls with
  | error e => simp [noting]
  | ok judged => exact settle_recording

theorem execute_recording :
    l.execute x.recording now caller call (world, record) =
      noting (record ++ l.handsOver now caller [call]) (l.execute x now caller call world) := by
  by_cases hpass : caller = l.profile.dispatcher →
      (call.classify l.profile.tokenProgram).isOk = true
  · rw [execute_eq_executeBatch hpass, execute_eq_executeBatch hpass, executeBatch_recording]
  · -- The call is objected to, and so is a batch of it alone.
    obtain ⟨rfl, hfails⟩ := Classical.not_imp.mp hpass
    have hrefused : ¬ (l.judge now l.profile.dispatcher [call]).isOk = true := fun hjudged =>
      hfails (Call.isOk_classify_iff_permitted.mpr
        (permitted_of_isOk_judge hjudged call List.mem_cons_self))
    obtain ⟨e, herror⟩ := not_isOk_iff_exists.mp hfails
    obtain ⟨reason, rfl⟩ := Call.disallowed_of_classify herror
    rw [(execute_of_disallowed x.recording now (world, record) herror).1,
      (execute_of_disallowed x now world herror).1, handsOver, if_neg hrefused, List.append_nil,
      noting]

/-- **What is handed over** when calls are asked for, by themselves or as a batch. Keeping a record
of it changes nothing else. -/
theorem perform_recording (asked : request.spending? = some calls) :
    l.perform x.recording now (world, record) request =
      noting (record ++ l.handsOver now request.caller calls)
        (l.perform x now world request) := by
  cases request with
  | execute caller call =>
    cases asked
    rw [perform, perform, execute_recording]
    rfl
  | executeBatch caller calls =>
    cases asked
    rw [perform, perform, executeBatch_recording]
    rfl
  | reclaimGas | preflight | requestWithdraw | executeWithdraw => cases asked

/-- Calls that were carried out had been handed over. -/
theorem handsOver_of_isOk_perform (asked : request.spending? = some calls)
    (h : (l.perform x now world request).1.isOk = true) :
    l.handsOver now request.caller calls = [calls] := by
  refine if_pos (isOk_judge_iff.mpr ?_)
  cases request with
  | execute caller call =>
    cases asked
    obtain ⟨hcaller, spend, hcall, hspend, -⟩ := isOk_execute_iff.mp ((isOk_map _ _).symm.trans h)
    exact ⟨hcaller, spend, Batch.classify_singleton hcall, hspend⟩
  | executeBatch caller calls =>
    cases asked
    obtain ⟨hcaller, spend, hcalls, hspend, -⟩ :=
      isOk_executeBatch_iff.mp ((isOk_map _ _).symm.trans h)
    exact ⟨hcaller, spend, hcalls, hspend⟩
  | reclaimGas | preflight | requestWithdraw | executeWithdraw => cases asked

/-! ### Runs -/

/-- The batches that are handed over while requests for calls are answered, in order. -/
def handedOver (l : Ledger) (world : σ) : List (Attempt σ Request) → List (List Call)
  | [] => []
  | ⟨x, now, request⟩ :: rest =>
    (request.spending?.map (l.handsOver now request.caller)).getD [] ++
      handedOver (l.perform x now world request).2.1 (l.perform x now world request).2.2 rest

variable {attempts rest : List (Attempt σ Request)}

theorem handedOver_cons (asked : request.spending? = some calls) :
    l.handedOver world (⟨x, now, request⟩ :: rest) =
      l.handsOver now request.caller calls ++
        handedOver (l.perform x now world request).2.1 (l.perform x now world request).2.2
          rest := by
  rw [handedOver, asked]
  rfl

/-- Keeping a record changes nothing else in a run in which calls are asked for. -/
theorem run_recording (hasked : ∀ q ∈ attempts, q.asked.spending?.isSome = true) :
    l.run (world, record) (attempts.map Attempt.recording) =
      ⟨(l.run world attempts).entries, (l.run world attempts).ledger,
        (l.run world attempts).world, record ++ l.handedOver world attempts⟩ := by
  induction attempts generalizing l world record with
  | nil => rw [List.map_nil, handedOver, List.append_nil, run, run]
  | cons q rest ih =>
    obtain ⟨x, now, request⟩ := q
    obtain ⟨hfirst, hrest⟩ := List.forall_mem_cons.mp hasked
    obtain ⟨calls, asked⟩ := Option.isSome_iff_exists.mp hfirst
    rw [List.map_cons, Attempt.recording, run_cons, run_cons, runAfter, runAfter,
      perform_recording asked, noting, ih hrest,
      handedOver_cons asked, List.append_assoc]

/-- What is handed over is some of what is asked, in its order. -/
theorem handedOver_sublist :
    (l.handedOver world attempts).Sublist (attempts.filterMap fun q => q.asked.spending?) := by
  induction attempts generalizing l world with
  | nil => exact .refl _
  | cons q rest ih =>
    obtain ⟨x, now, request⟩ := q
    cases asked : request.spending? with
    | none =>
      simp only [List.filterMap_cons, handedOver, asked]
      exact ih
    | some calls =>
      rw [handedOver_cons asked]
      simp only [List.filterMap_cons, asked]
      rw [← List.singleton_append]
      refine List.Sublist.append ?_ ih
      unfold handsOver
      split
      · exact .refl _
      · exact List.nil_sublist _

/-- All of it is permitted. -/
theorem permitted_of_mem_handedOver (h : calls ∈ l.handedOver world attempts) :
    ∀ call ∈ calls, call.Permitted l.profile.tokenProgram := by
  induction attempts generalizing l world with
  | nil => cases h
  | cons q rest ih =>
    obtain ⟨x, now, request⟩ := q
    rw [handedOver] at h
    rcases List.mem_append.mp h with hnow | hlater
    · cases asked : request.spending? with
      | none =>
        rw [asked] at hnow
        cases hnow
      | some batch =>
        rw [asked, Option.map_some, Option.getD_some, handsOver] at hnow
        split at hnow
        · next hjudged =>
          obtain rfl := List.mem_singleton.mp hnow
          exact permitted_of_isOk_judge hjudged
        · cases hnow
    · -- What is permitted depends on the profile, which stays.
      rw [← (l.outcome_perform x now world request).sameAccount.profile]
      exact ih hlater

/-- All that was carried out is in it. -/
theorem mem_handedOver_of_isOk {e : Entry} (he : e ∈ (l.run world attempts).entries)
    (asked : e.request.spending? = some calls) (hok : e.answer.isOk = true) :
    calls ∈ l.handedOver world attempts := by
  induction attempts generalizing l world with
  | nil => cases he
  | cons q rest ih =>
    obtain ⟨x, now, request⟩ := q
    rw [entries_run_cons] at he
    rw [handedOver]
    rcases List.mem_cons.mp he with rfl | hlater
    · rw [asked, Option.map_some, Option.getD_some, handsOver_of_isOk_perform asked hok]
      exact List.mem_append_left _ (List.mem_singleton.mpr rfl)
    · exact List.mem_append_right _ (ih hlater)

/-- **Only permitted calls are handed over**, whatever is asked for, by whomever, by themselves or
in batches, and whatever the executors, one for each request, make of them. When a record is kept,

* everybody is answered as without it, and everything ends up where it did;
* it holds some of the batches that were asked for, in their order, and among them all that were
  carried out;
* each call in it is a transfer of the token program that attaches no lamports, or attaches some and
  is addressed to somebody else.

Of the latter only the lamports and whom they are for play a part: with data and accounts taken off,
which leaves a plain transfer, calls would be judged the same. -/
theorem only_permitted_calls_handed_over (l : Ledger) (world : σ)
    (attempts : List (Attempt σ Request))
    (hasked : ∀ q ∈ attempts, q.asked.spending?.isSome = true) :
    let plain := l.run world attempts
    let recorded := l.run (world, []) (attempts.map Attempt.recording)
    (recorded.entries = plain.entries ∧ recorded.ledger = plain.ledger ∧
      recorded.world.1 = plain.world) ∧
    recorded.world.2.Sublist (attempts.filterMap fun q => q.asked.spending?) ∧
    (∀ e ∈ plain.entries, e.answer.isOk = true → ∀ calls, e.request.spending? = some calls →
      calls ∈ recorded.world.2) ∧
    (∀ calls ∈ recorded.world.2, ∀ call ∈ calls, call.Permitted l.profile.tokenProgram) ∧
    ∀ now caller calls,
      l.judge now caller (calls.map (Call.stripped l.profile.tokenProgram)) =
        l.judge now caller calls := by
  intro plain recorded
  have hrecorded : recorded = ⟨plain.entries, plain.ledger, plain.world,
      [] ++ l.handedOver world attempts⟩ := run_recording hasked
  rw [List.nil_append] at hrecorded
  rw [hrecorded]
  exact ⟨⟨rfl, rfl, rfl⟩, handedOver_sublist,
    fun e he hok calls asked => mem_handedOver_of_isOk he asked hok,
    fun calls => permitted_of_mem_handedOver, fun _ _ _ => judge_stripped⟩

end Ledger

end Recording

namespace Ledger

/-- Three ways to ask: for a lunch, for a lunch that nobody but the dispatcher may ask for, and for
a call that moves nothing. -/
def threeOrders : List (Attempt Chain Request) :=
  Chain.executor.serving
    [(60, .executeBatch (.repeating 2) lunch), (61, .executeBatch (.repeating 9) lunch),
      (62, .execute (.repeating 2) (.native .zero 0))]

/-- The lunch is handed over and nothing else is. -/
theorem threeOrders_handed_over :
    let plain := (small 0).run .funded threeOrders
    let recorded := (small 0).run (.funded, []) (threeOrders.map Attempt.recording)
    plain.entries.map (·.answer.isOk) = [true, false, false] ∧ recorded.world.2 = [lunch] ∧
      recorded.entries = plain.entries ∧
      ∀ call ∈ lunch, call.Permitted Token.standardProgram := by
  have hasked : ∀ q ∈ threeOrders, q.asked.spending?.isSome = true := by decide
  obtain ⟨⟨hentries, -, -⟩, -, -, hpermitted, -⟩ :=
    only_permitted_calls_handed_over (small 0) .funded threeOrders hasked
  have hrecord : ((small 0).run (.funded, []) (threeOrders.map Attempt.recording)).world.2 =
      [lunch] := by decide
  exact ⟨by decide, hrecord, hentries, hpermitted lunch (hrecord ▸ List.mem_singleton.mpr rfl)⟩

/-- A lamport to somebody, with data and an account. -/
def errand : Call := ⟨.repeating 6, 1, [7], [.repeating 5]⟩

/-- It is carried out by itself and in a batch, and is handed over as it is: it is no plain
transfer, and the one to whom it is addressed is not the token program. -/
theorem errand_handed_over :
    let single := (small 0).execute Executor.obliging.recording 60 (.repeating 2) errand ((), [])
    let batch := (small 0).executeBatch Executor.obliging.recording 60 (.repeating 2) [errand]
      ((), [])
    single.1.isOk = true ∧ single.2.2.2 = [[errand]] ∧ batch.1.isOk = true ∧
      batch.2.2.2 = [[errand]] ∧ errand ≠ .native errand.target errand.value ∧
      errand.target ≠ (small 0).profile.tokenProgram := by
  decide

end Ledger

end SpendGuard
