import Mathlib.Data.Set.Function
import SpendGuard.Proofs.Ledger.Refusal

/-!
# Every withdrawal waits for a request of its own

An account remembers one instant for its emergency withdrawal, that of the request that is pending.
Only two kinds of entries concern it: a request begins the wait, or begins it again, and a
withdrawal ends it (`Ledger.withdrawRequestedAt_run`); spending, repayments and everything that
fails leave it alone. So what is pending was last requested, and not withdrawn upon since
(`Entry.exists_requested_of_foldl_pending`), and a withdrawal, which needs the timelock of the
pending request to be over, answers to that request alone: the next one has to wait for another.
-/

namespace SpendGuard

/-- A withdrawal is released where it was requested and its timelock is over. -/
theorem Withdrawal.ensureReleased_eq_ok_iff {request : Option Instant} {now : Instant} :
    Withdrawal.ensureReleased request now = .ok () ↔
      ∃ t, request = some t ∧ Withdrawal.readyAt t ≤ now := by
  cases request with
  | none => simp [Withdrawal.ensureReleased]
  | some t =>
    rw [Withdrawal.ensureReleased]
    split
    · next hwaiting => simpa using hwaiting
    · next hover => simpa using hover

namespace Entry

/-- A withdrawal was requested. -/
def Requested (e : Entry) : Prop := ∃ readyAt, e.answer = .ok (.requested readyAt)

/-- Everything was withdrawn. -/
def Withdrew (e : Entry) : Prop := ∃ receipt, e.answer = .ok (.withdrawn receipt)

/-- When the pending withdrawal was requested, as of an entry. -/
def pending (before : Option Instant) (e : Entry) : Option Instant :=
  match e.answer with
  | .ok (.requested _) => some e.now
  | .ok (.withdrawn _) => none
  | _ => before

variable {e : Entry} {before : Option Instant}

theorem pending_of_requested (h : e.Requested) : e.pending before = some e.now := by
  obtain ⟨readyAt, hanswer⟩ := h
  rw [pending, hanswer]

theorem pending_of_withdrew (h : e.Withdrew) : e.pending before = none := by
  obtain ⟨receipt, hanswer⟩ := h
  rw [pending, hanswer]

theorem pending_of_neither (hrequested : ¬ e.Requested) (hwithdrew : ¬ e.Withdrew) :
    e.pending before = before := by
  unfold pending
  split
  · next hanswer => exact absurd ⟨_, hanswer⟩ hrequested
  · next hanswer => exact absurd ⟨_, hanswer⟩ hwithdrew
  · rfl

/-- What is pending after entries, where nothing was at first, is the last request among them;
nothing was withdrawn since. -/
theorem exists_requested_of_foldl_pending {entries : List Entry} {n : Nat} {t : Instant}
    (h : (entries.take n).foldl pending none = some t) :
    ∃ i q, i < n ∧ entries[i]? = some q ∧ q.Requested ∧ q.now = t ∧
      ∀ k e, i < k → k < n → entries[k]? = some e → ¬ e.Requested ∧ ¬ e.Withdrew := by
  induction n with
  | zero => cases h
  | succ n ih =>
    rw [List.take_add_one, List.foldl_append] at h
    -- The last of the entries is the request, or has nothing to do with withdrawals.
    by_cases hlast : ∃ q, entries[n]? = some q ∧ q.Requested
    · obtain ⟨q, hq, hrequested⟩ := hlast
      rw [hq] at h
      obtain rfl : q.now = t := Option.some.inj ((pending_of_requested hrequested).symm.trans h)
      exact ⟨n, q, Nat.lt_succ_self n, hq, hrequested, rfl, fun k _ hk hk' => by omega⟩
    · have hidle : ∀ e, entries[n]? = some e → ¬ e.Requested ∧ ¬ e.Withdrew := by
        intro e he
        refine ⟨fun hrequested => hlast ⟨e, he, hrequested⟩, fun hwithdrew => ?_⟩
        rw [he] at h
        cases (pending_of_withdrew hwithdrew).symm.trans h
      have hbefore : (entries.take n).foldl pending none = some t := by
        cases he : entries[n]? with
        | none => rwa [he] at h
        | some e =>
          rw [he] at h
          obtain ⟨hrequested, hwithdrew⟩ := hidle e he
          exact (pending_of_neither hrequested hwithdrew).symm.trans h
      obtain ⟨i, q, hi, hq, hrequested, hnow, hbetween⟩ := ih hbefore
      refine ⟨i, q, Nat.lt_succ_of_lt hi, hq, hrequested, hnow, fun k e hik hk he => ?_⟩
      rcases Nat.lt_succ_iff_lt_or_eq.mp hk with hk | rfl
      · exact hbetween k e hik hk he
      · exact hidle e he

end Entry

namespace Ledger

variable {σ : Type} {x : Executor σ} {l l' : Ledger} {now : Instant} {world world' : σ}
  {request : Request} {answer : Except Error Grant}

/-! ### One request -/

/-- What is pending after an answer is told by the answer. -/
theorem Outcome.withdrawRequestedAt_eq (h : Outcome x l now world request answer l' world') :
    l'.state.withdrawRequestedAt =
      (⟨now, request, answer⟩ : Entry).pending l.state.withdrawRequestedAt := by
  cases h with
  | executed _ _ _ judged _ =>
    obtain ⟨stamp, sol, token, -, -, -, rfl⟩ := Policy.spend_eq_ok_iff.mp judged
    rfl
  | reclaimed _ judged _ =>
    obtain ⟨token, -, rfl⟩ := Policy.reclaim_eq_ok_iff.mp judged
    rfl
  | refused | failed | foreseen | requested | withdrawnNothing | withdrawn => rfl

/-- Only the owner requests a withdrawal. -/
theorem Outcome.request_eq_of_requested {readyAt : Instant}
    (h : Outcome x l now world request (.ok (.requested readyAt)) l' world') :
    request = .requestWithdraw l.profile.owner := by
  cases h with
  | requested => rfl

/-- Only the owner withdraws, and not before the timelock of the pending request is over. -/
theorem Outcome.released_of_withdrawn {receipt : WithdrawalReceipt}
    (h : Outcome x l now world request (.ok (.withdrawn receipt)) l' world') :
    (∃ recipient, request = .executeWithdraw l.profile.owner recipient) ∧
      ∃ t, l.state.withdrawRequestedAt = some t ∧ Withdrawal.readyAt t ≤ now := by
  have hreleased {recipient : Key}
      (released : Withdrawal.ensureReleased l.state.withdrawRequestedAt now = .ok ()) :
      (∃ other, Request.executeWithdraw l.profile.owner recipient =
          .executeWithdraw l.profile.owner other) ∧
        ∃ t, l.state.withdrawRequestedAt = some t ∧ Withdrawal.readyAt t ≤ now :=
    ⟨⟨recipient, rfl⟩, Withdrawal.ensureReleased_eq_ok_iff.mp released⟩
  cases h with
  | withdrawnNothing released => exact hreleased released
  | withdrawn released => exact hreleased released

/-- Neither an error nor anything but a withdrawal or its request concerns what is pending. -/
theorem Outcome.withdrawRequestedAt_eq_of_role (h : Outcome x l now world request answer l' world')
    (hother : answer.isOk = false ∨ request.role ≠ .owner) :
    l'.state.withdrawRequestedAt = l.state.withdrawRequestedAt := by
  rw [h.withdrawRequestedAt_eq]
  refine Entry.pending_of_neither ?_ ?_
  · rintro ⟨readyAt, rfl⟩
    obtain rfl := h.request_eq_of_requested
    rcases hother with hfailed | hrole
    · cases hfailed
    · exact hrole rfl
  · rintro ⟨receipt, rfl⟩
    obtain ⟨⟨recipient, rfl⟩, -⟩ := h.released_of_withdrawn
    rcases hother with hfailed | hrole
    · cases hfailed
    · exact hrole rfl

/-- The owner's request is always granted, and begins the wait at its own instant. -/
theorem requestWithdraw_owner :
    l.requestWithdraw now l.profile.owner =
      (.ok (Withdrawal.readyAt now),
        { l with state := { l.state with withdrawRequestedAt := some now } }) := by
  have howner : l.authorize l.profile.owner .owner = .ok () := if_pos rfl
  rw [requestWithdraw, howner]

/-! ### Runs -/

variable (l world) (attempts : List (Attempt σ Request))

/-- What is pending after a run is told by its entries. -/
theorem withdrawRequestedAt_run :
    (l.run world attempts).ledger.state.withdrawRequestedAt =
      (l.run world attempts).entries.foldl Entry.pending l.state.withdrawRequestedAt := by
  induction attempts generalizing l world with
  | nil => rfl
  | cons q rest ih =>
    obtain ⟨x, now, request⟩ := q
    have hstep := (l.outcome_perform x now world request).withdrawRequestedAt_eq
    rw [entries_run_cons, List.foldl_cons, ← hstep]
    exact ih _ _

/-- A withdrawal **answers to** an earlier entry: the owner requested it there, the timelock of that
request was over, and nothing was requested or withdrawn in between. -/
structure AnswersTo (owner : Key) (entries : List Entry) (w : Entry) (j i : Nat) : Prop where
  /-- The request comes first. -/
  earlier : i < j
  /-- It is the owner's, who could withdraw from its timelock's end on. -/
  requested : ∃ q, entries[i]? = some q ∧ q.request = .requestWithdraw owner ∧ q.Requested ∧
    Withdrawal.readyAt q.now ≤ w.now
  /-- The withdrawal is the owner's. -/
  owned : ∃ recipient, w.request = .executeWithdraw owner recipient
  /-- Neither has anything else come of a request or a withdrawal between the two. -/
  between : ∀ k e, i < k → k < j → entries[k]? = some e → ¬ e.Requested ∧ ¬ e.Withdrew

variable {l world attempts}

/-- Where nothing was pending at first, every withdrawal of a run answers to a request. -/
theorem exists_answersTo (idle : l.state.withdrawRequestedAt = none) {j : Nat} {w : Entry}
    (hw : (l.run world attempts).entries[j]? = some w) (hwithdrew : w.Withdrew) :
    ∃ i, AnswersTo l.profile.owner (l.run world attempts).entries w j i := by
  obtain ⟨receipt, hanswer⟩ := hwithdrew
  obtain ⟨_, _, _, houtcome⟩ := exists_outcome_of_getElem?_entries hw
  rw [hanswer] at houtcome
  obtain ⟨howned, t, hpending, hready⟩ := houtcome.released_of_withdrawn
  rw [(l.sameAccount_run world _).profile] at howned
  -- What was pending then was requested by one of the entries before, as none was at first.
  rw [withdrawRequestedAt_run, idle, entries_run_take] at hpending
  obtain ⟨i, q, hi, hq, hrequested, rfl, hbetween⟩ :=
    Entry.exists_requested_of_foldl_pending hpending
  obtain ⟨readyAt, hgranted⟩ := hrequested
  obtain ⟨_, _, _, hrequest⟩ := exists_outcome_of_getElem?_entries hq
  rw [hgranted] at hrequest
  have hasked := hrequest.request_eq_of_requested
  rw [(l.sameAccount_run world _).profile] at hasked
  exact ⟨i, hi, ⟨q, hq, hasked, ⟨readyAt, hgranted⟩, hready⟩, howned, hbetween⟩

/-- Of two withdrawals, the later one does not answer to the same request as the earlier. -/
theorem AnswersTo.le {owner : Key} {entries : List Entry} {w w' : Entry} {i j j' : Nat}
    (h' : AnswersTo owner entries w' j' i) (h : AnswersTo owner entries w j i)
    (hw : entries[j]? = some w) (hwithdrew : w.Withdrew) : j' ≤ j := by
  by_contra hlater
  exact (h'.between j w h.earlier (Nat.not_le.mp hlater) hw).2 hwithdrew

/-- So the withdrawals of a run can be told their requests, each its own. -/
theorem exists_injOn_answersTo (idle : l.state.withdrawRequestedAt = none) :
    ∃ requestOf : Nat → Nat,
      (∀ j w, (l.run world attempts).entries[j]? = some w → w.Withdrew →
        AnswersTo l.profile.owner (l.run world attempts).entries w j (requestOf j)) ∧
      Set.InjOn requestOf
        {j | ∃ w, (l.run world attempts).entries[j]? = some w ∧ w.Withdrew} := by
  have hanswers (j : Nat) : ∃ i, ∀ w, (l.run world attempts).entries[j]? = some w → w.Withdrew →
      AnswersTo l.profile.owner (l.run world attempts).entries w j i := by
    by_cases hj : ∃ w, (l.run world attempts).entries[j]? = some w ∧ w.Withdrew
    · obtain ⟨w, hw, hwithdrew⟩ := hj
      obtain ⟨i, hi⟩ := exists_answersTo idle hw hwithdrew
      refine ⟨i, fun w' hw' _ => ?_⟩
      obtain rfl : w = w' := Option.some.inj (hw.symm.trans hw')
      exact hi
    · exact ⟨0, fun w hw hwithdrew => absurd ⟨w, hw, hwithdrew⟩ hj⟩
  choose requestOf hrequestOf using hanswers
  refine ⟨requestOf, hrequestOf, ?_⟩
  rintro j ⟨w, hw, hwithdrew⟩ j' ⟨w', hw', hwithdrew'⟩ hsame
  have h := hrequestOf j w hw hwithdrew
  have h' := hrequestOf j' w' hw' hwithdrew'
  -- If they answered to the same request, neither could be later than the other.
  rw [← hsame] at h'
  exact Nat.le_antisymm (h.le h' hw' hwithdrew') (h'.le h hw hwithdrew)

/-- **Every withdrawal waits for a request of its own.** The account begins with no withdrawal
pending; requests are answered one after the other, on whatever clock, and each on an executor of
its own.

* Every withdrawal of the run answers to a request of the owner's before it, and no two withdrawals
  to the same.
* Whenever the owner requests a withdrawal, the wait begins at the instant of that request, whether
  or not another one was pending.
* Nothing that fails, such as a withdrawal before its time, and nothing that is asked for in another
  role than the owner's touches what is pending. -/
theorem withdrawals_answer_to_requests (l : Ledger) (world : σ)
    (idle : l.state.withdrawRequestedAt = none) (attempts : List (Attempt σ Request)) :
    let before := l.run world attempts
    (∃ requestOf : Nat → Nat,
      (∀ j w, before.entries[j]? = some w → w.Withdrew →
        AnswersTo l.profile.owner before.entries w j (requestOf j)) ∧
      Set.InjOn requestOf {j | ∃ w, before.entries[j]? = some w ∧ w.Withdrew}) ∧
    ∀ x now request,
      let after := before.ledger.perform x now before.world request
      (request = .requestWithdraw l.profile.owner →
        after.1 = .ok (.requested (Withdrawal.readyAt now)) ∧
        after.2.1.state = { before.ledger.state with withdrawRequestedAt := some now }) ∧
      (after.1.isOk = false ∨ request.role ≠ .owner →
        after.2.1.state.withdrawRequestedAt = before.ledger.state.withdrawRequestedAt) := by
  intro before
  refine ⟨exists_injOn_answersTo idle, fun x now request => ⟨?_, fun hother => ?_⟩⟩
  · rintro rfl
    have howner : before.ledger.profile.owner = l.profile.owner := by
      rw [(l.sameAccount_run world attempts).profile]
    rw [← howner]
    dsimp only [perform]
    rw [requestWithdraw_owner]
    exact ⟨rfl, rfl⟩
  · exact (before.ledger.outcome_perform x now before.world request).withdrawRequestedAt_eq_of_role
      hother

/-- The owner asks twice, spending goes on, and a withdrawal two days after the first request is
refused. Two days after the second one it fails because no balance can be told, and is granted when
it is tried again. Then the clock is set back, and the owner has to ask and to wait again. -/
def patientRequests : List (Attempt Unit Request) :=
  Executor.obliging.serving
      [(0, .requestWithdraw (.repeating 1)), (100, .requestWithdraw (.repeating 1)),
        (200, .execute (.repeating 2) (.native (.repeating 6) 3)),
        (172800, .executeWithdraw (.repeating 1) (.repeating 6))] ++
    Executor.blind.serving [(172900, .executeWithdraw (.repeating 1) (.repeating 6))] ++
    Executor.obliging.serving
      [(172900, .executeWithdraw (.repeating 1) (.repeating 6)),
        (172901, .executeWithdraw (.repeating 1) (.repeating 6)),
        (50, .requestWithdraw (.repeating 1)), (60, .reclaimGas (.repeating 3) 3 50000),
        (172850, .executeWithdraw (.repeating 1) (.repeating 6))]

/-- The two withdrawals answer to different requests, and the timelock of each was over. -/
theorem patientRequests_answered :
    let entries := ((small 0).run () patientRequests).entries
    entries.map (·.answer.isOk) =
        [true, true, true, false, false, true, false, true, true, true] ∧
      (∃ i j w w', i ≠ j ∧ AnswersTo (.repeating 1) entries w 5 i ∧
        AnswersTo (.repeating 1) entries w' 9 j ∧ w.now = 172900 ∧ w'.now = 172850) := by
  obtain ⟨⟨requestOf, hanswers, hinj⟩, -⟩ :=
    withdrawals_answer_to_requests (small 0) () rfl patientRequests
  refine ⟨by decide, requestOf 5, requestOf 9, _, _, fun hsame => ?_, hanswers 5 _ rfl ⟨_, rfl⟩,
    hanswers 9 _ rfl ⟨_, rfl⟩, rfl, rfl⟩
  exact absurd (hinj ⟨_, rfl, _, rfl⟩ ⟨_, rfl, _, rfl⟩ hsame) (by decide)

end Ledger

end SpendGuard
