import SpendGuard.Proofs.Classification
import SpendGuard.Proofs.Spend

/-!
# What a batch moves

A batch is classified call by call against a running total. It passes exactly when it is not empty,
every call passes by itself, and what they move adds up to something that fits
(`Batch.classify_eq_ok_iff_totalOf`): nothing here depends on the order of the calls, so a batch may
be reordered, or cut in two (`Batch.classify_append_eq_ok_iff`). What does depend on the order is
the error. Classification ends at the first place where the call is objected to or the running total
no longer fits, and tells which it was (`Batch.classify_eq_error_iff`).
-/

namespace SpendGuard

namespace Batch

variable {tokenProgram : Key} {call : Call} {calls front rest back reordered part : List Call}
  {start index : Nat} {total running : Spend} {e : Error}

/-! ### What the calls move -/

/-- What the calls of a batch move, one by one. A call that does not pass moves nothing. -/
def spends (tokenProgram : Key) (calls : List Call) : List Spend :=
  calls.filterMap fun call => (call.classify tokenProgram).toOption

theorem spends_cons_of_ok {spend : Spend} (h : call.classify tokenProgram = .ok spend) :
    spends tokenProgram (call :: rest) = spend :: spends tokenProgram rest :=
  List.filterMap_cons_some (by rw [h]; rfl)

theorem spends_append :
    spends tokenProgram (front ++ back) = spends tokenProgram front ++ spends tokenProgram back :=
  List.filterMap_append

theorem spends_perm (h : calls.Perm reordered) :
    (spends tokenProgram calls).Perm (spends tokenProgram reordered) := h.filterMap _

theorem spends_subperm (h : part.Subperm calls) :
    (spends tokenProgram part).Subperm (spends tokenProgram calls) := by
  obtain ⟨chosen, hperm, hsublist⟩ := h
  exact ⟨spends tokenProgram chosen, spends_perm hperm, hsublist.filterMap _⟩

/-! ### Passing -/

/-- A running total goes on when the first call passes and its spend can be added. -/
theorem classifyFrom_cons_eq_ok_iff :
    classifyFrom tokenProgram index running (call :: rest) = .ok total ↔
      ∃ spend, call.classify tokenProgram = .ok spend ∧ ∃ next, running.add? spend = some next ∧
        classifyFrom tokenProgram (index + 1) next rest = .ok total := by
  rw [classifyFrom]
  cases call.classify tokenProgram with
  | error e => simp
  | ok spend =>
    simp only [Except.ok.injEq, exists_eq_left']
    cases running.add? spend <;> simp

/-- Calls take a running total to the end exactly when all of them pass and their spends can be
added to it. -/
theorem classifyFrom_eq_ok_iff_foldlM :
    classifyFrom tokenProgram index running calls = .ok total ↔
      (∀ call ∈ calls, (call.classify tokenProgram).isOk = true) ∧
        (spends tokenProgram calls).foldlM Spend.add? running = some total := by
  induction calls generalizing index running with
  | nil => simp [classifyFrom, spends]
  | cons call rest ih =>
    rw [classifyFrom_cons_eq_ok_iff, List.forall_mem_cons]
    cases hcall : call.classify tokenProgram with
    | error e => simp
    | ok spend =>
      simp only [ih, spends_cons_of_ok hcall, List.foldlM_cons, Option.bind_eq_bind,
        Option.bind_eq_some_iff, Except.ok.injEq, exists_eq_left', isOk_ok, true_and]
      constructor
      · rintro ⟨next, hnext, hpass, hsum⟩
        exact ⟨hpass, next, hnext, hsum⟩
      · rintro ⟨hpass, next, hnext, hsum⟩
        exact ⟨next, hnext, hpass, hsum⟩

theorem classifyFrom_eq_ok_iff :
    classifyFrom tokenProgram index running calls = .ok total ↔
      (∀ call ∈ calls, (call.classify tokenProgram).isOk = true) ∧
        ∀ asset, (total.of asset).toNat =
          (running.of asset).toNat + Spend.totalOf asset (spends tokenProgram calls) := by
  rw [classifyFrom_eq_ok_iff_foldlM, Spend.foldlM_add?_eq_some_iff]

/-- **A batch moves the exact sum** of what its calls move, when it is not empty, every call passes
and the sum fits. -/
theorem classify_eq_ok_iff_totalOf :
    classify tokenProgram calls = .ok total ↔
      calls ≠ [] ∧ (∀ call ∈ calls, (call.classify tokenProgram).isOk = true) ∧
        ∀ asset, (total.of asset).toNat = Spend.totalOf asset (spends tokenProgram calls) := by
  simp only [classify_eq_ok_iff, classifyFrom_eq_ok_iff, Spend.toNat_of_zero, Nat.zero_add]

theorem isOk_classify_iff :
    (classify tokenProgram calls).isOk = true ↔
      calls ≠ [] ∧ (∀ call ∈ calls, (call.classify tokenProgram).isOk = true) ∧
        ∀ asset, Spend.totalOf asset (spends tokenProgram calls) < UInt64.size := by
  rw [isOk_iff_exists]
  simp only [classify_eq_ok_iff_totalOf]
  constructor
  · rintro ⟨total, hne, hpass, htotal⟩
    exact ⟨hne, hpass, fun asset => htotal asset ▸ Amount.toNat_lt _⟩
  · rintro ⟨hne, hpass, hfits⟩
    obtain ⟨total, htotal⟩ := Spend.exists_of_eq hfits
    exact ⟨total, hne, hpass, htotal⟩

/-- The order of the calls does not matter to whether a batch passes, nor to what it moves. -/
theorem classify_eq_ok_iff_of_perm (h : calls.Perm reordered) :
    classify tokenProgram calls = .ok total ↔ classify tokenProgram reordered = .ok total := by
  have hempty : calls ≠ [] ↔ reordered ≠ [] := not_congr ⟨fun hnil => (hnil ▸ h).nil_eq.symm,
    fun hnil => (hnil ▸ h).eq_nil⟩
  simp only [classify_eq_ok_iff_totalOf, hempty, h.mem_iff, Spend.totalOf_perm (spends_perm h)]

/-- A batch may be cut in two: it passes when both parts do and what they move can be added. -/
theorem classify_append_eq_ok_iff (hfront : front ≠ []) (hback : back ≠ []) :
    classify tokenProgram (front ++ back) = .ok total ↔
      ∃ s t, classify tokenProgram front = .ok s ∧ classify tokenProgram back = .ok t ∧
        s.add? t = some total := by
  simp only [classify_eq_ok_iff_totalOf, Spend.add?_eq_some_iff_of, spends_append,
    Spend.totalOf_append, List.forall_mem_append]
  constructor
  · rintro ⟨-, ⟨hpassFront, hpassBack⟩, htotal⟩
    -- Neither part moves more than both together, so both fit.
    have hfits (asset : Asset) :
        Spend.totalOf asset (spends tokenProgram front) < UInt64.size ∧
          Spend.totalOf asset (spends tokenProgram back) < UInt64.size := by
      have hbound := Amount.toNat_lt (total.of asset)
      have htotal := htotal asset
      omega
    obtain ⟨s, hs⟩ := Spend.exists_of_eq fun asset => (hfits asset).1
    obtain ⟨t, ht⟩ := Spend.exists_of_eq fun asset => (hfits asset).2
    refine ⟨s, t, ⟨hfront, hpassFront, hs⟩, ⟨hback, hpassBack, ht⟩, fun asset => ?_⟩
    rw [htotal, hs, ht]
  · rintro ⟨s, t, ⟨-, hpassFront, hs⟩, ⟨-, hpassBack, ht⟩, hsum⟩
    refine ⟨List.append_ne_nil_of_left_ne_nil hfront _, ⟨hpassFront, hpassBack⟩, fun asset => ?_⟩
    rw [hsum, hs, ht]

/-- Some of the calls of a batch that passes pass by themselves, and move no more than all. -/
theorem classify_of_subperm (h : classify tokenProgram calls = .ok total) (hne : part ≠ [])
    (hpart : part.Subperm calls) :
    ∃ s, classify tokenProgram part = .ok s ∧
      ∀ asset, (s.of asset).toNat ≤ (total.of asset).toNat := by
  obtain ⟨-, hpass, htotal⟩ := classify_eq_ok_iff_totalOf.mp h
  have hle (asset : Asset) :
      Spend.totalOf asset (spends tokenProgram part) ≤ (total.of asset).toNat := by
    rw [htotal]
    exact Spend.totalOf_le_of_subperm (spends_subperm hpart) asset
  obtain ⟨s, hs⟩ := Spend.exists_of_eq fun asset =>
    Nat.lt_of_le_of_lt (hle asset) (Amount.toNat_lt _)
  refine ⟨s, classify_eq_ok_iff_totalOf.mpr
    ⟨hne, fun call hcall => hpass call (hpart.subset hcall), hs⟩, fun asset => ?_⟩
  rw [hs]
  exact hle asset

/-! ### Ending in an error -/

/-- What keeps a batch from being counted past one of its calls. -/
inductive Obstacle (tokenProgram : Key) (calls : List Call) (index : Nat) : Error → Prop
  /-- The call is objected to. -/
  | objection {call : Call} {reason : Objection} (named : calls[index]? = some call)
      (rejected : call.classify tokenProgram = .error (.disallowedCall reason)) :
      Obstacle tokenProgram calls index (.disallowedCall (.inCall index reason))
  /-- The call passes, but what the calls up to it move does not fit in some asset. -/
  | overflow {call : Call} {spend : Spend} (asset : Asset) (named : calls[index]? = some call)
      (passes : call.classify tokenProgram = .ok spend)
      (exceeds : UInt64.size ≤ Spend.totalOf asset (spends tokenProgram (calls.take (index + 1)))) :
      Obstacle tokenProgram calls index .overflow

/-- The first place where a batch cannot be counted on, and the error that says why. -/
def FirstObstacle (tokenProgram : Key) (calls : List Call) (index : Nat) (e : Error) : Prop :=
  Obstacle tokenProgram calls index e ∧ ∀ i < index, ∀ e', ¬ Obstacle tokenProgram calls i e'

/-- At one place there is one obstacle at most. -/
theorem Obstacle.unique {e' : Error} (h : Obstacle tokenProgram calls index e)
    (h' : Obstacle tokenProgram calls index e') : e = e' := by
  cases h with
  | objection named rejected =>
    cases h' with
    | objection named' rejected' =>
      obtain rfl := Option.some.inj (named.symm.trans named')
      cases rejected.symm.trans rejected'
      rfl
    | overflow _ named' passes' =>
      obtain rfl := Option.some.inj (named.symm.trans named')
      cases rejected.symm.trans passes'
  | overflow _ named passes =>
    cases h' with
    | objection named' rejected' =>
      obtain rfl := Option.some.inj (named.symm.trans named')
      cases passes.symm.trans rejected'
    | overflow => rfl

/-- There is none among calls that all pass and whose sum fits, whatever follows them. -/
theorem not_obstacle (hpass : ∀ call ∈ front, (call.classify tokenProgram).isOk = true)
    (hfits : ∀ asset, Spend.totalOf asset (spends tokenProgram front) < UInt64.size)
    (hindex : index < front.length) : ¬ Obstacle tokenProgram (front ++ back) index e := by
  have hmem {call : Call} (named : (front ++ back)[index]? = some call) : call ∈ front := by
    rw [List.getElem?_append_left hindex] at named
    exact List.mem_of_getElem? named
  rintro (⟨named, rejected⟩ | ⟨asset, named, -, exceeds⟩)
  · have hcall := hpass _ (hmem named)
    rw [rejected] at hcall
    cases hcall
  · -- What is moved up to a place is no more than what is moved in the end.
    have htake : (front ++ back).take (index + 1) = front.take (index + 1) :=
      List.take_append_of_le_length hindex
    rw [htake] at exceeds
    have hbound := hfits asset
    rw [← List.take_append_drop (index + 1) front, spends_append, Spend.totalOf_append] at hbound
    omega

/-- A running total that ends in an error was taken on by the calls before some call, and does not
go on with this one. -/
theorem exists_of_classifyFrom_eq_error
    (h : classifyFrom tokenProgram start running calls = .error e) :
    ∃ front call rest mid, calls = front ++ call :: rest ∧
      classifyFrom tokenProgram start running front = .ok mid ∧
      ((∃ e', call.classify tokenProgram = .error e' ∧ e = locate (start + front.length) e') ∨
        ∃ spend, call.classify tokenProgram = .ok spend ∧ mid.add? spend = none ∧
          e = .overflow) := by
  induction calls generalizing start running with
  | nil => cases h
  | cons call rest ih =>
    rw [classifyFrom] at h
    cases hcall : call.classify tokenProgram with
    | error e' =>
      rw [hcall] at h
      cases h
      exact ⟨[], call, rest, running, rfl, rfl, .inl ⟨e', hcall, rfl⟩⟩
    | ok spend =>
      rw [hcall] at h
      dsimp only at h
      cases hsum : running.add? spend with
      | none =>
        rw [hsum] at h
        cases h
        exact ⟨[], call, rest, running, rfl, rfl, .inr ⟨spend, hcall, hsum, rfl⟩⟩
      | some next =>
        rw [hsum] at h
        obtain ⟨front, failed, back, mid, rfl, hfront, hends⟩ := ih h
        refine ⟨call :: front, failed, back, mid, rfl,
          classifyFrom_cons_eq_ok_iff.mpr ⟨spend, hcall, next, hsum, hfront⟩, ?_⟩
        rw [List.length_cons, Nat.add_comm front.length, ← Nat.add_assoc]
        exact hends

theorem firstObstacle_of_classifyFrom (h : classifyFrom tokenProgram 0 .zero calls = .error e) :
    ∃ index, FirstObstacle tokenProgram calls index e := by
  obtain ⟨front, call, rest, mid, rfl, hfront, hends⟩ := exists_of_classifyFrom_eq_error h
  obtain ⟨hpass, hmid⟩ := classifyFrom_eq_ok_iff.mp hfront
  simp only [Spend.toNat_of_zero, Nat.zero_add] at hmid
  have hnamed : (front ++ call :: rest)[front.length]? = some call := by simp
  refine ⟨front.length, ?_, fun i hi e' => not_obstacle hpass (fun asset => ?_) hi⟩
  · rcases hends with ⟨e', hcall, rfl⟩ | ⟨spend, hcall, hsum, rfl⟩
    · obtain ⟨reason, rfl⟩ := Call.disallowed_of_classify hcall
      rw [Nat.zero_add]
      exact .objection hnamed hcall
    · obtain ⟨asset, hlarge⟩ := Spend.add?_eq_none_iff.mp hsum
      refine .overflow asset hnamed hcall ?_
      have htake : (front ++ call :: rest).take (front.length + 1) = front ++ [call] := by
        simp [List.take_append]
      rw [htake, spends_append, spends_cons_of_ok hcall, Spend.totalOf_append, ← hmid,
        Spend.totalOf_cons]
      omega
  · rw [← hmid]
    exact Amount.toNat_lt _

/-- **A batch ends in an error** that is told at its first obstacle. -/
theorem classify_eq_error_iff (hne : calls ≠ []) :
    classify tokenProgram calls = .error e ↔ ∃ index, FirstObstacle tokenProgram calls index e := by
  have hfirst {e : Error} (h : classify tokenProgram calls = .error e) :
      ∃ index, FirstObstacle tokenProgram calls index e := by
    have hnonempty : ¬ calls.isEmpty = true := by simpa using hne
    rw [classify, if_neg hnonempty] at h
    exact firstObstacle_of_classifyFrom h
  refine ⟨hfirst, ?_⟩
  rintro ⟨index, hobstacle, hnone⟩
  cases hclass : classify tokenProgram calls with
  | error e' =>
    -- Both errors are told at the first place, which is one.
    obtain ⟨index', hobstacle', hnone'⟩ := hfirst hclass
    obtain rfl : index' = index := by
      rcases Nat.lt_trichotomy index' index with hlt | heq | hgt
      · exact absurd hobstacle' (hnone index' hlt e')
      · exact heq
      · exact absurd hobstacle (hnone' index hgt e)
    rw [hobstacle.unique hobstacle']
  | ok total =>
    obtain ⟨-, hpass, hfits⟩ := isOk_classify_iff.mp (isOk_iff_exists.mpr ⟨total, hclass⟩)
    have hindex : index < calls.length := by
      cases hobstacle with
      | objection named | overflow _ named => exact (List.getElem?_eq_some_iff.mp named).1
    have hclear : ¬ Obstacle tokenProgram (calls ++ []) index e :=
      not_obstacle hpass hfits hindex
    rw [List.append_nil] at hclear
    exact absurd hobstacle hclear

/-! ### Together -/

/-- An objection inside a batch is told with the call's index in front. -/
theorem message_inCall (index : Nat) (reason : Objection) :
    (Error.disallowedCall (.inCall index reason)).message =
      s!"Disallowed call: call {index}: {reason.message}" := rfl

/-- **The classification of a batch is an exact sum in any order.** For every token program:

* A batch passes exactly when it is not empty, every call passes by itself, and what the calls move,
  added up without a bound, fits in both assets. Then it moves just that.
* In any other order it passes when it did, and moves the same.
* Of two batches that are not empty, one after the other, both together pass exactly when each does
  and what they move can be added, and then they move the sum.
* Otherwise a batch that is not empty ends in the error of its first obstacle: an objection to a
  call, told with the call's index in front, or an overflow where the running total no longer
  fits. -/
theorem exact_sum_in_any_order (tokenProgram : Key) :
    (∀ calls, (classify tokenProgram calls).isOk = true ↔
      calls ≠ [] ∧ (∀ call ∈ calls, (call.classify tokenProgram).isOk = true) ∧
        ∀ asset, Spend.totalOf asset (spends tokenProgram calls) < UInt64.size) ∧
    (∀ calls total, classify tokenProgram calls = .ok total → ∀ asset,
      (total.of asset).toNat = Spend.totalOf asset (spends tokenProgram calls)) ∧
    (∀ calls reordered, calls.Perm reordered → ∀ total,
      classify tokenProgram calls = .ok total ↔ classify tokenProgram reordered = .ok total) ∧
    (∀ front back, front ≠ [] → back ≠ [] → ∀ total,
      classify tokenProgram (front ++ back) = .ok total ↔
        ∃ s t, classify tokenProgram front = .ok s ∧ classify tokenProgram back = .ok t ∧
          s.add? t = some total) ∧
    (∀ calls, calls ≠ [] → ∀ e, classify tokenProgram calls = .error e ↔
      ∃ index, FirstObstacle tokenProgram calls index e) ∧
    ∀ index reason, (Error.disallowedCall (.inCall index reason)).message =
      s!"Disallowed call: call {index}: {reason.message}" := by
  refine ⟨fun _ => isOk_classify_iff, fun calls total hclass => ?_,
    fun _ _ hperm _ => classify_eq_ok_iff_of_perm hperm,
    fun _ _ hfront hback _ => classify_append_eq_ok_iff hfront hback,
    fun _ hne _ => classify_eq_error_iff hne, message_inCall⟩
  exact (classify_eq_ok_iff_totalOf.mp hclass).2.2

/-- Seven lamports to a wallet, and five units from one token account to another. -/
def mixed : List Call :=
  [.native .zero 7,
    ⟨Token.standardProgram, 0, Token.Instruction.transferData 5, [.zero, .zero, .zero]⟩]

/-- More lamports than fit, and then a call that moves nothing. -/
def overfull : List Call :=
  [.native .zero 18446744073709551615, .native .zero 1, .native .zero 0]

/-- Both calls pass in either order and one by one. Where there is too much as well as a call that
is objected to, the order decides which of them is told. -/
theorem mixed_and_overfull :
    (classify Token.standardProgram mixed = .ok ⟨7, 5⟩ ∧
      classify Token.standardProgram mixed.reverse = .ok ⟨7, 5⟩ ∧
      ∃ s t, classify Token.standardProgram (mixed.take 1) = .ok s ∧
        classify Token.standardProgram (mixed.drop 1) = .ok t ∧ s.add? t = some ⟨7, 5⟩) ∧
    (∃ index, FirstObstacle Token.standardProgram overfull index .overflow) ∧
    ∃ index, FirstObstacle Token.standardProgram overfull.reverse index
      (.disallowedCall (.inCall 0 (.movesNothing .zero))) := by
  obtain ⟨-, -, hperm, happend, herror, -⟩ := exact_sum_in_any_order Token.standardProgram
  have hmixed : classify Token.standardProgram mixed = .ok ⟨7, 5⟩ := by decide
  have hcut : mixed = mixed.take 1 ++ mixed.drop 1 := rfl
  refine ⟨⟨hmixed, (hperm _ _ (List.reverse_perm mixed).symm _).mp hmixed, ?_⟩, ?_, ?_⟩
  · exact (happend _ _ (by decide) (by decide) _).mp (hcut ▸ hmixed)
  · exact (herror _ (by decide) _).mp (by decide)
  · exact (herror _ (by decide) _).mp (by decide)

end Batch

end SpendGuard
