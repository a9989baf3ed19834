import SpendGuard.Proofs.Chain.Transfer
import SpendGuard.Proofs.Configuration
import SpendGuard.Proofs.Ledger.Timelock

/-!
# When the emergency exit is open

A withdrawal sends both balances in one go, so it takes both transfers to go through. On an
in-memory chain where nothing is in their way (`Ledger.ExitReady`) the chain carries out whatever
calls are planned (`Ledger.ExitReady.isOk_applyFrom`), and it all comes down to planning them. The
transfer of units is only built for the standard token program, while any program may be configured.
So an account that is configured with another one is locked in, with its lamports too, as soon as it
holds a single unit.
-/

namespace SpendGuard

namespace Call

/-- What is told where the transfer of units cannot be built. -/
def unbuildable : Error :=
  .encoding "Failed to build transfer: The account did not have the expected program id"

variable {program source destination authority : Key} {amount : Amount}

theorem isOk_tokenTransfer_iff :
    (tokenTransfer program source destination authority amount).isOk = true ↔
      program = Token.standardProgram := by
  unfold tokenTransfer
  split
  · next hprogram => exact iff_of_true rfl hprogram
  · next hprogram => exact iff_of_false nofun hprogram

theorem tokenTransfer_of_ne (h : program ≠ Token.standardProgram) :
    tokenTransfer program source destination authority amount = .error unbuildable := if_neg h

end Call

namespace Ledger

variable {l : Ledger} {now : Instant} {recipient : Key} {chain : Chain} {sol token : Amount}
  {calls : List Call}

/-! ### Planning -/

theorem sweepCalls_zero :
    l.sweepCalls recipient sol 0 = .ok (if 0 < sol then [.native recipient sol] else []) := by
  rw [sweepCalls, if_neg UInt64.not_lt_zero]
  rfl

theorem sweepCalls_of_ne_zero (h : token ≠ 0) :
    l.sweepCalls recipient sol token =
      (Call.tokenTransfer l.profile.tokenProgram l.tokenAccount
        (l.profile.tokenAccountOf recipient) l.address token).map fun transfer =>
          (if 0 < sol then [.native recipient sol] else []) ++ [transfer] := by
  rw [sweepCalls, if_pos (UInt64.pos_iff_ne_zero.mpr h)]
  rfl

/-- A sweep can be planned when there are no units to send, or when their transfer can be built. -/
theorem isOk_sweepCalls_iff :
    (l.sweepCalls recipient sol token).isOk = true ↔
      token = 0 ∨ l.profile.tokenProgram = Token.standardProgram := by
  by_cases hunits : token = 0
  · rw [hunits, sweepCalls_zero]
    exact iff_of_true rfl (.inl rfl)
  · rw [sweepCalls_of_ne_zero hunits, isOk_map, Call.isOk_tokenTransfer_iff, or_iff_right hunits]

/-- Where there are units to send and their transfer cannot be built, the lamports stay, too. -/
theorem executeWithdraw_of_unbuildable
    (released : Withdrawal.ensureReleased l.state.withdrawRequestedAt now = .ok ())
    (hunits : chain.tokensIn l.tokenAccount ≠ 0)
    (hprogram : l.profile.tokenProgram ≠ Token.standardProgram) :
    l.executeWithdraw Chain.executor now l.profile.owner recipient chain =
      (.error Call.unbuildable, l, chain) := by
  have howner : l.authorize l.profile.owner .owner = .ok () := if_pos rfl
  have hplan : l.withdrawalPlan Chain.executor now l.profile.owner recipient chain =
      .error Call.unbuildable := by
    rw [withdrawalPlan, howner, released]
    -- An in-memory chain always tells both balances, so planning comes down to the sweep.
    change (l.sweepCalls recipient (chain.lamportsOf l.address)
      (chain.tokensIn l.tokenAccount)).bind _ = _
    rw [sweepCalls_of_ne_zero hunits, Call.tokenTransfer_of_ne hprogram]
    rfl
  rw [executeWithdraw_eq, hplan]

/-! ### Carrying out -/

/-- Nothing stands in the way of a withdrawal to a recipient: the chain runs the account's token
program and turns no calls back, the account's token account is its own, if there is one, the
timelock of the pending request is over, and the recipient, who is not the token program, has room
for both balances. An account that withdraws to itself always has. -/
structure ExitReady (l : Ledger) (now : Instant) (recipient : Key) (chain : Chain) : Prop where
  /-- The chain runs the account's token program. -/
  program : chain.tokenProgram = l.profile.tokenProgram
  /-- No calls are turned back. -/
  running : chain.failing = []
  /-- The token account is the account's, if there is one. -/
  owned : ∀ owner, chain.ownerOf? l.tokenAccount = some owner → owner = l.address
  /-- The timelock of the pending request is over. -/
  released : ∃ t, l.state.withdrawRequestedAt = some t ∧ Withdrawal.readyAt t ≤ now
  /-- The recipient is not the token program, which would not take lamports. -/
  recipient_ne : recipient ≠ l.profile.tokenProgram
  /-- The recipient has room for the lamports. -/
  lamportsFit : recipient = l.address ∨
    (chain.lamportsOf recipient).toNat + (chain.lamportsOf l.address).toNat < UInt64.size
  /-- The recipient's token account has room for the units. -/
  unitsFit : l.profile.tokenAccountOf recipient = l.tokenAccount ∨
    (chain.tokensIn (l.profile.tokenAccountOf recipient)).toNat +
      (chain.tokensIn l.tokenAccount).toNat < UInt64.size

namespace ExitReady

variable (ready : l.ExitReady now recipient chain)
include ready

/-- The lamports, if there are any, go through in front of calls that concern something else. -/
theorem isOk_applyFrom_lamports {rest : List Call}
    (hrest : ∀ (table : Table Key Amount) (index : Nat),
      (Chain.applyFrom l.address index { chain with lamports := table } rest).isOk = true) :
    (Chain.applyFrom l.address 0 chain ((if 0 < chain.lamportsOf l.address then
      [.native recipient (chain.lamportsOf l.address)] else []) ++ rest)).isOk = true := by
  by_cases hsol : 0 < chain.lamportsOf l.address
  · have hruns : recipient ∉ chain.failing := by
      rw [ready.running]
      exact List.not_mem_nil
    have hrecipient : recipient ≠ chain.tokenProgram := by
      rw [ready.program]
      exact ready.recipient_ne
    obtain ⟨mid, hmid⟩ := isOk_iff_exists.mp
      (Chain.isOk_apply_plain_iff.mpr ⟨hruns, hrecipient, Nat.le_refl _, ready.lamportsFit⟩)
    obtain ⟨table, rfl⟩ := Chain.exists_lamports_of_apply_plain hmid
    rw [if_pos hsol]
    exact Chain.isOk_applyFrom_cons_iff.mpr ⟨_, hmid, hrest table 1⟩
  · rw [if_neg hsol]
    exact hrest chain.lamports 0

/-- The units go through, whatever the lamports are by then. -/
theorem isOk_apply_units {call : Call} (table : Table Key Amount)
    (hunits : chain.tokensIn l.tokenAccount ≠ 0)
    (built : Call.tokenTransfer l.profile.tokenProgram l.tokenAccount
      (l.profile.tokenAccountOf recipient) l.address (chain.tokensIn l.tokenAccount) = .ok call) :
    (({ chain with lamports := table } : Chain).apply l.address call).isOk = true := by
  have hruns : chain.tokenProgram ∉ chain.failing := by
    rw [ready.running]
    exact List.not_mem_nil
  -- Since there are units, there is a token account, and so it is the account's.
  obtain ⟨owner, howner⟩ := Option.ne_none_iff_exists'.mp (mt Chain.tokensIn_eq_zero hunits)
  obtain rfl := ready.owned owner howner
  rw [← ready.program] at built
  have hbuilt : Call.tokenTransfer ({ chain with lamports := table } : Chain).tokenProgram
    l.tokenAccount (l.profile.tokenAccountOf recipient) l.address (chain.tokensIn l.tokenAccount) =
      .ok call := built
  exact (Chain.isOk_apply_transfer_iff hbuilt).mpr
    ⟨hruns, howner, Nat.le_refl _, ready.unitsFit⟩

/-- Whatever sweep is planned is carried out. -/
theorem isOk_applyFrom
    (planned : l.sweepCalls recipient (chain.lamportsOf l.address) (chain.tokensIn l.tokenAccount) =
      .ok calls) :
    (Chain.applyFrom l.address 0 chain calls).isOk = true := by
  by_cases hunits : chain.tokensIn l.tokenAccount = 0
  · rw [hunits, sweepCalls_zero] at planned
    cases planned
    rw [← List.append_nil (ite _ _ _)]
    exact ready.isOk_applyFrom_lamports fun _ _ => rfl
  · rw [sweepCalls_of_ne_zero hunits] at planned
    obtain ⟨call, built, rfl⟩ := map_eq_ok_iff.mp planned
    refine ready.isOk_applyFrom_lamports fun table index => ?_
    obtain ⟨last, hlast⟩ := isOk_iff_exists.mp (ready.isOk_apply_units table hunits built)
    exact Chain.isOk_applyFrom_cons_iff.mpr ⟨last, hlast, rfl⟩

/-- So a withdrawal succeeds exactly when it can be planned. -/
theorem isOk_executeWithdraw_iff :
    (l.executeWithdraw Chain.executor now l.profile.owner recipient chain).1.isOk = true ↔
      chain.tokensIn l.tokenAccount = 0 ∨ l.profile.tokenProgram = Token.standardProgram := by
  have hreleased := Withdrawal.ensureReleased_eq_ok_iff.mpr ready.released
  have hplanning : (l.sweepCalls recipient (chain.lamportsOf l.address)
      (chain.tokensIn l.tokenAccount)).isOk = true ↔
        chain.tokensIn l.tokenAccount = 0 ∨ l.profile.tokenProgram = Token.standardProgram :=
    isOk_sweepCalls_iff
  rw [Ledger.isOk_executeWithdraw_iff, ← hplanning]
  constructor
  · rintro ⟨-, -, _, _, calls, ⟨⟩, ⟨⟩, planned, -⟩
    exact isOk_iff_exists.mpr ⟨calls, planned⟩
  · intro hplanned
    obtain ⟨calls, planned⟩ := isOk_iff_exists.mp hplanned
    refine ⟨rfl, hreleased, _, _, calls, rfl, rfl, planned, .inr ?_⟩
    exact (Chain.isOk_execute calls).trans (ready.isOk_applyFrom planned)

end ExitReady

/-- **The emergency exit is open to standard tokens.** Take any configuration that is accepted, with
keys for the roles that nothing is written for, and the profile that it makes; any account with this
profile, in any state and with any balances; and an in-memory chain where nothing stands in the way
of a withdrawal.

* The owner's withdrawal succeeds exactly when the account holds no units, or the configured token
  program is the standard one.
* Otherwise the transfer of the units cannot be built. The owner is told so, and the account keeps
  everything, the lamports too. -/
theorem exit_open_to_standard_tokens (c : Configuration) (accepted : c.validate = .ok ())
    (keys : Role → Key) :
    ∃ profile, c.profileWith (fun role => .ok (keys role)) = .ok profile ∧
      ∀ address state now recipient chain,
        let l : Ledger := ⟨address, profile, state⟩
        l.ExitReady now recipient chain →
          let after := l.executeWithdraw Chain.executor now profile.owner recipient chain
          (after.1.isOk = true ↔ chain.tokensIn l.tokenAccount = 0 ∨
            Key.ofText c.account.tokenProgram = .ok Token.standardProgram) ∧
          (after.1.isOk = false → after = (.error Call.unbuildable, l, chain)) := by
  obtain ⟨profile, hprofile⟩ :=
    (Configuration.validate_eq_ok_iff.mp accepted).exists_profileWith keys
  obtain ⟨-, -, hprogram, -, -⟩ := Configuration.profileWith_eq_ok_iff.mp hprofile
  refine ⟨profile, hprofile, fun address state now recipient chain => ?_⟩
  intro l ready
  have hopen := ready.isOk_executeWithdraw_iff
  refine ⟨?_, fun hfailed => ?_⟩
  · -- The profile's token program is the one that was written.
    rw [hprogram, Except.ok.injEq]
    exact hopen
  · have hclosed := mt hopen.mpr (Bool.eq_false_iff.mp hfailed)
    obtain ⟨hunits, hother⟩ := not_or.mp hclosed
    exact executeWithdraw_of_unbuildable
      (Withdrawal.ensureReleased_eq_ok_iff.mpr ready.released) hunits hother

/-- An account whose owner asked for a withdrawal at the instant zero. -/
def leaving (profile : Profile) : Ledger :=
  ⟨.repeating 5, profile, { State.fresh 0 with withdrawRequestedAt := some 0 }⟩

/-- A chain on which an account has a hundred lamports and forty units, and nobody else anything. -/
def allAlone (l : Ledger) : Chain where
  tokenProgram := l.profile.tokenProgram
  lamports := [(l.address, 100)]
  tokenAccounts := [(l.tokenAccount, ⟨l.address, 40⟩)]
  failing := []
  transactions := []

/-- Two days later nothing stands in the way, whatever the token program. -/
theorem exitReady_leaving {profile : Profile} (h : .repeating 6 ≠ profile.tokenProgram) :
    (leaving profile).ExitReady 172800 (.repeating 6) (allAlone (leaving profile)) where
  program := rfl
  running := rfl
  owned owner howner := by simpa [Chain.ownerOf?, allAlone, Table.get?, eq_comm] using howner
  released := ⟨0, rfl, by decide⟩
  recipient_ne := h
  lamportsFit := .inr (show (0 : Amount).toNat + (100 : Amount).toNat < UInt64.size by decide)
  unitsFit := by
    by_cases hsame : profile.tokenAccountOf (.repeating 6) = (leaving profile).tokenAccount
    · exact .inl hsame
    · have hnothing : (allAlone (leaving profile)).tokensIn
          (profile.tokenAccountOf (.repeating 6)) = 0 :=
        Chain.tokensIn_eq_zero (by simp [Chain.ownerOf?, allAlone, Table.get?, Ne.symm hsame])
      refine .inr ?_
      change ((allAlone (leaving profile)).tokensIn
        (profile.tokenAccountOf (.repeating 6))).toNat + _ < _
      rw [hnothing, UInt64.toNat_zero, Nat.zero_add]
      exact Amount.toNat_lt _

/-- Whoever holds standard tokens gets out with them. -/
theorem leaving_with_standard_tokens :
    ∃ profile, (Configuration.onlyTokenProgram
        "TokenkegQfeZyiNwAJbNbGKPFXCWuBvf9Ss623VQ5DA").profileWith
          (fun _ => .ok (.repeating 1)) = .ok profile ∧
      let l := leaving profile
      (allAlone l).tokensIn l.tokenAccount = 40 ∧
        (l.executeWithdraw Chain.executor 172800 profile.owner (.repeating 6)
          (allAlone l)).1.isOk = true := by
  have hstandard : Key.ofText "TokenkegQfeZyiNwAJbNbGKPFXCWuBvf9Ss623VQ5DA" =
      .ok Token.standardProgram := by decide +kernel
  obtain ⟨profile, hprofile, hexit⟩ := exit_open_to_standard_tokens
    (.onlyTokenProgram "TokenkegQfeZyiNwAJbNbGKPFXCWuBvf9Ss623VQ5DA") (by decide +kernel)
    fun _ => .repeating 1
  obtain ⟨-, -, hprogram, -, -⟩ := Configuration.profileWith_eq_ok_iff.mp hprofile
  have hother : .repeating 6 ≠ profile.tokenProgram := by
    rw [← Except.ok.inj (hstandard.symm.trans hprogram)]
    decide
  have hopen := hexit _ _ 172800 (.repeating 6) _ (exitReady_leaving hother)
  refine ⟨profile, hprofile, by simp [Chain.tokensIn, allAlone, Table.get?], ?_⟩
  exact hopen.1.mpr (.inr hstandard)

/-- Whoever is configured with another token program that is accepted, and holds its tokens, is
locked in: nothing stands in the way, and still the withdrawal fails. -/
theorem locked_in_with_other_tokens :
    ∃ (c : Configuration) (profile : Profile) (l : Ledger) (now : Instant) (recipient : Key)
      (chain : Chain), c.validate = .ok () ∧
        c.profileWith (fun _ => .ok (.repeating 1)) = .ok profile ∧ l.profile = profile ∧
        l.ExitReady now recipient chain ∧ chain.lamportsOf l.address = 100 ∧
        (l.executeWithdraw Chain.executor now profile.owner recipient chain).1.isOk = false := by
  have haccepted : (Configuration.onlyTokenProgram
      "TokenzQdBNbLqP5VEhdkAS6EPFLC1PHnBqCXEpPxuEb").validate = .ok () := by decide +kernel
  have hwritten : Key.ofText "TokenzQdBNbLqP5VEhdkAS6EPFLC1PHnBqCXEpPxuEb" ≠
      .ok Token.standardProgram := by decide +kernel
  have hrecipient : Key.ofText "TokenzQdBNbLqP5VEhdkAS6EPFLC1PHnBqCXEpPxuEb" ≠
      .ok (.repeating 6) := by decide +kernel
  obtain ⟨profile, hprofile⟩ := (Configuration.validate_eq_ok_iff.mp haccepted).exists_profileWith
    fun _ => .repeating 1
  obtain ⟨-, -, hprogram, -, -⟩ := Configuration.profileWith_eq_ok_iff.mp hprofile
  have hother : profile.tokenProgram ≠ Token.standardProgram := fun h => hwritten (h ▸ hprogram)
  have ready := exitReady_leaving fun h : .repeating 6 = profile.tokenProgram =>
    hrecipient (h ▸ hprogram)
  have hunits : (allAlone (leaving profile)).tokensIn (leaving profile).tokenAccount ≠ 0 := by
    simp [Chain.tokensIn, allAlone, Table.get?]
  refine ⟨_, profile, leaving profile, 172800, .repeating 6, allAlone (leaving profile), haccepted,
    hprofile, rfl, ready, rfl, ?_⟩
  exact Bool.eq_false_iff.mpr (mt ready.isOk_executeWithdraw_iff.mp (not_or.mpr ⟨hunits, hother⟩))

end Ledger

end SpendGuard
