import Mathlib.Tactic.Common
import SpendGuard.Configuration
import SpendGuard.Proofs.Success

/-!
# What validation guarantees

A configuration is accepted when every text in it that should be a key is one, and every number that
must be positive is (`Configuration.validate_eq_ok_iff`). That is enough to make a profile of it as
soon as somebody has each role that nothing is written for (`Configuration.exists_profileWith`). It
is all there is: any key will do for the token program.
-/

namespace SpendGuard

theorem Role.forall_iff {P : Role → Prop} :
    (∀ role, P role) ↔ P .owner ∧ P .dispatcher ∧ P .sponsor :=
  ⟨fun h => ⟨h _, h _, h _⟩, fun h role => by cases role; exacts [h.1, h.2.1, h.2.2]⟩

/-- What a key was read for matters to the error only. -/
theorem Key.ofTextAs_eq_ok_iff {use : KeyUse} {text : String} {key : Key} :
    Key.ofTextAs use text = .ok key ↔ Key.ofText text = .ok key := by
  unfold Key.ofTextAs
  cases Key.ofText text <;> simp [Except.mapError]

namespace Configuration

variable {c : Configuration}

/-! ### Checks -/

theorem checkOptional_eq_ok_iff {field : String} {text : Option String} :
    checkOptional field text = .ok () ↔
      ∀ written, text = some written → ∃ key, Key.ofText written = .ok key := by
  cases text with
  | none => simp [checkOptional]
  | some written =>
    simp only [checkOptional, Option.some.injEq, forall_eq', Key.ofTextAs]
    cases Key.ofText written <;> simp [Except.map, Except.mapError]

theorem checkPositive_eq_ok_iff {field : String} {amount : Amount} :
    checkPositive field amount = .ok () ↔ amount ≠ 0 := by
  unfold checkPositive
  split
  · next hzero => simp [hzero]
  · next hpositive => simp [hpositive]

/-- A configuration is **valid** when what should be keys are, and what must be positive is. -/
structure Valid (c : Configuration) : Prop where
  /-- What is written for a role is a key. -/
  roles : ∀ role written, c.textOf role = some written → ∃ key, Key.ofText written = .ok key
  /-- The mint is a key. -/
  tokenMint : ∃ key, Key.ofText c.account.tokenMint = .ok key
  /-- The token program is a key. -/
  tokenProgram : ∃ key, Key.ofText c.account.tokenProgram = .ok key
  /-- The program that addresses are derived under is a key. -/
  program : ∃ key, Key.ofText c.account.program = .ok key
  /-- SOL is worth something. -/
  exchangeRate : c.account.exchangeRate ≠ 0
  /-- An operation is granted some compute. -/
  unitLimit : c.budget.unitLimit ≠ 0
  /-- And so is a call. -/
  unitsPerCall : c.budget.unitsPerCall ≠ 0

/-- **Validation accepts the valid configurations.** -/
theorem validate_eq_ok_iff : c.validate = .ok () ↔ c.Valid := by
  simp only [validate, bind, check_bind_eq_ok_iff, checkOptional_eq_ok_iff,
    checkPositive_eq_ok_iff, Option.some.injEq, forall_eq']
  constructor
  · rintro ⟨howner, hdispatcher, hsponsor, hmint, htoken, hprogram, hrate, hlimit, hcall⟩
    exact ⟨Role.forall_iff.mpr ⟨howner, hdispatcher, hsponsor⟩, hmint, htoken, hprogram, hrate,
      hlimit, hcall⟩
  · rintro ⟨hroles, hmint, htoken, hprogram, hrate, hlimit, hcall⟩
    exact ⟨hroles .owner, hroles .dispatcher, hroles .sponsor, hmint, htoken, hprogram, hrate,
      hlimit, hcall⟩

/-! ### Profiles -/

theorem profileWith_eq_ok_iff {missing : Role → Except Failure Key} {profile : Profile} :
    c.profileWith missing = .ok profile ↔
      (∀ role, c.identity missing role = .ok (profile.holder role)) ∧
        Key.ofText c.account.tokenMint = .ok profile.tokenMint ∧
        Key.ofText c.account.tokenProgram = .ok profile.tokenProgram ∧
        profile.exchangeRate = c.account.exchangeRate ∧ profile.limits = c.limits := by
  simp only [profileWith, tokenProgram, bind, bind_eq_ok_iff, Key.ofTextAs_eq_ok_iff]
  constructor
  · rintro ⟨owner, howner, dispatcher, hdispatcher, sponsor, hsponsor, mint, hmint, program,
      hprogram, ⟨⟩⟩
    exact ⟨Role.forall_iff.mpr ⟨howner, hdispatcher, hsponsor⟩, hmint, hprogram, rfl, rfl⟩
  · rintro ⟨hroles, hmint, hprogram, hrate, hlimits⟩
    refine ⟨_, hroles .owner, _, hroles .dispatcher, _, hroles .sponsor, _, hmint, _, hprogram, ?_⟩
    rw [← hrate, ← hlimits]
    rfl

/-- A valid configuration makes a profile with any keys for the roles that are left out. -/
theorem Valid.exists_profileWith (h : c.Valid) (keys : Role → Key) :
    ∃ profile, c.profileWith (fun role => .ok (keys role)) = .ok profile := by
  have hidentity (role : Role) :
      ∃ key, c.identity (fun role => .ok (keys role)) role = .ok key := by
    unfold identity
    cases hwritten : c.textOf role with
    | none => exact ⟨keys role, rfl⟩
    | some written =>
      obtain ⟨key, hkey⟩ := h.roles role written hwritten
      exact ⟨key, Key.ofTextAs_eq_ok_iff.mpr hkey⟩
  obtain ⟨⟨owner, howner⟩, ⟨dispatcher, hdispatcher⟩, ⟨sponsor, hsponsor⟩⟩ :=
    Role.forall_iff.mp hidentity
  obtain ⟨mint, hmint⟩ := h.tokenMint
  obtain ⟨program, hprogram⟩ := h.tokenProgram
  exact ⟨⟨owner, dispatcher, sponsor, mint, program, c.account.exchangeRate, c.limits⟩,
    profileWith_eq_ok_iff.mpr ⟨Role.forall_iff.mpr ⟨howner, hdispatcher, hsponsor⟩, hmint, hprogram,
      rfl, rfl⟩⟩

/-- A configuration in which nothing but the token program is written. -/
def onlyTokenProgram (written : String) : Configuration where
  account := { AccountSettings.standard with tokenProgram := written }
  limits := .standard
  fees := .standard
  budget := .standard
  statePath := standardPath

end Configuration

end SpendGuard
