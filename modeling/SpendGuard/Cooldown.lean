import SpendGuard.Error
import SpendGuard.Wide

/-!
# The cooldown

One spend whose value exceeds half of the daily token cap blocks all spending, of both assets,
for an hour. Lamports are valued in token units at the account's exchange rate, rounded down.

What a spend is worth is an exact natural number (`tokenValue`, `value`, `isLarge`). It is computed
in wide words, in steps that refuse a result which does not fit (`convert`, `appraise`, `weigh`).
None of them ever does: the product of two amounts fits, dividing it by the lamports of one SOL
leaves room for the token, and for the basis points too (`value_mul_basisPoints_lt`). So the steps
come to the exact value (`weigh_eq`).
-/

namespace SpendGuard

/-- Lamports in one SOL. -/
def lamportsPerSol : Nat := 1000000000

namespace Cooldown

/-- How long a cooldown lasts, in seconds. -/
def length : Nat := 3600

/-- The share of the daily token cap beyond which a spend is large, in basis points. -/
def thresholdBasisPoints : Nat := 5000

/-- Basis points in the whole. -/
def basisPoints : Nat := 10000

/-- When the cooldown that began with the last large spend ends. -/
def endsAt (lastLargeSpend : Option Instant) : Option Instant :=
  lastLargeSpend.map fun t => t.after length

/-- When the cooldown ends, if it is still running. -/
def runningUntil (lastLargeSpend : Option Instant) (now : Instant) : Option Instant :=
  (endsAt lastLargeSpend).filter fun ends => now < ends

/-! ### What a spend is worth -/

/-- What lamports are worth in token units, rounded down. -/
def tokenValue (lamports exchangeRate : Amount) : Nat :=
  lamports.toNat * exchangeRate.toNat / lamportsPerSol

/-- What a spend is worth in token units. -/
def value (spend : Spend) (exchangeRate : Amount) : Nat :=
  tokenValue spend.sol exchangeRate + spend.token.toNat

/-- Whether a spend is worth more than half of the daily token cap. -/
def isLarge (spend : Spend) (exchangeRate dailyTokenCap : Amount) : Bool :=
  dailyTokenCap.toNat * thresholdBasisPoints < value spend exchangeRate * basisPoints

/-! ### Computing it -/

/-- Converts lamports to token units, when their product with the rate fits. -/
def convert (lamports exchangeRate : Amount) : Except Error Wide :=
  match Wide.mul? (.ofAmount lamports) (.ofAmount exchangeRate) with
  | none => .error .overflow
  | some scaled => .ok (scaled / .ofNat lamportsPerSol)

/-- Adds up what both assets are worth, when the sum fits. -/
def appraise (spend : Spend) (exchangeRate : Amount) : Except Error Wide :=
  match convert spend.sol exchangeRate with
  | .error e => .error e
  | .ok sol =>
    match Wide.add? sol (.ofAmount spend.token) with
    | none => .error .overflow
    | some worth => .ok worth

/-- The share of the daily token cap beyond which a spend is large, with an unchecked product. -/
def threshold (dailyTokenCap : Amount) : Wide :=
  .ofAmount dailyTokenCap * .ofNat thresholdBasisPoints

/-- Tells whether a spend is large, by an unchecked product of what it is worth. -/
def weigh (spend : Spend) (exchangeRate dailyTokenCap : Amount) : Except Error Bool :=
  match appraise spend exchangeRate with
  | .error e => .error e
  | .ok worth => .ok (threshold dailyTokenCap < worth * .ofNat basisPoints)

/-- Lets a spend pass when no cooldown is running, and tells the last large spend from then on:
this one if it is large, else the one before. -/
def gate (lastLargeSpend : Option Instant) (spend : Spend) (exchangeRate dailyTokenCap : Amount)
    (now : Instant) : Except Error (Option Instant) :=
  match runningUntil lastLargeSpend now with
  | some ends => .error (.cooldownActive ends)
  | none =>
    match weigh spend exchangeRate dailyTokenCap with
    | .error e => .error e
    | .ok large => .ok (if large then some now else lastLargeSpend)

/-! ### The steps come to the exact value -/

/-- What a spend is worth fits a wide word even in basis points. -/
theorem value_mul_basisPoints_lt (spend : Spend) (exchangeRate : Amount) :
    value spend exchangeRate * basisPoints < Wide.size := by
  have hproduct : spend.sol.toNat * exchangeRate.toNat < UInt64.size * UInt64.size :=
    Nat.mul_lt_mul'' (Amount.toNat_lt _) (Amount.toNat_lt _)
  have htoken := Amount.toNat_lt spend.token
  unfold value tokenValue
  generalize spend.sol.toNat * exchangeRate.toNat = product at hproduct ⊢
  simp only [lamportsPerSol, basisPoints, Wide.size, UInt64.size] at hproduct htoken ⊢
  omega

theorem value_lt (spend : Spend) (exchangeRate : Amount) :
    value spend exchangeRate < Wide.size :=
  Nat.lt_of_le_of_lt (Nat.le_mul_of_pos_right _ (by decide)) (value_mul_basisPoints_lt _ _)

/-- Lamports can always be converted. -/
theorem convert_eq_ok (lamports exchangeRate : Amount) :
    ∃ worth, convert lamports exchangeRate = .ok worth ∧
      worth.toNat = tokenValue lamports exchangeRate := by
  have hproduct : lamports.toNat * exchangeRate.toNat < Wide.size :=
    Nat.mul_lt_mul'' (Amount.toNat_lt _) (Amount.toNat_lt _)
  refine ⟨_, by rw [convert, Wide.mul?_ofAmount], ?_⟩
  rw [BitVec.toNat_udiv, Wide.toNat_ofNat hproduct, Wide.toNat_ofNat (by decide), tokenValue]

/-- A spend can always be appraised. -/
theorem appraise_eq_ok (spend : Spend) (exchangeRate : Amount) :
    ∃ worth, appraise spend exchangeRate = .ok worth ∧
      worth.toNat = value spend exchangeRate := by
  obtain ⟨sol, hsol, hworth⟩ := convert_eq_ok spend.sol exchangeRate
  have hsum : sol.toNat + (Wide.ofAmount spend.token).toNat = value spend exchangeRate := by
    rw [hworth, Wide.toNat_ofAmount, value]
  have hfits := value_lt spend exchangeRate
  refine ⟨.ofNat (value spend exchangeRate), ?_, Wide.toNat_ofNat hfits⟩
  rw [appraise, hsol]
  dsimp only
  rw [Wide.add?, hsum, Wide.ofNat?_of_lt hfits]

theorem toNat_threshold (dailyTokenCap : Amount) :
    (threshold dailyTokenCap).toNat = dailyTokenCap.toNat * thresholdBasisPoints := by
  have hlt : dailyTokenCap.toNat * thresholdBasisPoints < UInt64.size * UInt64.size :=
    Nat.mul_lt_mul'' (Amount.toNat_lt _) (by decide)
  have hfactor : (Wide.ofNat thresholdBasisPoints).toNat = thresholdBasisPoints := rfl
  rw [threshold, Wide.toNat_mul_of_lt, Wide.toNat_ofAmount, hfactor]
  rw [Wide.toNat_ofAmount, hfactor]
  exact hlt

/-- Whether a spend is large can always be told. -/
theorem weigh_eq (spend : Spend) (exchangeRate dailyTokenCap : Amount) :
    weigh spend exchangeRate dailyTokenCap = .ok (isLarge spend exchangeRate dailyTokenCap) := by
  obtain ⟨worth, happraise, hworth⟩ := appraise_eq_ok spend exchangeRate
  have hfactor : (Wide.ofNat basisPoints).toNat = basisPoints := rfl
  have hscaled : (worth * .ofNat basisPoints).toNat = value spend exchangeRate * basisPoints := by
    rw [Wide.toNat_mul_of_lt, hworth, hfactor]
    rw [hworth, hfactor]
    exact value_mul_basisPoints_lt spend exchangeRate
  rw [weigh, happraise]
  simp only [BitVec.lt_def, toNat_threshold, hscaled, isLarge]

/-- So a spend passes whatever it is worth, when no cooldown is running. -/
theorem gate_eq (lastLargeSpend : Option Instant) (spend : Spend)
    (exchangeRate dailyTokenCap : Amount) (now : Instant) :
    gate lastLargeSpend spend exchangeRate dailyTokenCap now =
      match runningUntil lastLargeSpend now with
      | some ends => .error (.cooldownActive ends)
      | none => .ok (if isLarge spend exchangeRate dailyTokenCap then some now
          else lastLargeSpend) := by
  rw [gate, weigh_eq]

end Cooldown

end SpendGuard
