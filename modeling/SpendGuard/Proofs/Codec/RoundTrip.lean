import SpendGuard.Codec.Account
import SpendGuard.Codec.Operation
import SpendGuard.Proofs.Json.RoundTrip

/-!
# JSON forms that are read back

A type's JSON form is **faithful** when every value is read back from its form, and the form is
plain, so that it survives being written as text (`decode?_parse?_render`). Scalars, keys, options,
lists, the records of an account, operations and settings are faithful; hence a saved ledger is
loaded as it was (`Ledger.load_save`).
-/

namespace SpendGuard

open Json (Value)

/-- The JSON form of a type keeps its values. -/
class Faithful (α : Type) [Coded α] : Prop where
  /-- A form is plain. -/
  plain : ∀ a : α, (encode a).Plain
  /-- A value is read back from its form. -/
  decode?_encode : ∀ a : α, decode? (encode a) = some a

export Faithful (decode?_encode)

/-- **A value is read back from its text**, in any layout that adds only blanks. -/
theorem decode?_parse?_render {α : Type} [Coded α] [Faithful α] {layout : Json.Layout}
    (hlayout : layout.Blank) (a : α) :
    (Value.parse? ((encode a).render layout)).bind decode? = some a := by
  rw [Value.parse?_render hlayout (Faithful.plain a), Option.bind_some, decode?_encode]

/-! ### Scalars -/

theorem naturalBelow?_int {bound n : Nat} (h : n < bound) :
    naturalBelow? bound (.int n) = some n :=
  if_pos h

instance : Faithful UInt8 where
  plain _ := .int _
  decode?_encode n := by
    have hread := naturalBelow?_int n.toNat_lt
    simp [encode, decode?, hread]

instance : Faithful UInt64 where
  plain _ := .int _
  decode?_encode n := by
    have hread := naturalBelow?_int n.toNat_lt
    simp [encode, decode?, hread]

instance : Faithful Int64 where
  plain _ := .int _
  decode?_encode t := by
    have hlo := Int64.le_toInt t
    have hhi := Int64.toInt_le t
    have hfit : SignedWord.fit? t.toInt = some t.toInt := if_pos ⟨hlo, hhi⟩
    change (SignedWord.fit? t.toInt).map Int64.ofInt = some t
    rw [hfit, Option.map_some, Int64.ofInt_toInt]

/-! ### Options and lists -/

/-- No form is the one of a missing value. -/
class NeverNull (α : Type) [Encodes α] : Prop where
  /-- A form is not null. -/
  encode_ne_null : ∀ a : α, encode a ≠ .null

instance : NeverNull Int64 := ⟨fun _ h => by cases h⟩

instance {α : Type} [Coded α] [Faithful α] [NeverNull α] : Faithful (Option α) where
  plain
    | none => .null
    | some a => Faithful.plain a
  decode?_encode
    | none => rfl
    | some a => by
      have hread := decode?_encode a
      have hnull := NeverNull.encode_ne_null a
      change Coded.decode? (encode a) = some (some a)
      generalize encode a = v at hread hnull ⊢
      cases v with
      | null => exact absurd rfl hnull
      | _ => exact congrArg (Option.map some) hread

instance {α : Type} [Coded α] [Faithful α] : Faithful (List α) where
  plain xs := by
    refine .array fun v hv => ?_
    obtain ⟨a, -, rfl⟩ := List.mem_map.mp hv
    exact Faithful.plain a
  decode?_encode xs := by
    change (xs.map encode).mapM decode? = some xs
    induction xs with
    | nil => rfl
    | cons x xs ih => rw [List.map_cons, List.mapM_cons, decode?_encode, ih]; rfl

instance : Faithful Key where
  plain k := Faithful.plain k.bytes
  decode?_encode k := by
    change (decode? (encode k.bytes)).bind Key.ofBytes? = some k
    rw [decode?_encode, Option.bind_some, Key.ofBytes?_bytes]

instance : NeverNull Key := ⟨fun _ h => by cases h⟩

instance : Faithful Signature where
  plain s := Faithful.plain s.bytes
  decode?_encode s := by
    change (decode? (encode s.bytes)).bind Signature.ofBytes? = some s
    rw [decode?_encode, Option.bind_some, Signature.ofBytes?_bytes]

/-! ### Records -/

theorem namedMembers?_map (members : List (String × Value)) :
    namedMembers? (members.map fun m => (some m.1, m.2)) = some members := by
  induction members with
  | nil => rfl
  | cons m members ih =>
    rw [namedMembers?] at ih ⊢
    rw [List.map_cons, List.mapM_cons, ih]
    rfl

theorem lookup_eq_some_of_mem {members : List (String × Value)}
    (h : (members.map Prod.fst).Nodup) {m : String × Value} (hm : m ∈ members) :
    members.lookup m.1 = some m.2 := by
  induction members with
  | nil => cases hm
  | cons m' members ih =>
    rw [List.map_cons, List.nodup_cons] at h
    rcases List.mem_cons.mp hm with rfl | hm
    · rw [List.lookup_cons, beq_self_eq_true]
    · have hne : m.1 ≠ m'.1 := fun heq => h.1 (heq ▸ List.mem_map_of_mem hm)
      rw [List.lookup_cons, beq_false_of_ne hne]
      exact ih h.2 hm

/-- **The fields of a record are found** under their names, when these are all different. -/
theorem fields?_record (members : List (String × Value)) (h : (members.map Prod.fst).Nodup) :
    fields? (members.map Prod.fst) (.record members) = some (members.map fun m => some m.2) := by
  have hlookup : (members.map Prod.fst).map (fun n => members.lookup n) =
      members.map fun m => some m.2 := by
    rw [List.map_map]
    exact List.map_congr_left fun m hm => lookup_eq_some_of_mem h hm
  have honce : (members.map Prod.fst).all
      (fun n => (members.filter fun m => m.1 == n).length ≤ 1) = true := by
    refine List.all_eq_true.mpr fun n _ => decide_eq_true ?_
    have hcount := List.nodup_iff_count.mp h n
    rw [List.count, List.countP_map, List.countP_eq_length_filter] at hcount
    exact hcount
  rw [Value.record, fields?, namedMembers?_map]
  simp only [bind, Option.bind, honce, if_true, hlookup]
  rfl

/-- A field that is there is read back. -/
theorem required?_encode {α : Type} [Coded α] [Faithful α] (a : α) :
    required? (some (encode a)) = some a :=
  decode?_encode a

/-- A field that could be missing is read back when it is there. -/
theorem defaulted?_encode {α : Type} [Coded α] [Faithful α] (default a : α) :
    defaulted? default (some (encode a)) = some a :=
  decode?_encode a

/-! ### Accounts -/

instance : Faithful Asset where
  plain
    | .sol => .string "sol"
    | .token => .string "token"
  decode?_encode
    | .sol => rfl
    | .token => rfl

instance : Faithful Spend where
  plain s := .record (by simp [Faithful.plain])
  decode?_encode s := by
    have hfields : fields? ["sol", "token"] (encode s) =
        some [some (encode s.sol), some (encode s.token)] :=
      fields?_record [("sol", encode s.sol), ("token", encode s.token)]
        (show ["sol", "token"].Nodup by decide)
    simp only [decode?]
    simp only [hfields, bind, Option.bind, required?_encode]
    rfl

instance : Faithful Counters where
  plain c := .record (by simp [Faithful.plain])
  decode?_encode c := by
    have hfields : fields? ["daily", "monthly"] (encode c) =
        some [some (encode c.daily), some (encode c.monthly)] :=
      fields?_record [("daily", encode c.daily), ("monthly", encode c.monthly)]
        (show ["daily", "monthly"].Nodup by decide)
    simp only [decode?]
    simp only [hfields, bind, Option.bind, required?_encode]
    rfl

instance : Faithful Caps where
  plain c := .record (by simp [Faithful.plain])
  decode?_encode c := by
    have hfields : fields? ["daily", "monthly"] (encode c) =
        some [some (encode c.daily), some (encode c.monthly)] :=
      fields?_record [("daily", encode c.daily), ("monthly", encode c.monthly)]
        (show ["daily", "monthly"].Nodup by decide)
    simp only [decode?]
    simp only [hfields, bind, Option.bind, required?_encode]
    rfl

instance : Faithful Limits where
  plain l := .record (by simp [Faithful.plain])
  decode?_encode l := by
    have hfields : fields? ["sol", "token"] (encode l) =
        some [some (encode l.sol), some (encode l.token)] :=
      fields?_record [("sol", encode l.sol), ("token", encode l.token)]
        (show ["sol", "token"].Nodup by decide)
    simp only [decode?]
    simp only [hfields, bind, Option.bind, required?_encode]
    rfl

instance : Faithful Profile where
  plain p := .record (by simp [Faithful.plain])
  decode?_encode p := by
    have hfields : fields? ["owner", "dispatcher", "sponsor", "token_mint", "token_program",
        "exchange_rate", "limits"] (encode p) =
        some [some (encode p.owner), some (encode p.dispatcher), some (encode p.sponsor),
          some (encode p.tokenMint), some (encode p.tokenProgram), some (encode p.exchangeRate),
          some (encode p.limits)] :=
      fields?_record [("owner", encode p.owner), ("dispatcher", encode p.dispatcher),
        ("sponsor", encode p.sponsor), ("token_mint", encode p.tokenMint),
        ("token_program", encode p.tokenProgram), ("exchange_rate", encode p.exchangeRate),
        ("limits", encode p.limits)]
        (show ["owner", "dispatcher", "sponsor", "token_mint", "token_program", "exchange_rate",
          "limits"].Nodup by decide)
    simp only [decode?]
    simp only [hfields, bind, Option.bind, required?_encode]
    rfl

instance : Faithful State where
  plain s := .record (by simp [Faithful.plain])
  decode?_encode s := by
    have hfields : fields? ["sol", "token", "last_daily_reset", "last_monthly_reset",
        "last_large_spend", "withdraw_requested_at"] (encode s) =
        some [some (encode s.sol), some (encode s.token), some (encode s.dailyAnchor),
          some (encode s.monthlyAnchor), some (encode s.lastLargeSpend),
          some (encode s.withdrawRequestedAt)] :=
      fields?_record [("sol", encode s.sol), ("token", encode s.token),
        ("last_daily_reset", encode s.dailyAnchor),
        ("last_monthly_reset", encode s.monthlyAnchor),
        ("last_large_spend", encode s.lastLargeSpend),
        ("withdraw_requested_at", encode s.withdrawRequestedAt)]
        (show ["sol", "token", "last_daily_reset", "last_monthly_reset", "last_large_spend",
          "withdraw_requested_at"].Nodup by decide)
    simp only [decode?]
    simp only [hfields, bind, Option.bind, required?_encode, defaulted?_encode]
    rfl

instance : Faithful Ledger where
  plain l := .record (by simp [Faithful.plain])
  decode?_encode l := by
    have hfields : fields? ["address", "profile", "state"] (encode l) =
        some [some (encode l.address), some (encode l.profile), some (encode l.state)] :=
      fields?_record [("address", encode l.address), ("profile", encode l.profile),
        ("state", encode l.state)]
        (show ["address", "profile", "state"].Nodup by decide)
    simp only [decode?]
    simp only [hfields, bind, Option.bind, required?_encode]
    rfl

/-- **A saved ledger is loaded as it was.** -/
theorem Ledger.load_save (l : Ledger) : Ledger.load l.save = .ok l := by
  rw [Ledger.load, Ledger.save, decode?_parse?_render Json.Layout.blank_indented]

/-! ### Operations and settings -/

instance : Faithful Call where
  plain c := .record (by simp [Faithful.plain])
  decode?_encode c := by
    have hfields : fields? ["target", "value", "data", "accounts"] (encode c) =
        some [some (encode c.target), some (encode c.value), some (encode c.data),
          some (encode c.accounts)] :=
      fields?_record [("target", encode c.target), ("value", encode c.value),
        ("data", encode c.data), ("accounts", encode c.accounts)]
        (show ["target", "value", "data", "accounts"].Nodup by decide)
    simp only [decode?]
    simp only [hfields, bind, Option.bind, required?_encode, defaulted?_encode]
    rfl

instance : Faithful Operation where
  plain o := .record (by simp [Faithful.plain])
  decode?_encode o := by
    have hfields : fields? ["account", "nonce", "calls", "paymaster", "signature"] (encode o) =
        some [some (encode o.account), some (encode o.nonce), some (encode o.calls),
          some (encode o.paymaster), some (encode o.signature)] :=
      fields?_record [("account", encode o.account), ("nonce", encode o.nonce),
        ("calls", encode o.calls), ("paymaster", encode o.paymaster),
        ("signature", encode o.signature)]
        (show ["account", "nonce", "calls", "paymaster", "signature"].Nodup by decide)
    simp only [decode?]
    simp only [hfields, bind, Option.bind, required?_encode, defaulted?_encode]
    rfl

instance : Faithful FeeSchedule where
  plain s := .record (by simp [Faithful.plain])
  decode?_encode s := by
    have hfields : fields? ["max_fee_per_op", "base_fee_lamports", "per_call_fee_lamports"]
        (encode s) =
        some [some (encode s.maxFeePerOp), some (encode s.baseFee), some (encode s.perCallFee)] :=
      fields?_record [("max_fee_per_op", encode s.maxFeePerOp),
        ("base_fee_lamports", encode s.baseFee), ("per_call_fee_lamports", encode s.perCallFee)]
        (show ["max_fee_per_op", "base_fee_lamports", "per_call_fee_lamports"].Nodup by decide)
    simp only [decode?]
    simp only [hfields, bind, Option.bind, defaulted?_encode]
    rfl

instance : Faithful ComputeBudget where
  plain b := .record (by simp [Faithful.plain])
  decode?_encode b := by
    have hfields : fields? ["compute_unit_limit", "compute_units_per_call"] (encode b) =
        some [some (encode b.unitLimit), some (encode b.unitsPerCall)] :=
      fields?_record [("compute_unit_limit", encode b.unitLimit),
        ("compute_units_per_call", encode b.unitsPerCall)]
        (show ["compute_unit_limit", "compute_units_per_call"].Nodup by decide)
    simp only [decode?]
    simp only [hfields, bind, Option.bind, defaulted?_encode]
    rfl

end SpendGuard
