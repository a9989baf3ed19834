import SpendGuard.AccountAddress
import SpendGuard.Proofs.Operation

/-!
# Addresses tell accounts apart

What is hashed for an address is put together without separators: the tag, the owner, the four caps,
the salt, the bump, the program and the marker. Every part has a width of its own, whatever its
value, so that each can be cut off the front in turn (`AccountAddress.Origin.preimage_inj`), and
strings for different accounts differ, also where their bumps do. Hence two accounts have one
address only where their strings are a collision of the digest. Of the digest nothing else is
assumed, and of no other strings than the two: among all strings there must be collisions.
-/

namespace SpendGuard

/-! ### The search for a bump -/

namespace Address

/-- The search ends with the candidate for the bump that it tells. -/
theorem searchFrom_fst (seeds : List (List UInt8)) (program : Key) (bump : Nat) :
    (searchFrom seeds program bump).1 =
      candidate seeds program (searchFrom seeds program bump).2 := by
  induction bump with
  | zero => rfl
  | succ bump ih =>
    rw [searchFrom]
    split
    · exact ih
    · rfl

theorem derive_fst (seeds : List (List UInt8)) (program : Key) :
    (derive seeds program).1 = candidate seeds program (derive seeds program).2 :=
  searchFrom_fst seeds program 255

/-- Candidates agree exactly when the digests of what is hashed for them do. -/
theorem candidate_eq_iff {seeds seeds' : List (List UInt8)} {program program' : Key}
    {bump bump' : UInt8} :
    candidate seeds program bump = candidate seeds' program' bump' ↔
      Sha256.digest (preimage seeds bump program) =
        Sha256.digest (preimage seeds' bump' program') :=
  ⟨congrArg Key.bytes, fun h => Key.bytes_inj h⟩

end Address

namespace AccountAddress

/-! ### What is hashed -/

/-- Everything that an account's address is derived from. -/
structure Origin where
  /-- The program that controls the address. -/
  program : Key
  /-- The account's owner. -/
  owner : Key
  /-- The four caps. -/
  limits : Limits
  /-- The salt. -/
  salt : Amount
deriving DecidableEq

namespace Origin

/-- The string that is hashed for a bump. -/
def preimage (o : Origin) (bump : UInt8) : List UInt8 :=
  Address.preimage (seeds o.owner o.limits o.salt) bump o.program

/-- The derived address, with its bump. -/
def derived (o : Origin) : Key × UInt8 := derive o.program o.owner o.limits o.salt

/-- The string whose digest is the derived address. -/
def hashed (o : Origin) : List UInt8 := o.preimage o.derived.2

/-- The parts of the string, in order. -/
theorem preimage_eq (o : Origin) (bump : UInt8) :
    o.preimage bump = tag ++ (o.owner.bytes ++ (Encode.word o.limits.sol.daily.toNat ++
      (Encode.word o.limits.sol.monthly.toNat ++ (Encode.word o.limits.token.daily.toNat ++
      (Encode.word o.limits.token.monthly.toNat ++ (Encode.word o.salt.toNat ++
      ([bump] ++ (o.program.bytes ++ Address.marker)))))))) := by
  simp only [preimage, Address.preimage, seeds, List.map_cons, List.map_nil, List.flatten_cons,
    List.flatten_nil, List.cons_append, List.nil_append, List.append_assoc, List.append_nil,
    Encode.word]

variable {a b : Origin} {bump bump' : UInt8}

/-- **The string tells the account and the bump.** -/
theorem preimage_inj : a.preimage bump = b.preimage bump' ↔ a = b ∧ bump = bump' := by
  refine ⟨fun h => ?_, ?_⟩
  · obtain ⟨program, owner, ⟨⟨solDaily, solMonthly⟩, tokenDaily, tokenMonthly⟩, salt⟩ := a
    obtain ⟨program', owner', ⟨⟨solDaily', solMonthly'⟩, tokenDaily', tokenMonthly'⟩, salt'⟩ := b
    rw [preimage_eq, preimage_eq] at h
    -- One part after the other, in the order in which they are hashed.
    have hparts := List.append_cancel_left h
    dsimp only at hparts
    obtain ⟨rfl, hsol⟩ := Encode.selfDelimiting_key trivial trivial hparts
    obtain ⟨rfl, hsolMonthly⟩ := Encode.word_append_inj hsol
    obtain ⟨rfl, htoken⟩ := Encode.word_append_inj hsolMonthly
    obtain ⟨rfl, htokenMonthly⟩ := Encode.word_append_inj htoken
    obtain ⟨rfl, hsalt⟩ := Encode.word_append_inj htokenMonthly
    obtain ⟨rfl, hbump⟩ := Encode.word_append_inj hsalt
    obtain ⟨rfl, hprogram⟩ := List.cons.inj hbump
    obtain ⟨rfl, -⟩ := Encode.selfDelimiting_key trivial trivial hprogram
    exact ⟨rfl, rfl⟩
  · rintro ⟨rfl, rfl⟩
    rfl

/-- Two derived addresses agree exactly when the digests of their strings do. -/
theorem derived_fst_eq_iff :
    a.derived.1 = b.derived.1 ↔ Sha256.digest a.hashed = Sha256.digest b.hashed := by
  have haddress (o : Origin) : o.derived.1 =
      Address.candidate (seeds o.owner o.limits o.salt) o.program o.derived.2 := by
    rw [derived, derive, Address.derive_fst]
  rw [haddress a, haddress b, Address.candidate_eq_iff]
  rfl

end Origin

/-! ### The addresses of accounts -/

/-- A foretold address is the first of what is derived. It is stated of the function: of a value,
the search for the bump would be run to compare the two sides. -/
theorem addressUnder_def :
    Profile.addressUnder = fun p program salt => (derive program p.owner p.limits salt).1 := by
  delta Profile.addressUnder
  rfl

/-- The address of a profile and a salt is derived from the profile's owner and caps. -/
theorem addressUnder_eq (profile : Profile) (program : Key) (salt : Amount) :
    profile.addressUnder program salt =
      (Origin.mk program profile.owner profile.limits salt).derived.1 := by
  rw [addressUnder_def, Origin.derived]

theorem address_create (program : Key) (profile : Profile) (salt : Amount) (now : Instant) :
    (Ledger.create program profile salt now).address = profile.addressUnder program salt := by
  rw [Ledger.create, Ledger.fresh]

/-- **Addresses tell accounts apart.** Take two accounts, each with its program, its owner, its four
caps and its salt.

* The strings that are hashed for them, with any bumps, are equal only if the accounts agree in all
  of these and the bumps are equal, too.
* So, unless the two strings that became their addresses are a collision of the digest, they share
  an address exactly when they agree in everything.
* A new account is at the address that was foretold for its profile and salt, and this is the one
  that is derived from the program, the profile's owner and caps, and the salt. -/
theorem addresses_tell_apart (a b : Origin) :
    (∀ bump bump', a.preimage bump = b.preimage bump' ↔ a = b ∧ bump = bump') ∧
    ((Sha256.digest a.hashed = Sha256.digest b.hashed → a.hashed = b.hashed) →
      (a.derived.1 = b.derived.1 ↔ a = b)) ∧
    ∀ program profile salt now,
      (Ledger.create program profile salt now).address = profile.addressUnder program salt ∧
        profile.addressUnder program salt =
          (Origin.mk program profile.owner profile.limits salt).derived.1 := by
  refine ⟨fun _ _ => Origin.preimage_inj, fun separate => ⟨fun hsame => ?_, ?_⟩,
    fun program profile salt now =>
      ⟨address_create program profile salt now, addressUnder_eq profile program salt⟩⟩
  · have hstrings := separate (Origin.derived_fst_eq_iff.mp hsame)
    exact (Origin.preimage_inj.mp hstrings).1
  · rintro rfl
    rfl

/-- An account with given caps on what it may spend of SOL in a month and of the token in a day. -/
def Origin.crosswise (solMonthly tokenDaily : Amount) : Origin where
  program := ⟨List.replicate 32 1, by simp⟩
  owner := ⟨List.replicate 32 2, by simp⟩
  limits := ⟨⟨10, solMonthly⟩, ⟨tokenDaily, 256⟩⟩
  salt := 9

/-- Two neighbouring caps have changed places. The strings differ, with whatever bumps, and the
digests of those that became the addresses do; so the addresses differ. -/
theorem crosswise_told_apart :
    let a := Origin.crosswise 1 256
    let b := Origin.crosswise 256 1
    a.preimage 255 ≠ b.preimage 254 ∧ Sha256.digest a.hashed ≠ Sha256.digest b.hashed ∧
      a.derived.1 ≠ b.derived.1 := by
  intro a b
  have hcaps : a ≠ b := by decide
  have hdigests : Sha256.digest a.hashed ≠ Sha256.digest b.hashed := by decide +kernel
  obtain ⟨hstrings, haddresses, -⟩ := addresses_tell_apart a b
  have hapart := haddresses fun hcollide => absurd hcollide hdigests
  exact ⟨fun hsame => hcaps ((hstrings 255 254).mp hsame).1, hdigests,
    fun hsame => hcaps (hapart.mp hsame)⟩

end AccountAddress

end SpendGuard
