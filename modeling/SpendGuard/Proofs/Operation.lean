import Mathlib.Tactic.Common
import SpendGuard.Operation

/-!
# What the owner signs

The string that is hashed determines the operation. Nothing in it separates one part from the next;
but every part has a fixed width or is preceded by its length, so at the front of any string an
encoding tells the value and where it ends (`Encode.SelfDelimiting`). The property is handed up from
words, bytes and keys over lists, whose items are cut off one after the other
(`Encode.flatMap_append_inj`), to calls and operations. So bytes cannot be moved between
neighbouring data, accounts or calls, and no encoding is the beginning of another.

Lengths are written in 64 bits. A list whose length does not fit there would not be told from a
shorter one, but cannot be held in memory either (`Operation.Fits`).
-/

namespace SpendGuard

/-! ### Self-delimiting encodings -/

namespace Encode

variable {α : Type} {encode item : α → List UInt8} {p : α → Prop}

/-- An encoding is **self-delimiting** on values with a property: at the front of a string it tells
the value and what follows. -/
def SelfDelimiting (encode : α → List UInt8) (p : α → Prop) : Prop :=
  ∀ ⦃a b : α⦄, p a → p b → ∀ ⦃r s : List UInt8⦄, encode a ++ r = encode b ++ s → a = b ∧ r = s

/-- Encodings of one width that tell the value are self-delimiting. -/
theorem selfDelimiting_of_length {width : Nat} (hwidth : ∀ a, (encode a).length = width)
    (hinj : ∀ a b, p a → p b → encode a = encode b → a = b) : SelfDelimiting encode p := by
  intro a b ha hb r s h
  obtain ⟨hcode, hrest⟩ := List.append_inj h ((hwidth a).trans (hwidth b).symm)
  exact ⟨hinj a b ha hb hcode, hrest⟩

theorem selfDelimiting_word : SelfDelimiting word (· < UInt64.size) := by
  refine selfDelimiting_of_length (fun _ => Bytes.length_littleEndian 8 _) fun m n hm hn h => ?_
  have hsize : UInt64.size = Nat.pow 256 8 := rfl
  rw [hsize] at hm hn
  exact Bytes.littleEndian_inj hm hn h

/-- The words of amounts always fit. -/
theorem word_append_inj {a b : Amount} {r s : List UInt8}
    (h : word a.toNat ++ r = word b.toNat ++ s) : a = b ∧ r = s := by
  obtain ⟨hvalue, hrest⟩ := selfDelimiting_word (Amount.toNat_lt a) (Amount.toNat_lt b) h
  exact ⟨UInt64.toNat_inj.mp hvalue, hrest⟩

theorem selfDelimiting_key : SelfDelimiting Key.bytes fun _ => True :=
  selfDelimiting_of_length Key.length_bytes fun _ _ _ _ h => Key.bytes_inj h

theorem selfDelimiting_byte : SelfDelimiting (fun b : UInt8 => [b]) fun _ => True :=
  selfDelimiting_of_length (fun _ => rfl) fun _ _ _ _ h => List.singleton_inj.mp h

/-- As many self-delimiting items can be cut off the front of a string in one way only. -/
theorem flatMap_append_inj (hitem : SelfDelimiting item p) {xs ys : List α}
    (hxs : ∀ x ∈ xs, p x) (hys : ∀ y ∈ ys, p y) (hlength : xs.length = ys.length)
    {r s : List UInt8} (h : xs.flatMap item ++ r = ys.flatMap item ++ s) : xs = ys ∧ r = s := by
  induction xs generalizing ys with
  | nil =>
    obtain rfl := List.length_eq_zero_iff.mp hlength.symm
    exact ⟨rfl, h⟩
  | cons x xs ih =>
    obtain ⟨y, tail, rfl⟩ := List.exists_cons_of_length_eq_add_one hlength.symm
    obtain ⟨hx, hxs⟩ := List.forall_mem_cons.mp hxs
    obtain ⟨hy, htail⟩ := List.forall_mem_cons.mp hys
    rw [List.flatMap_cons, List.flatMap_cons, List.append_assoc, List.append_assoc] at h
    obtain ⟨rfl, hitems⟩ := hitem hx hy h
    obtain ⟨rfl, hrest⟩ := ih hxs htail (Nat.succ.inj hlength) hitems
    exact ⟨rfl, hrest⟩

/-- A list after its length is self-delimiting when its items are and the length fits. -/
theorem selfDelimiting_list (hitem : SelfDelimiting item p) :
    SelfDelimiting (list item) fun xs => xs.length < UInt64.size ∧ ∀ x ∈ xs, p x := by
  rintro xs ys ⟨hfits, hxs⟩ ⟨hfits', hys⟩ r s h
  rw [list, list, List.append_assoc, List.append_assoc] at h
  obtain ⟨hlength, hitems⟩ := selfDelimiting_word hfits hfits' h
  exact flatMap_append_inj hitem hxs hys hlength hitems

theorem selfDelimiting_option (hitem : SelfDelimiting item p) :
    SelfDelimiting (option item) fun o => ∀ a ∈ o, p a := by
  rintro (_ | a) (_ | b) ha hb r s h
  · exact ⟨rfl, (List.cons.inj h).2⟩
  · cases (List.cons.inj h).1
  · cases (List.cons.inj h).1
  · obtain ⟨rfl, hrest⟩ := hitem (ha a rfl) (hb b rfl) (List.cons.inj h).2
    exact ⟨rfl, hrest⟩

end Encode

/-! ### Calls -/

/-- The lengths in a call can be written in 64 bits, as those of all lists in memory can. -/
def Call.Fits (call : Call) : Prop :=
  call.data.length < UInt64.size ∧ call.accounts.length < UInt64.size

instance (call : Call) : Decidable call.Fits := inferInstanceAs (Decidable (_ ∧ _))

theorem Encode.selfDelimiting_call : SelfDelimiting call Call.Fits := by
  rintro ⟨target, value, data, accounts⟩ ⟨target', value', data', accounts'⟩ ⟨hdata, haccounts⟩
    ⟨hdata', haccounts'⟩ r s h
  simp only [call, List.append_assoc] at h
  -- One field after the other, in the order in which they are written.
  obtain ⟨rfl, hvalue⟩ := selfDelimiting_key trivial trivial h
  obtain ⟨rfl, hlists⟩ := word_append_inj hvalue
  obtain ⟨rfl, hkeys⟩ := selfDelimiting_list selfDelimiting_byte ⟨hdata, fun _ _ => trivial⟩
    ⟨hdata', fun _ _ => trivial⟩ hlists
  obtain ⟨rfl, hrest⟩ := selfDelimiting_list selfDelimiting_key ⟨haccounts, fun _ _ => trivial⟩
    ⟨haccounts', fun _ _ => trivial⟩ hkeys
  exact ⟨rfl, hrest⟩

/-! ### Operations -/

namespace Operation

/-- The lengths in an operation can be written in 64 bits, as those of all lists in memory can. -/
def Fits (op : Operation) : Prop := op.calls.length < UInt64.size ∧ ∀ call ∈ op.calls, call.Fits

instance (op : Operation) : Decidable op.Fits := inferInstanceAs (Decidable (_ ∧ _))

/-- Two operations ask for the same: they agree on everything but the signature. -/
structure AsksSame (a b : Operation) : Prop where
  /-- They are for one account. -/
  account : a.account = b.account
  /-- They have the same turn. -/
  nonce : a.nonce = b.nonce
  /-- They have the same calls, in the same order. -/
  calls : a.calls = b.calls
  /-- They name the same sponsor, or none. -/
  paymaster : a.paymaster = b.paymaster

variable {a b : Operation}

theorem asksSame_iff_eq_of_signature :
    a.AsksSame b ↔ b = { a with signature := b.signature } := by
  obtain ⟨account, nonce, calls, paymaster, signature⟩ := a
  obtain ⟨account', nonce', calls', paymaster', signature'⟩ := b
  constructor
  · rintro ⟨rfl, rfl, rfl, rfl⟩
    rfl
  · rintro ⟨⟩
    exact ⟨rfl, rfl, rfl, rfl⟩

/-- The signature is no part of the encoding. -/
theorem AsksSame.encoding_eq (h : a.AsksSame b) : a.encoding = b.encoding := by
  rw [encoding, encoding, h.account, h.nonce, h.calls, h.paymaster]

/-- At the front of a string, an encoding tells the operation and what follows. -/
theorem asksSame_of_encoding_append (ha : a.Fits) (hb : b.Fits) {r s : List UInt8}
    (h : a.encoding ++ r = b.encoding ++ s) : a.AsksSame b ∧ r = s := by
  simp only [encoding, List.append_assoc] at h
  obtain ⟨haccount, h⟩ := Encode.selfDelimiting_key trivial trivial h
  obtain ⟨hnonce, h⟩ := Encode.word_append_inj h
  obtain ⟨hcalls, h⟩ := Encode.selfDelimiting_list Encode.selfDelimiting_call ha hb h
  obtain ⟨hpaymaster, h⟩ := Encode.selfDelimiting_option Encode.selfDelimiting_key
    (fun _ _ => trivial) (fun _ _ => trivial) h
  exact ⟨⟨haccount, hnonce, hcalls, hpaymaster⟩, h⟩

theorem encoding_eq_iff (ha : a.Fits) (hb : b.Fits) : a.encoding = b.encoding ↔ a.AsksSame b := by
  refine ⟨fun h => ?_, AsksSame.encoding_eq⟩
  have hfront : a.encoding ++ [] = b.encoding ++ [] := by rw [h]
  exact (asksSame_of_encoding_append ha hb hfront).1

/-- No encoding is the beginning of another. -/
theorem encoding_eq_of_isPrefix (ha : a.Fits) (hb : b.Fits) (h : a.encoding <+: b.encoding) :
    a.encoding = b.encoding := by
  obtain ⟨rest, hrest⟩ := h
  rw [← List.append_nil b.encoding] at hrest
  exact (asksSame_of_encoding_append ha hb hrest).1.encoding_eq

/-- Signing does not change what is signed. -/
theorem message_sign (scheme : SignatureScheme) (secret : List UInt8) (op : Operation) :
    (op.sign scheme secret).message = op.message := rfl

/-- **What is signed covers every field** but the signature.

* Two operations are encoded alike exactly when they agree on the account, the nonce, the whole list
  of calls and the sponsor, and neither encoding is the beginning of the other unless they are
  equal.
* So, unless their encodings are a collision of the digest, they share a message exactly when they
  differ in the signature at most.
* Signing leaves the message as it is. -/
theorem message_covers_every_field (ha : a.Fits) (hb : b.Fits) :
    (a.encoding = b.encoding ↔ a.AsksSame b) ∧
    (a.encoding <+: b.encoding ∨ b.encoding <+: a.encoding → a.encoding = b.encoding) ∧
    ((Sha256.digest a.encoding = Sha256.digest b.encoding → a.encoding = b.encoding) →
      (a.message = b.message ↔ b = { a with signature := b.signature })) ∧
    ∀ scheme secret, (a.sign scheme secret).message = a.message := by
  have hencoding := encoding_eq_iff ha hb
  refine ⟨hencoding, ?_, fun hdigest => ?_, fun scheme secret => a.message_sign scheme secret⟩
  · rintro (hfront | hfront)
    · exact encoding_eq_of_isPrefix ha hb hfront
    · exact (encoding_eq_of_isPrefix hb ha hfront).symm
  · rw [← asksSame_iff_eq_of_signature, ← hencoding]
    exact ⟨hdigest, congrArg Sha256.digest⟩

/-- An operation with one call, to which a key is attached as data. -/
def keyAsData : Operation where
  account := ⟨List.replicate 32 5, by simp⟩
  nonce := 7
  calls := [⟨.zero, 1, List.replicate 32 9, []⟩]
  paymaster := none
  signature := .zero

/-- The same, but for the place of the key: it is an account of the call. -/
def keyAsAccount : Operation :=
  { keyAsData with calls := [⟨.zero, 1, [], [⟨List.replicate 32 9, by simp⟩]⟩] }

/-- The key has moved to the neighbouring list, and the strings have the same length; they differ
all the same, and so do the messages. -/
theorem keyAsData_told_apart :
    keyAsData.encoding.length = keyAsAccount.encoding.length ∧
      keyAsData.encoding ≠ keyAsAccount.encoding ∧
      ¬ keyAsData.encoding <+: keyAsAccount.encoding ∧
      keyAsData.message ≠ keyAsAccount.message := by
  have hcovers := message_covers_every_field (a := keyAsData) (b := keyAsAccount) (by decide)
    (by decide)
  have hne : keyAsData.encoding ≠ keyAsAccount.encoding := fun h =>
    absurd (hcovers.1.mp h).calls (by decide)
  have hapart : ¬ Sha256.digest keyAsData.encoding = Sha256.digest keyAsAccount.encoding := by
    decide +kernel
  have hmessage := hcovers.2.2.1 fun h => absurd h hapart
  exact ⟨by decide +kernel, hne, fun hfront => hne (hcovers.2.1 (.inl hfront)),
    fun h => absurd (hmessage.mp h) (by decide)⟩

end Operation

end SpendGuard
