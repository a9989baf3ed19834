import Mathlib.Algebra.Ring.Nat
import SpendGuard.Proofs.Ledger.Request

/-!
# Runs of requests

A ledger answers requests one after the other, each at an instant and on an executor of its own.
`Ledger.run` tells what was answered and where the account and the executors' world end up. The
executors are arbitrary and need not agree, so a run covers every pattern of successes and failures,
also of looking up a balance: what fails for one request may work for the next. An entry tells what
its request was answered after the requests before it (`Ledger.answer_of_getElem?_entries`), and
address and profile stay what they were (`Ledger.Outcome.sameAccount`, `Ledger.sameAccount_run`).
-/

namespace SpendGuard

/-- Something that is asked, with all that its answer depends on besides the account: when, and what
the executor is like then. -/
structure Attempt (σ α : Type) where
  /-- What serves it. -/
  executor : Executor σ
  /-- When. -/
  now : Instant
  /-- What is asked. -/
  asked : α

/-- What is asked, and when. -/
def Attempt.order {σ α : Type} (q : Attempt σ α) : Instant × α := (q.now, q.asked)

/-- Everything is asked of one executor. -/
def Executor.serving {σ α : Type} (x : Executor σ) (orders : List (Instant × α)) :
    List (Attempt σ α) :=
  orders.map fun order => ⟨x, order.1, order.2⟩

theorem Executor.serving_cons {σ α : Type} (x : Executor σ) (now : Instant) (asked : α)
    (rest : List (Instant × α)) :
    x.serving ((now, asked) :: rest) = ⟨x, now, asked⟩ :: x.serving rest := rfl

theorem Executor.map_order_serving {σ α : Type} (x : Executor σ) (orders : List (Instant × α)) :
    (x.serving orders).map Attempt.order = orders :=
  List.map_map.trans (List.map_id orders)

/-- A request that was answered. -/
structure Entry where
  /-- When. -/
  now : Instant
  /-- What was asked. -/
  request : Request
  /-- What was answered. -/
  answer : Except Error Grant
deriving DecidableEq

/-- A run: what was answered, and where everything ends up. -/
structure Course (σ : Type) where
  /-- The requests in order, with their answers. -/
  entries : List Entry
  /-- The account afterwards. -/
  ledger : Ledger
  /-- The executors' world afterwards. -/
  world : σ

namespace Course

variable {σ : Type}

/-- The receipts of everything that was counted, in order. -/
def receipts (c : Course σ) : List Receipt := c.entries.filterMap fun e => receiptOf? e.answer

/-- The receipts of the withdrawals, in order. -/
def withdrawals (c : Course σ) : List WithdrawalReceipt :=
  c.entries.filterMap fun e => withdrawalOf? e.answer

end Course

namespace Ledger

variable {σ : Type}

/-- Answers requests one after the other, each at its instant and on its executor. -/
def run (l : Ledger) (world : σ) : List (Attempt σ Request) → Course σ
  | [] => ⟨[], l, world⟩
  | ⟨x, now, request⟩ :: rest =>
    let (answer, l, world) := l.perform x now world request
    let course := run l world rest
    { course with entries := ⟨now, request, answer⟩ :: course.entries }

variable (x : Executor σ) (l : Ledger) (world : σ) (now : Instant) (request : Request)
  (rest : List (Attempt σ Request))

/-! ### One request and then the rest -/

/-- The run after the first request. -/
def runAfter : Course σ :=
  run (l.perform x now world request).2.1 (l.perform x now world request).2.2 rest

theorem run_cons :
    l.run world (⟨x, now, request⟩ :: rest) =
      ⟨⟨now, request, (l.perform x now world request).1⟩ ::
          (l.runAfter x world now request rest).entries,
        (l.runAfter x world now request rest).ledger,
        (l.runAfter x world now request rest).world⟩ := rfl

theorem entries_run_cons :
    (l.run world (⟨x, now, request⟩ :: rest)).entries =
      ⟨now, request, (l.perform x now world request).1⟩ ::
        (l.runAfter x world now request rest).entries := rfl

theorem ledger_run_cons :
    (l.run world (⟨x, now, request⟩ :: rest)).ledger =
      (l.runAfter x world now request rest).ledger := rfl

theorem world_run_cons :
    (l.run world (⟨x, now, request⟩ :: rest)).world =
      (l.runAfter x world now request rest).world := rfl

/-! ### Entries by their place -/

theorem entries_run_take (attempts : List (Attempt σ Request)) (n : Nat) :
    (l.run world (attempts.take n)).entries = (l.run world attempts).entries.take n := by
  induction attempts generalizing l world n with
  | nil => rw [List.take_nil, run, List.take_nil]
  | cons q rest ih =>
    obtain ⟨x, now, request⟩ := q
    cases n with
    | zero => rfl
    | succ n => rw [List.take_succ_cons, entries_run_cons, entries_run_cons, List.take_succ_cons,
        runAfter, runAfter, ih]

variable {l world} {attempts : List (Attempt σ Request)} {n : Nat} {e : Entry}

/-- An entry tells what its request was answered after the requests before it. -/
theorem answer_of_getElem?_entries (he : (l.run world attempts).entries[n]? = some e) :
    ∃ x, e.answer = ((l.run world (attempts.take n)).ledger.perform x e.now
      (l.run world (attempts.take n)).world e.request).1 := by
  induction attempts generalizing l world n with
  | nil => cases he
  | cons q rest ih =>
    obtain ⟨x, now, request⟩ := q
    cases n with
    | zero =>
      obtain rfl : _ = e := Option.some.inj he
      exact ⟨x, rfl⟩
    | succ n => exact ih he

theorem exists_outcome_of_getElem?_entries (he : (l.run world attempts).entries[n]? = some e) :
    ∃ x l' world', Outcome x (l.run world (attempts.take n)).ledger e.now
      (l.run world (attempts.take n)).world e.request e.answer l' world' := by
  obtain ⟨x, hanswer⟩ := answer_of_getElem?_entries he
  rw [hanswer]
  exact ⟨x, _, _, outcome_perform ..⟩

variable (l world)

/-! ### What never changes -/

/-- Two states of one account: what is fixed about it agrees. -/
structure SameAccount (l l' : Ledger) : Prop where
  /-- It is where it was. -/
  address : l'.address = l.address
  /-- Its profile is what it was. -/
  profile : l'.profile = l.profile

theorem SameAccount.refl (l : Ledger) : l.SameAccount l := ⟨rfl, rfl⟩

theorem SameAccount.trans {l l' l'' : Ledger} (h : l.SameAccount l') (h' : l'.SameAccount l'') :
    l.SameAccount l'' :=
  ⟨h'.address.trans h.address, h'.profile.trans h.profile⟩

/-- No request moves an account or changes its profile. -/
theorem Outcome.sameAccount {x : Executor σ} {l l' : Ledger} {now : Instant} {world world' : σ}
    {request : Request} {answer : Except Error Grant}
    (h : Outcome x l now world request answer l' world') : l.SameAccount l' := by
  cases h <;> exact ⟨rfl, rfl⟩

/-- No run does either. -/
theorem sameAccount_run (attempts : List (Attempt σ Request)) :
    l.SameAccount (l.run world attempts).ledger := by
  induction attempts generalizing l world with
  | nil => exact .refl l
  | cons q rest ih =>
    obtain ⟨x, now, request⟩ := q
    have hstep := (l.outcome_perform x now world request).sameAccount
    exact hstep.trans (ih _ _)

end Ledger

/-! ### A small account

Data for examples: an account that may spend ten lamports and twenty token units a day, executors
that carry out everything, and a chain on which the account holds something. -/

/-- The key that repeats one byte. -/
def Key.repeating (b : UInt8) : Key := ⟨List.replicate 32 b, by simp⟩

/-- The profile of a small account. -/
def Profile.small : Profile where
  owner := .repeating 1
  dispatcher := .repeating 2
  sponsor := .repeating 3
  tokenMint := .repeating 4
  tokenProgram := Token.standardProgram
  exchangeRate := 1000000000
  limits := ⟨⟨10, 50⟩, ⟨20, 100⟩⟩

/-- A small account with nothing spent, its windows anchored at an instant. -/
def Ledger.small (now : Instant) : Ledger := .fresh (.repeating 5) .small now

/-- An executor that carries out everything and holds nothing. -/
def Executor.obliging : Executor Unit where
  execute _ _ _ := (.ok .zero, ())
  lamportsOf _ _ := .ok 0
  tokensIn _ _ := .ok 0
  chargeFee _ _ _ := (.ok (), ())

/-- An executor that carries out everything too, but fails to tell balances. -/
def Executor.blind : Executor Unit :=
  { Executor.obliging with
    lamportsOf _ _ := .error (.callFailed (.stated "no answer"))
    tokensIn _ _ := .error (.callFailed (.stated "no answer")) }

/-- A chain on which the small account has a hundred lamports and forty token units. -/
def Chain.funded : Chain where
  tokenProgram := Token.standardProgram
  lamports := [(.repeating 5, 100)]
  tokenAccounts := [(.repeating 7, ⟨.repeating 5, 40⟩), (.repeating 8, ⟨.repeating 6, 0⟩)]
  failing := []
  transactions := []

end SpendGuard
