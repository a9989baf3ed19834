import SpendGuard.Command.Perform
import SpendGuard.Proofs.Codec.RoundTrip
import SpendGuard.Proofs.Ledger.Trace

/-!
# Saving and loading an account

A saved account is loaded as it was, whatever its keys, numbers and options are
(`Ledger.load_save`), also by way of a file (`Command.loadLedger_saveLedger`); and so is every other
value that is both written and read (`KeptByText`). What is saved is all that an account's replies
depend on, apart from the executor and the clock. So it makes no difference to an account in service
when it is saved and another one, loaded from what was saved, takes its place
(`Ledger.serve_filter_isReload`).
-/

namespace SpendGuard

/-! ### Texts -/

/-- Every value of a type is read back from its text, in any layout that adds only blanks; the
compact and the indented one are such layouts. -/
def KeptByText (α : Type) [Coded α] : Prop :=
  ∀ {layout : Json.Layout}, layout.Blank → ∀ a : α,
    (Json.Value.parse? ((encode a).render layout)).bind decode? = some a

theorem keptByText (α : Type) [Coded α] [Faithful α] : KeptByText α :=
  fun hlayout a => decode?_parse?_render hlayout a

/-! ### Files -/

section File

variable {folder : Folder} {path name : String}

/-- A path that leads to a file still leads there when something has been put into it. -/
theorem Folder.spot_put (h : folder.spot path = .file name) (content : String) :
    Folder.spot (Table.put folder name content) path = .file name := by
  unfold spot at h ⊢
  split at h
  · cases h
  next hpath =>
  rw [if_neg hpath]
  split at h
  · cases h
  · cases h
    rfl
  · split at h <;> cases h

/-- **What is saved to a file is loaded from it.** -/
theorem Command.loadLedger_saveLedger (h : folder.spot path = .file name) (l : Ledger) :
    ∃ printed kept, (saveLedger path l).runIn folder = (.ok (), printed, kept) ∧
      (loadLedger path).runIn kept = (.ok l, "", kept) := by
  have hstored : folder.store path l.save = .ok (Table.put folder name l.save) := by
    rw [Folder.store, h]
  have hfound : Folder.contentOf (Table.put folder name l.save) path = .ok l.save := by
    rw [Folder.contentOf, Folder.spot_put h]
    simp only [Table.get?_put_self]
  have hsaved : (saveLedger path l).runIn folder =
      (.ok (), ((Script.lines ["", s!"Saved to {path}"]).runIn folder).2.1,
        Table.put folder name l.save) := by
    simp only [saveLedger, Script.store, bind, Script.bind, Script.runIn, hstored]
    rfl
  have hloaded : (loadLedger path).runIn (Table.put folder name l.save) =
      (.ok l, "", Table.put folder name l.save) := by
    simp only [loadLedger, Script.contentOf, bind, Script.bind, Script.runIn, hfound, pure,
      Ledger.load_save]
  exact ⟨_, _, hsaved, hloaded⟩

end File

/-! ### Service -/

/-- What happens to an account in service. -/
inductive Happening (σ : Type) where
  /-- It is asked for something, or looked at. -/
  | interaction (attempt : Attempt σ Interaction)
  /-- It is saved, and the account that is loaded from what was saved takes its place. -/
  | reload

/-- Whether an account is replaced by a loaded one. -/
def Happening.isReload {σ : Type} : Happening σ → Bool
  | .reload => true
  | .interaction _ => false

/-- What is seen of an account with each interaction. -/
structure Sighting where
  /-- What the account replied. -/
  reply : Except Error Grant ⊕ Finding
  /-- What it remembers from then on. -/
  state : State
deriving DecidableEq

/-- How service went: everything that was seen, and where everything ends up. -/
structure Transcript (σ : Type) where
  /-- What was seen, in order. -/
  sightings : List Sighting
  /-- The account afterwards. -/
  ledger : Ledger
  /-- The executors' world afterwards. -/
  world : σ

namespace Ledger

variable {σ : Type}

/-- Serves an account; there is no going on with an account that cannot be loaded. -/
def serve (l : Ledger) (world : σ) : List (Happening σ) → Except Error (Transcript σ)
  | [] => .ok ⟨[], l, world⟩
  | .interaction ⟨x, now, interaction⟩ :: rest =>
    let (reply, l, world) := l.attend x now world interaction
    (serve l world rest).map fun t => { t with sightings := ⟨reply, l.state⟩ :: t.sightings }
  | .reload :: rest =>
    match load l.save with
    | .error e => .error e
    | .ok l => serve l world rest

theorem serve_interaction (l : Ledger) (world : σ) (x : Executor σ) (now : Instant)
    (interaction : Interaction) (rest : List (Happening σ)) :
    l.serve world (.interaction ⟨x, now, interaction⟩ :: rest) =
      (serve (l.attend x now world interaction).2.1 (l.attend x now world interaction).2.2
        rest).map fun t =>
          { t with sightings := ⟨(l.attend x now world interaction).1,
              (l.attend x now world interaction).2.1.state⟩ :: t.sightings } := rfl

theorem serve_reload (l : Ledger) (world : σ) (rest : List (Happening σ)) :
    l.serve world (.reload :: rest) = l.serve world rest := by
  rw [serve, load_save]

/-- Saving and loading can be left out of any service. -/
theorem serve_filter_isReload (l : Ledger) (world : σ) (happenings : List (Happening σ)) :
    l.serve world (happenings.filter fun h => !h.isReload) = l.serve world happenings := by
  induction happenings generalizing l world with
  | nil => rfl
  | cons h rest ih =>
    cases h with
    | interaction attempt =>
      obtain ⟨x, now, interaction⟩ := attempt
      rw [List.filter_cons_of_pos (by rfl), serve_interaction, serve_interaction, ih]
    | reload => rw [List.filter_cons_of_neg (by simp [Happening.isReload]), ih, serve_reload]

/-- Service always goes on: whatever is saved can be loaded. -/
theorem isOk_serve (l : Ledger) (world : σ) (happenings : List (Happening σ)) :
    (l.serve world happenings).isOk = true := by
  induction happenings generalizing l world with
  | nil => rfl
  | cons h rest ih =>
    cases h with
    | interaction attempt =>
      obtain ⟨x, now, interaction⟩ := attempt
      rw [serve_interaction, isOk_map]
      exact ih _ _
    | reload =>
      rw [serve_reload]
      exact ih l world

/-- **Persistence is transparent.**

* A saved account is loaded as it was, from its text and from any file that it was saved to.
* Every value that is both written and read is read back from its text.
* However often an account in service is saved and replaced by the one that is loaded from what was
  saved, on the same executors and clock: it always can be, and every reply, every state stored
  after a reply, the account and the executors' world in the end are those of a service without any
  of this. -/
theorem persistence_transparent (l : Ledger) (world : σ) :
    (load l.save = .ok l ∧ ∀ folder path name, Folder.spot folder path = .file name →
      ∃ printed kept, (Command.saveLedger path l).runIn folder = (.ok (), printed, kept) ∧
        (Command.loadLedger path).runIn kept = (.ok l, "", kept)) ∧
    (KeptByText Asset ∧ KeptByText Call ∧ KeptByText Spend ∧ KeptByText Counters ∧
      KeptByText Caps ∧ KeptByText Limits ∧ KeptByText Profile ∧ KeptByText State ∧
      KeptByText Operation ∧ KeptByText FeeSchedule ∧ KeptByText ComputeBudget) ∧
    ∀ happenings, (l.serve world happenings).isOk = true ∧
      l.serve world happenings =
        l.serve world (happenings.filter fun h => !h.isReload) := by
  refine ⟨⟨load_save l, fun _ _ _ hspot => Command.loadLedger_saveLedger hspot l⟩, ?_,
    fun happenings => ⟨isOk_serve l world happenings, ?_⟩⟩
  · exact ⟨keptByText _, keptByText _, keptByText _, keptByText _, keptByText _, keptByText _,
      keptByText _, keptByText _, keptByText _, keptByText _, keptByText _⟩
  · rw [serve_filter_isReload]

/-- An account with numbers from both ends of their ranges. -/
def extreme : Ledger where
  address := .repeating 255
  profile := { Profile.small with
    exchangeRate := 18446744073709551615
    limits := ⟨⟨0, 18446744073709551615⟩, ⟨18446744073709551615, 0⟩⟩ }
  state := ⟨⟨18446744073709551615, 0⟩, ⟨0, 18446744073709551615⟩, Int64.minValue, Int64.maxValue,
    some (-1), none⟩

/-- It is saved to a file and loaded from there, and a look at it after that finds what a look at it
without that finds. -/
theorem extreme_reloaded :
    Folder.spot [] "ledger.json" = .file "ledger.json" ∧
      (∃ printed kept, (Command.saveLedger "ledger.json" extreme).runIn [] =
          (.ok (), printed, kept) ∧
        (Command.loadLedger "ledger.json").runIn kept = (.ok extreme, "", kept)) ∧
      extreme.serve ()
          [.reload, .interaction ⟨.obliging, 0, .inquiry .cooldownUntil⟩, .reload] =
        .ok ⟨[⟨.inr (.moment (some 3599)), extreme.state⟩], extreme, ()⟩ := by
  have hkept := persistence_transparent extreme ()
  have hspot : Folder.spot [] "ledger.json" = .file "ledger.json" := rfl
  refine ⟨hspot, hkept.1.2 _ _ _ hspot, ?_⟩
  rw [(hkept.2.2 _).2]
  rfl

end Ledger

end SpendGuard
