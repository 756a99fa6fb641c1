import MultiWallet.Proofs.Switching
import MultiWallet.Proofs.TypedRecords

/-!
Choices of modes on a store that cannot always be written. A choice that could not be
written is kept in memory, and the next write that succeeds takes along all the choices
that were made up to then. Whatever else is in the record, and was perhaps written there
by a later version of the program, goes through all that unchanged.
-/

namespace MultiWallet

variable {σ : Type}

/-- What a store holds under a key, as far as writes go: each of them fails without effect, or
is answered with a record of what was written, which the store holds from then on. -/
structure Store.Holds (store : Store σ) (key : String) (stored : σ → Option RawRecord) : Prop where
  fails : ∀ {value : Bytes} {version : Nat} {s after : σ} {fault : ReplicaError},
    store.set key value version s = (.error fault, after) → stored after = stored s
  writes : ∀ {value : Bytes} {version : Nat} {s after : σ} {raw : RawRecord},
    store.set key value version s = (.ok raw, after) → raw.value = value ∧ stored after = some raw

/-- Connection settings in front of a store. -/
structure Notebook (σ : Type) where
  settings : ConnectionSettings
  state : σ

/-- What is done with connection settings: a mode is chosen, or one is asked for that is
supported. In between the store goes its own way. -/
inductive Use (σ : Type) where
  | choose (uid : CurrencyId) (mode : ManagerMode)
  | ask (uid : CurrencyId) (supported : ManagerMode → Bool)
  | elsewhere (state : σ)

/-- A mode that is chosen for a currency. -/
abbrev Pick := CurrencyId × ManagerMode

namespace ConnectionSettings

/-- What a use chooses. Asking for a mode chooses the standard one, unless another is stored
that can be used. -/
def pick? (settings : ConnectionSettings) : Use σ → Option Pick
  | .choose uid mode => some (uid, mode)
  | .ask uid supported =>
    if (settings.usable? uid supported).isSome then none else some (uid, .standardFor uid)
  | .elsewhere _ => none

/-- The latest choice for a currency. -/
def latest? (uid : CurrencyId) (picks : List Pick) : Option ManagerMode :=
  ((picks.filter (·.1 == uid)).getLast?).map (·.2)

/-- Some settings are others with the choices that were made in between, of which the latest
counts for each currency. All else is as it was, and so are the numbers of other currencies,
whether or not they stand for a mode. -/
structure Remembers (settings earlier : ConnectionSettings) (picks : List Pick) : Prop where
  classVersion : settings.info.value.classVersion = earlier.info.value.classVersion
  name : settings.info.value.name = earlier.info.value.name
  creationDate : settings.info.value.creationDate = earlier.info.value.creationDate
  numbers : ∀ uid, settings.number? uid =
    ((latest? uid picks).map (·.number)).or (earlier.number? uid)

theorem latest?_append (uid : CurrencyId) (picks others : List Pick) :
    latest? uid (picks ++ others) = (latest? uid others).or (latest? uid picks) := by
  rw [latest?, List.filter_append, List.getLast?_append, Option.map_or, latest?, latest?]

namespace Remembers

variable {settings earlier first : ConnectionSettings} {picks others : List Pick}

theorem refl (settings : ConnectionSettings) : settings.Remembers settings [] :=
  ⟨rfl, rfl, rfl, fun _ => rfl⟩

theorem trans (h : settings.Remembers earlier others) (h' : earlier.Remembers first picks) :
    settings.Remembers first (picks ++ others) where
  classVersion := h.classVersion.trans h'.classVersion
  name := h.name.trans h'.name
  creationDate := h.creationDate.trans h'.creationDate
  numbers uid := by
    rw [h.numbers, h'.numbers, latest?_append, Option.map_or, Option.or_assoc]

/-- A choice that is noted is remembered, and nothing else changes. -/
theorem note (settings : ConnectionSettings) (uid : CurrencyId) (mode : ManagerMode) :
    (settings.note uid mode).Remembers settings [(uid, mode)] where
  classVersion := rfl
  name := rfl
  creationDate := rfl
  numbers other := by
    change (settings.info.value.modes.insert uid mode.number)[other]? = _
    rw [Std.ExtTreeMap.getElem?_insert, latest?]
    by_cases same : uid = other
    · subst same
      simp
    · rw [if_neg fun eq => same (Std.LawfulEqOrd.eq_of_compare eq)]
      simp [same]
      rfl

end Remembers

/-- What is noted anew need not be forgotten before. -/
theorem note_sanitize (settings : ConnectionSettings) (uid : CurrencyId)
    (supported : ManagerMode → Bool) (mode : ManagerMode) :
    (settings.sanitize uid supported).2.note uid mode = settings.note uid mode := by
  rw [sanitize]
  split
  · have again : (settings.info.value.modes.erase uid).insert uid mode.number =
        settings.info.value.modes.insert uid mode.number := by
      refine Std.ExtTreeMap.ext_getElem? fun other => ?_
      simp only [Std.ExtTreeMap.getElem?_insert, Std.ExtTreeMap.getElem?_erase]
      split <;> rfl
    exact congrArg settings.withModes again
  · rfl

variable {store : Store σ} {stored : σ → Option RawRecord}

/-- A choice is written with all else that is in memory, and what is in memory is then the
record that the store holds; or it is kept in memory alone. -/
theorem choose_cases (holds : store.Holds (Persisted.key WalletInfo) stored)
    (settings : ConnectionSettings) (uid : CurrencyId) (mode : ManagerMode) (s : σ) :
    (∃ fault after,
        store.set (Persisted.key WalletInfo) (Persisted.encode (settings.note uid mode).info.value)
            settings.version s = (.error fault, after) ∧
          settings.choose store uid mode s = (.error fault, settings.note uid mode, after) ∧
          stored after = stored s) ∨
      ∃ raw after,
        store.set (Persisted.key WalletInfo) (Persisted.encode (settings.note uid mode).info.value)
            settings.version s = (.ok raw, after) ∧
          settings.choose store uid mode s =
            (.ok (), ⟨raw.withValue (settings.note uid mode).info.value⟩, after) ∧
          stored after = some raw ∧
          raw.decoded = .ok (raw.withValue (settings.note uid mode).info.value) := by
  have version : (settings.note uid mode).version = settings.version := rfl
  rw [choose, save, Store.save, version]
  rcases written : store.set (Persisted.key WalletInfo)
    (Persisted.encode (settings.note uid mode).info.value) settings.version s with
    ⟨fault | raw, after⟩
  · exact .inl ⟨fault, after, rfl, rfl, holds.fails written⟩
  · obtain ⟨bytes, kept⟩ := holds.writes written
    have decoded := Record.decoded_eq (WalletInfo.decode?_encode _) bytes
    refine .inr ⟨raw, after, rfl, ?_, kept, decoded⟩
    dsimp only
    rw [decoded]

theorem remembers_choose (holds : store.Holds (Persisted.key WalletInfo) stored)
    (settings : ConnectionSettings) (uid : CurrencyId) (mode : ManagerMode) (s : σ) :
    (settings.choose store uid mode s).2.1.Remembers settings [(uid, mode)] := by
  have noted := Remembers.note settings uid mode
  rcases choose_cases holds settings uid mode s with
    ⟨fault, after, -, chosen, -⟩ | ⟨raw, after, -, chosen, -⟩ <;> rw [chosen]
  · exact noted
  · exact ⟨noted.classVersion, noted.name, noted.creationDate, noted.numbers⟩

end ConnectionSettings

namespace Notebook

open ConnectionSettings

/-- The settings as they are read from a store. -/
def opened (store : Store σ) (s : σ) : Notebook σ := ⟨(load store s).1, (load store s).2⟩

/-- The notebook after a use. -/
def after (store : Store σ) (notebook : Notebook σ) : Use σ → Notebook σ
  | .choose uid mode =>
    let (_, settings, state) := notebook.settings.choose store uid mode notebook.state
    ⟨settings, state⟩
  | .ask uid supported =>
    let (_, settings, state) := notebook.settings.modeFor store uid supported notebook.state
    ⟨settings, state⟩
  | .elsewhere state => ⟨notebook.settings, state⟩

/-- The notebook after some uses in order. -/
def run (store : Store σ) (notebook : Notebook σ) (uses : List (Use σ)) : Notebook σ :=
  uses.foldl (after store) notebook

/-- The choices that come with some uses. -/
def picks (store : Store σ) (notebook : Notebook σ) : List (Use σ) → List Pick
  | [] => []
  | use :: rest =>
    (notebook.settings.pick? use).toList ++ (notebook.after store use).picks store rest

/-- How the store answers the write that comes with a use, if one does. -/
def write? (store : Store σ) (notebook : Notebook σ) (use : Use σ) :
    Option (Except ReplicaError RawRecord × σ) :=
  (notebook.settings.pick? use).map fun (uid, mode) =>
    store.set (Persisted.key WalletInfo)
      (Persisted.encode (notebook.settings.note uid mode).info.value) notebook.settings.version
      notebook.state

variable {store : Store σ} {stored : σ → Option RawRecord} {notebook : Notebook σ} {use : Use σ}

/-- Asking for a mode chooses one or does nothing. -/
theorem after_of_some {uid : CurrencyId} {mode : ManagerMode}
    (picked : notebook.settings.pick? use = some (uid, mode)) :
    notebook.after store use =
      ⟨(notebook.settings.choose store uid mode notebook.state).2.1,
        (notebook.settings.choose store uid mode notebook.state).2.2⟩ := by
  cases use with
  | choose uid' mode' =>
      cases picked
      rfl
  | ask uid' supported =>
      rw [pick?] at picked
      split at picked
      · cases picked
      · rename_i unusable
        cases picked
        have none : notebook.settings.usable? uid supported = none := by simpa using unusable
        rw [after, modeFor_of_none none, ConnectionSettings.choose, note_sanitize]
        rfl
  | elsewhere state => cases picked

theorem after_of_none (unpicked : notebook.settings.pick? use = none) :
    (notebook.after store use).settings = notebook.settings ∧
      ((notebook.after store use).state = notebook.state ∨
        use = .elsewhere (notebook.after store use).state) := by
  cases use with
  | choose uid mode => cases unpicked
  | ask uid supported =>
      rw [pick?] at unpicked
      split at unpicked
      · rename_i usable
        obtain ⟨mode, usable⟩ := Option.isSome_iff_exists.1 usable
        rw [after, modeFor_of_some usable]
        exact ⟨rfl, .inl rfl⟩
      · cases unpicked
  | elsewhere state => exact ⟨rfl, .inr rfl⟩

theorem remembers_after (holds : store.Holds (Persisted.key WalletInfo) stored)
    (notebook : Notebook σ) (use : Use σ) :
    (notebook.after store use).settings.Remembers notebook.settings
      (notebook.settings.pick? use).toList := by
  cases picked : notebook.settings.pick? use with
  | none =>
      rw [(after_of_none picked).1]
      exact .refl _
  | some pick =>
      rw [after_of_some picked]
      exact remembers_choose holds _ _ _ _

theorem remembers_run (holds : store.Holds (Persisted.key WalletInfo) stored)
    (notebook : Notebook σ) (uses : List (Use σ)) :
    (notebook.run store uses).settings.Remembers notebook.settings (notebook.picks store uses) := by
  induction uses generalizing notebook with
  | nil => exact .refl _
  | cons use rest ih => exact (ih _).trans (remembers_after holds notebook use)

/-- A write comes with a choice. -/
theorem write?_eq_some {answer : Except ReplicaError RawRecord × σ}
    (written : notebook.write? store use = some answer) : ∃ uid mode,
      notebook.settings.pick? use = some (uid, mode) ∧
        store.set (Persisted.key WalletInfo)
          (Persisted.encode (notebook.settings.note uid mode).info.value) notebook.settings.version
          notebook.state = answer := by
  obtain ⟨⟨uid, mode⟩, picked, done⟩ := Option.map_eq_some_iff.1 written
  exact ⟨uid, mode, picked, done⟩

theorem after_of_written (holds : store.Holds (Persisted.key WalletInfo) stored)
    {raw : RawRecord} {state : σ} (written : notebook.write? store use = some (.ok raw, state)) :
    (notebook.after store use).state = state ∧ stored state = some raw ∧
      raw.decoded = .ok (notebook.after store use).settings.info := by
  obtain ⟨uid, mode, picked, done⟩ := write?_eq_some written
  rw [after_of_some picked]
  rcases choose_cases holds notebook.settings uid mode notebook.state with
    ⟨fault, after, failed, -, -⟩ | ⟨raw', after, done', chosen, kept, decoded⟩
  · cases done.symm.trans failed
  · cases done.symm.trans done'
    rw [chosen]
    exact ⟨rfl, kept, decoded⟩

theorem after_of_unwritten (holds : store.Holds (Persisted.key WalletInfo) stored)
    {fault : ReplicaError} {state : σ}
    (unwritten : notebook.write? store use = some (.error fault, state)) :
    (notebook.after store use).state = state ∧ stored state = stored notebook.state ∧
      (notebook.after store use).settings.version = notebook.settings.version := by
  obtain ⟨uid, mode, picked, failed⟩ := write?_eq_some unwritten
  rw [after_of_some picked]
  rcases choose_cases holds notebook.settings uid mode notebook.state with
    ⟨fault', after, failed', chosen, kept⟩ | ⟨raw, after, done, -, -, -⟩
  · cases failed.symm.trans failed'
    rw [chosen]
    exact ⟨rfl, kept, rfl⟩
  · cases failed.symm.trans done

end Notebook

/-- On a store whose writes may fail, the settings always are what was loaded with the latest
choices. If the write that comes with a use succeeds, the store holds just what is in memory
from then on, the choices included whose own writes failed; if it fails, the stored record and
the version stay as they are. -/
theorem choices_survive_failed_writes {store : Store σ} {stored : σ → Option RawRecord}
    (holds : store.Holds (Persisted.key WalletInfo) stored) (s : σ) (uses : List (Use σ)) :
    let opened := Notebook.opened store s
    let now := opened.run store uses
    now.settings.Remembers opened.settings (opened.picks store uses) ∧
      ∀ use,
        let next := now.after store use
        (∀ raw state, now.write? store use = some (.ok raw, state) →
          next.state = state ∧ stored state = some raw ∧
            raw.decoded = .ok next.settings.info) ∧
        (∀ fault state, now.write? store use = some (.error fault, state) →
          next.state = state ∧ stored state = stored now.state ∧
            next.settings.version = now.settings.version) ∧
        (now.write? store use = none → next.settings = now.settings ∧
          (next.state = now.state ∨ use = .elsewhere next.state)) := by
  intro opened now
  refine ⟨Notebook.remembers_run holds opened uses, fun use => ⟨fun _ _ => ?_, fun _ _ => ?_, ?_⟩⟩
  · exact Notebook.after_of_written holds
  · exact Notebook.after_of_unwritten holds
  · exact fun unwritten => Notebook.after_of_none (Option.map_eq_none_iff.1 unwritten)

/-- Memory that takes no writes while it is busy. -/
def Memory.faltering : Store (Memory × Bool) where
  get key s := (s.1.get key, s)
  set key value version s :=
    if s.2 then (.error (.unavailable "busy"), s)
    else ((s.1.set key value version).1, (s.1.set key value version).2, false)

theorem Memory.faltering_set (memory : Memory) (key : String) (value : Bytes) (version : Nat) :
    Memory.faltering.set key value version (memory, false) =
      ((memory.set key value version).1, (memory.set key value version).2, false) := rfl

theorem Memory.faltering_holds (key : String) :
    Memory.faltering.Holds key fun s => s.1.records[key]? where
  fails := by
    rintro value version ⟨memory, _ | _⟩ after fault failed
    · rw [faltering_set, Memory.set] at failed
      split at failed
      · cases failed
      · cases failed
        rfl
    · cases failed
      rfl
  writes := by
    rintro value version ⟨memory, _ | _⟩ after raw done
    · rw [faltering_set, Memory.set] at done
      split at done
      · cases done
        exact ⟨rfl, Std.ExtTreeMap.getElem?_insert_self⟩
      · cases done
    · cases done

/-- A mode that could not be written is written with the next one, beside a number that stands
for no mode. -/
theorem unwritten_choice_written_later :
    let bitcoin : CurrencyId := ⟨"bitcoin-mainnet:__native__"⟩
    let ethereum : CurrencyId := ⟨"ethereum-mainnet:__native__"⟩
    let ripple : CurrencyId := ⟨"ripple-mainnet:__native__"⟩
    let info : WalletInfo := { WalletInfo.standard with modes := Table.ofPairs [(ripple, 77)] }
    let memory : Memory := { Memory.empty with
      records := Table.ofPairs [("wallet-info",
        ⟨"wallet-info", 4, .epoch, false, Persisted.encode info⟩)] }
    let opened := Notebook.opened Memory.faltering (memory, true)
    let now := opened.run Memory.faltering [.choose ethereum .p2pOnly, .elsewhere (memory, false)]
    let next := now.after Memory.faltering (.ask bitcoin fun _ => true)
    now.settings.version = 4 ∧
      ∃ raw, next.state.1.records["wallet-info"]? = some raw ∧
        raw.decoded = .ok next.settings.info ∧ next.settings.version = 5 ∧
        next.settings.number? bitcoin = some ManagerMode.p2pOnly.number ∧
        next.settings.number? ethereum = some ManagerMode.p2pOnly.number ∧
        next.settings.number? ripple = some 77 := by
  intro bitcoin ethereum ripple info memory opened now next
  have picked : now.settings.pick? (.ask bitcoin fun _ => true : Use (Memory × Bool)) =
      some (bitcoin, .p2pOnly) := by decide +kernel
  obtain ⟨raw, state, written⟩ : ∃ raw state,
      now.write? Memory.faltering (.ask bitcoin fun _ => true) = some (.ok raw, state) := by
    rw [Notebook.write?, picked]
    exact ⟨_, _, rfl⟩
  have outcome := ((choices_survive_failed_writes
    (Memory.faltering_holds (Persisted.key WalletInfo)) (memory, true)
    [.choose ethereum .p2pOnly, .elsewhere (memory, false)]).2 (.ask bitcoin fun _ => true)).1
  have isNext : (Notebook.run Memory.faltering (Notebook.opened Memory.faltering (memory, true))
      [.choose ethereum .p2pOnly, .elsewhere (memory, false)]).after Memory.faltering
        (.ask bitcoin fun _ => true) = next := rfl
  rw [isNext] at outcome
  obtain ⟨same, kept, decoded⟩ := outcome raw state written
  refine ⟨by decide +kernel, raw, ?_, decoded, ?_⟩
  · exact (congrArg (fun s : Memory × Bool => s.1.records["wallet-info"]?) same).trans kept
  · decide +kernel

end MultiWallet
