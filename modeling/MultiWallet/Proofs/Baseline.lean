import MultiWallet.Proofs.Editing
import MultiWallet.Replica.Memory

/-!
The baseline of a collection on a store in memory. Loading ends with the stored
index as the baseline, saving makes the two the same again under a higher version,
and a look at the store brings the baseline up to it. None of these takes the store
back to a lower version.
-/

namespace MultiWallet

namespace Record

variable {α : Type}

/-- A record comes before itself and before those of higher versions. -/
def Precedes (older newer : Record α) : Prop := older = newer ∨ older.version < newer.version

namespace Precedes

variable {first second third : Record α}

theorem refl (record : Record α) : Precedes record record := .inl rfl

theorem version_le (h : Precedes first second) : first.version ≤ second.version := by
  rcases h with rfl | less
  · exact Nat.le_refl _
  · exact Nat.le_of_lt less

theorem trans (h : Precedes first second) (h' : Precedes second third) : Precedes first third := by
  rcases h with rfl | less
  · exact h'
  · exact .inr (Nat.lt_of_lt_of_le less h'.version_le)

theorem eq_of_le (h : Precedes first second) (le : second.version ≤ first.version) :
    first = second :=
  h.resolve_right (Nat.not_lt.2 le)

end Precedes

end Record

namespace Store

variable {σ : Type} {store : Store σ}

/-- The object of a type in a store, if there is one that can be read. -/
def found? (store : Store σ) (α : Type) [Persisted α] (s : σ) : Option (Record α) :=
  (store.load (α := α) s).1.toOption.join

variable {α : Type} [Persisted α]

/-- A store that is left alone by reading answers in the state that it is in. -/
theorem load_of_still (still : ∀ key s, (store.get key s).2 = s) (s : σ) :
    ∃ answer, store.load (α := α) s = (answer, s) ∧ store.found? α s = answer.toOption.join := by
  refine ⟨(store.load s).1, Prod.ext rfl ?_, rfl⟩
  have same := still (Persisted.key α) s
  rw [load]
  rcases read : store.get (Persisted.key α) s with ⟨fault | raw, after⟩ <;>
    rw [read] at same <;> exact same

end Store

namespace Memory

/-! ### The stored index -/

/-- The index that is read from a store, if there is one to be read. -/
def index? (memory : Memory) : Option (Record AssetIndex) :=
  (store.load memory).1.toOption.join

theorem isKey_index : isKey (Persisted.key AssetIndex) = true := by decide

theorem load_index (memory : Memory) : store.load (α := AssetIndex) memory =
    (Record.present memory.records[Persisted.key AssetIndex]?, memory) := by
  simp [Store.load, store, Memory.get, isKey_index]

theorem index?_eq_some_iff {memory : Memory} {stored : Record AssetIndex} :
    memory.index? = some stored ↔ ∃ raw,
      memory.records[Persisted.key AssetIndex]? = some raw ∧ raw.deleted = false ∧
        ∃ value, Persisted.decode? raw.value = some value ∧ raw.withValue value = stored := by
  rw [index?, load_index]
  cases memory.records[Persisted.key AssetIndex]? with
  | none => simp [Record.present, Except.toOption]
  | some raw =>
      cases deleted : raw.deleted with
      | true => simp [Record.present, deleted, Except.toOption]
      | false =>
          cases decoded : Persisted.decode? (α := AssetIndex) raw.value <;>
            simp [Record.present, deleted, Record.decoded, decoded, Except.toOption, Except.map]

theorem index?_congr {first second : Memory}
    (same : first.records[Persisted.key AssetIndex]? = second.records[Persisted.key AssetIndex]?) :
    first.index? = second.index? := by
  rw [index?, index?, load_index, load_index, same]

/-- Another replica changes the index only under its key. -/
theorem getElem?_applyRemote (memory : Memory) (key : String) (value : Bytes) (version : Nat) :
    (memory.applyRemote key value version).records[Persisted.key AssetIndex]? =
      if key = Persisted.key AssetIndex then some ⟨key, version, memory.clock, false, value⟩
      else memory.records[Persisted.key AssetIndex]? := by
  rw [applyRemote, notify, Std.ExtTreeMap.getElem?_insert]
  simp only [Std.LawfulEqOrd.compare_eq_iff_eq]

/-- What a store gives the writer of an index: the index is stored under a version
above all that were known, and nothing is announced. -/
structure Takes (before after : Memory) (record : Record AssetIndex) : Prop where
  stored : after.index? = some record
  newer : ∀ old, before.index? = some old → old.Precedes record
  announced : after.announced = before.announced

theorem save_index (index : AssetIndex) (version : Nat) (memory : Memory) :
    ∃ record after, store.save index version memory = (.ok record, after) ∧
      record.value = index ∧ version < record.version ∧ memory.Takes after record := by
  let raw : RawRecord := ⟨Persisted.key AssetIndex,
    max (memory.versionOf (Persisted.key AssetIndex)) version + 1, memory.clock, false,
    Persisted.encode index⟩
  refine ⟨raw.withValue index,
    { memory with records := memory.records.insert (Persisted.key AssetIndex) raw },
    ?_, rfl, Nat.lt_succ_of_le (Nat.le_max_right _ _), ?_, ?_, rfl⟩
  · simp [Store.save, store, Memory.set, isKey_index, Record.decoded, AssetIndex.decode?_encode,
      raw]
  · exact index?_eq_some_iff.2
      ⟨raw, by simp, rfl, index, AssetIndex.decode?_encode index, rfl⟩
  · intro old found
    obtain ⟨before, there, -, value, -, rfl⟩ := index?_eq_some_iff.1 found
    refine .inr (Nat.lt_succ_of_le (Nat.le_trans ?_ (Nat.le_max_left _ _)))
    rw [versionOf, there]
    exact Nat.le_refl _

theorem Takes.same {memory : Memory} {record : Record AssetIndex}
    (stored : memory.index? = some record) : memory.Takes memory record :=
  ⟨stored, fun old found => by rw [stored] at found; cases found; exact .refl record, rfl⟩

end Memory

namespace AssetCollection

/-! ### Loading -/

/-- The index that is stored is taken, or else another one is written. -/
theorem obtainIndex_cases {σ : Type} {store : Store σ} (still : ∀ key s, (store.get key s).2 = s)
    (catalog : Catalog) (networkClass : NetworkClass) (s : σ) :
    (∃ record, store.found? AssetIndex s = some record ∧
        obtainIndex store catalog networkClass s = (record, s)) ∨
      (store.found? AssetIndex s = none ∧ obtainIndex store catalog networkClass s =
        createIndex store (((store.found? LegacyIndex s).map (·.value.migrate catalog
          networkClass)).getD (.standard networkClass)) s) := by
  obtain ⟨answer, read, found⟩ := Store.load_of_still (α := AssetIndex) still s
  obtain ⟨earlier, readEarlier, foundEarlier⟩ := Store.load_of_still (α := LegacyIndex) still s
  rw [obtainIndex, read, found]
  rcases answer with fault | _ | record
  case ok.some => exact .inl ⟨record, rfl, rfl⟩
  all_goals
    refine .inr ⟨rfl, ?_⟩
    dsimp only
    rw [readEarlier, foundEarlier]
    rcases earlier with fault | _ | legacy <;> rfl

open Memory

theorem takes_createIndex (index : AssetIndex) (memory : Memory) :
    memory.Takes (createIndex store index memory).2 (createIndex store index memory).1 := by
  obtain ⟨record, after, saved, -, -, takes⟩ := save_index index 0 memory
  rw [createIndex, saved]
  exact takes

theorem takes_obtainIndex (catalog : Catalog) (networkClass : NetworkClass) (memory : Memory) :
    memory.Takes (obtainIndex store catalog networkClass memory).2
      (obtainIndex store catalog networkClass memory).1 := by
  have still (key : String) (memory : Memory) : (store.get key memory).2 = memory := rfl
  rcases obtainIndex_cases still catalog networkClass memory with
    ⟨record, found, obtained⟩ | ⟨-, obtained⟩
  · rw [obtained]
    exact .same found
  · rw [obtained]
    exact takes_createIndex _ memory

theorem takes_firstIndex (catalog : Catalog) (networkClass : NetworkClass) (memory : Memory) :
    memory.Takes (firstIndex store catalog networkClass memory).2
      (firstIndex store catalog networkClass memory).1 := by
  have obtained := takes_obtainIndex catalog networkClass memory
  rw [firstIndex]
  split
  rename_i record after heq
  rw [heq] at obtained
  split
  · have created := takes_createIndex (.standard networkClass) after
    exact ⟨created.stored, fun old found =>
      (obtained.newer old found).trans (created.newer record obtained.stored),
      created.announced.trans obtained.announced⟩
  · exact obtained

/-- A collection that is loaded has the stored index as its baseline. -/
theorem takes_load (catalog : Catalog) (networkClass : NetworkClass) (memory : Memory) :
    memory.Takes (load store catalog networkClass memory).2
        (load store catalog networkClass memory).1.baseline ∧
      (load store catalog networkClass memory).1.Tidy ∧
      (load store catalog networkClass memory).1.catalog = catalog.restrict networkClass :=
  ⟨takes_firstIndex (catalog.restrict networkClass) networkClass memory, tidy_rebuild _, rfl⟩

/-! ### Saving and looking -/

variable {collection : AssetCollection}

/-- Saving writes nothing, or what is written is the baseline thereafter. -/
theorem save_cases (tidy : collection.Tidy) (memory : Memory) :
    (collection.save store memory).2 = (collection, memory) ∨
      memory.Takes (collection.save store memory).2.2
          (collection.save store memory).2.1.baseline ∧
        collection.baseline.Precedes (collection.save store memory).2.1.baseline ∧
        (collection.save store memory).2.1.Tidy ∧
        (collection.save store memory).2.1.catalog = collection.catalog := by
  rw [save]
  split
  · obtain ⟨record, after, saved, value, higher, takes⟩ :=
      save_index (.ofIds collection.enabledIds) collection.baseline.version memory
    rw [saved]
    refine .inr ⟨takes, .inr higher, ⟨tidy.lists, fun _ => ?_⟩, rfl⟩
    change collection.enabled = (lookUp collection.catalog [] record.value.enabledIds).1
    rw [value]
    exact (congrArg Prod.fst (lookUp_uids tidy.lists (by simp))).symm
  · exact .inl rfl

/-- The collection after a look at the store. -/
def refreshed (collection : AssetCollection) (memory : Memory) : AssetCollection :=
  memory.index?.elim collection fun stored => (collection.adopt (some stored)).2

/-- A look at the store leaves the store alone. -/
theorem reconcile_eq (collection : AssetCollection) (memory : Memory) :
    (collection.reconcile store memory).2 = (collection.refreshed memory, memory) := by
  rw [reconcile, refreshed, index?, load_index]
  cases Record.present (α := AssetIndex) memory.records[Persisted.key AssetIndex]? with
  | error => rfl
  | ok remote => cases remote <;> rfl

theorem heed_eq (notice : Notice) (collection : AssetCollection) (memory : Memory) :
    (collection.heed store notice memory).2 =
      (if notice.touches (Persisted.key AssetIndex) then collection.refreshed memory
        else collection, memory) := by
  rw [heed]
  split
  · exact reconcile_eq collection memory
  · rfl

theorem refreshed_cases (collection : AssetCollection) (memory : Memory) :
    (collection.refreshed memory = collection ∧
        ∀ stored, memory.index? = some stored → stored.version ≤ collection.baseline.version) ∨
      ∃ stored, memory.index? = some stored ∧ collection.baseline.version < stored.version ∧
        (collection.refreshed memory).baseline = stored ∧
        (collection.refreshed memory).Tidy ∧
        (collection.refreshed memory).catalog = collection.catalog := by
  rw [refreshed]
  cases memory.index? with
  | none => exact .inl ⟨rfl, by simp⟩
  | some stored =>
      rw [Option.elim_some, adopt]
      split
      · rename_i seen
        exact .inl ⟨rfl, fun _ found => Option.some.inj found ▸ seen⟩
      · rename_i unseen
        have tidy := tidy_rebuild { collection with baseline := stored }
        exact .inr ⟨stored, rfl, Nat.lt_of_not_le unseen, rfl, ⟨tidy.lists, tidy.clean⟩, rfl⟩

end AssetCollection

end MultiWallet
