import MultiWallet.Proofs.Retaining
import MultiWallet.Proofs.WorkingCopy

/-!
Loading a collection. Whatever is stored, loading ends with an index that names
something, and with the store holding just this index; so that loading again, even from
a store that cannot be written any more, ends with the same collection.
-/

namespace MultiWallet

/-- The index to begin with, by what is stored: the stored one, else the earlier one in the
present form, else the standard one, which also stands in for one that names nothing. -/
def AssetIndex.initial (catalog : Catalog) (networkClass : NetworkClass)
    (stored? : Option AssetIndex) (legacy? : Option LegacyIndex) : AssetIndex :=
  let index :=
    (stored?.or (legacy?.map (·.migrate catalog networkClass))).getD (standard networkClass)
  if index.enabledIds = [] then standard networkClass else index

theorem AssetIndex.initial_ne_nil (catalog : Catalog) (networkClass : NetworkClass)
    (stored? : Option AssetIndex) (legacy? : Option LegacyIndex) :
    (initial catalog networkClass stored? legacy?).enabledIds ≠ [] := by
  rw [initial]
  split_ifs with none
  · cases networkClass <;> decide
  · exact none

namespace AssetCollection

/-! ### What is left out -/

/-- Ids are looked up one for one, or fewer are found. -/
theorem lookUp_cases (catalog : Catalog) (seen ids : List CurrencyId) :
    ((lookUp catalog seen ids).2 = false ∧ (lookUp catalog seen ids).1.map (·.uid) = ids) ∨
      ((lookUp catalog seen ids).2 = true ∧
        (lookUp catalog seen ids).1.length < ids.length) := by
  -- One id that is left out is enough, as no id ever gives two entries.
  induction ids generalizing seen with
  | nil => exact .inl ⟨rfl, rfl⟩
  | cons uid rest ih =>
      have fewer (seen : List CurrencyId) : (lookUp catalog seen rest).1.length ≤ rest.length := by
        rcases ih seen with ⟨-, same⟩ | ⟨-, less⟩
        · rw [← List.length_map, same]
        · exact Nat.le_of_lt less
      rw [lookUp]
      split
      · exact .inr ⟨rfl, Nat.lt_succ_of_le (fewer seen)⟩
      split
      · exact .inr ⟨rfl, Nat.lt_succ_of_le (fewer (uid :: seen))⟩
      · rename_i entry found
        rcases ih (uid :: seen) with ⟨kept, same⟩ | ⟨dropped, less⟩
        · refine .inl ⟨kept, ?_⟩
          rw [List.map_cons, same, catalog.keyed uid entry found]
        · exact .inr ⟨dropped, Nat.succ_lt_succ less⟩

/-- A collection that was set back counts as edited exactly if it left out some id that its
baseline names. -/
theorem hasUnsavedChanges_rebuild_iff (collection : AssetCollection) :
    collection.rebuild.hasUnsavedChanges = true ↔
      collection.rebuild.enabledIds ≠ collection.baseline.value.enabledIds := by
  change (lookUp collection.catalog [] collection.baseline.value.enabledIds).2 = true ↔
    (lookUp collection.catalog [] collection.baseline.value.enabledIds).1.map (·.uid) ≠ _
  rcases lookUp_cases collection.catalog [] collection.baseline.value.enabledIds with
    ⟨kept, same⟩ | ⟨dropped, less⟩
  · simp [kept, same]
  · refine iff_of_true dropped fun same => ?_
    have length := congrArg List.length same
    rw [List.length_map] at length
    exact Nat.ne_of_lt less length

/-! ### What loading ends with -/

variable {σ : Type}

/-- Loading ends well: with what is stored for the baseline, and with a list of all that this
names. A second load finds it so, and what it would do to write does not matter. -/
structure Settles (store : Store σ) (Shows : σ → σ → Prop) (catalog : Catalog)
    (networkClass : NetworkClass) (s : σ) : Prop where
  chosen : (load store catalog networkClass s).1.baseline.value =
    AssetIndex.initial (catalog.restrict networkClass) networkClass
      ((store.found? AssetIndex s).map (·.value)) ((store.found? LegacyIndex s).map (·.value))
  nonempty : (load store catalog networkClass s).1.baseline.value.enabledIds ≠ []
  untouched : ∀ record, store.found? AssetIndex s = some record → record.value.enabledIds ≠ [] →
    (load store catalog networkClass s).1.baseline = record ∧
      (load store catalog networkClass s).2 = s
  stored : ∀ later, Shows (load store catalog networkClass s).2 later →
    store.found? AssetIndex later = some (load store catalog networkClass s).1.baseline
  listed : (load store catalog networkClass s).1.enabled =
    (catalog.restrict networkClass).named (load store catalog networkClass s).1.baseline.value
  dropped : (load store catalog networkClass s).1.hasUnsavedChanges = true ↔
    (load store catalog networkClass s).1.enabledIds ≠
      (load store catalog networkClass s).1.baseline.value.enabledIds
  again : ∀ later, Shows (load store catalog networkClass s).2 later → ∀ write,
    load { store with set := write } catalog networkClass later =
      ((load store catalog networkClass s).1, later)

section

variable {store : Store σ} {Counts : Nat → Prop} {Shows : σ → σ → Prop} {Ready : σ → Prop}
  {catalog : Catalog} {networkClass : NetworkClass} {s : σ}

/-- The collection that begins with a record. -/
def begun (catalog : Catalog) (networkClass : NetworkClass) (baseline : Record AssetIndex) :
    AssetCollection :=
  rebuild {
    catalog, networkClass, enabled := [], hasUnsavedChanges := false, baseline,
    announced := baseline.value.enabledIds, announcements := 0 }

theorem load_of_firstIndex {record : Record AssetIndex} {after : σ}
    (first : firstIndex store (catalog.restrict networkClass) networkClass s = (record, after)) :
    load store catalog networkClass s =
      (begun (catalog.restrict networkClass) networkClass record, after) := by
  rw [load]
  simp only [first]
  rfl

/-- An index is taken as it is read, unless it names nothing. -/
theorem load_of_stored {record : Record AssetIndex} {after : σ}
    (read : store.load s = (.ok (some record), after)) (names : record.value.enabledIds ≠ []) :
    load store catalog networkClass s =
      (begun (catalog.restrict networkClass) networkClass record, after) := by
  apply load_of_firstIndex
  rw [firstIndex, obtainIndex, read]
  exact if_neg names

theorem load_of_found (still : ∀ key s, (store.get key s).2 = s) {record : Record AssetIndex}
    (found : store.found? AssetIndex s = some record) (names : record.value.enabledIds ≠ []) :
    load store catalog networkClass s =
      (begun (catalog.restrict networkClass) networkClass record, s) := by
  obtain ⟨answer, read, same⟩ := Store.load_of_still (α := AssetIndex) still s
  rw [same] at found
  rcases answer with fault | _ | stored <;> cases found
  exact load_of_stored read names

variable (retains : store.Retains AssetIndex Counts Shows) (saves : store.Saves AssetIndex Ready)

/-- A record of an index in a state that shows it and that takes others. -/
structure Holds (store : Store σ) (Counts : Nat → Prop) (Shows : σ → σ → Prop) (Ready : σ → Prop)
    (index : AssetIndex) (kept : Record AssetIndex × σ) : Prop where
  value : kept.1.value = index
  ready : Ready kept.2
  stored : Counts kept.1.version → ∀ later, Shows kept.2 later →
    store.found? AssetIndex later = some kept.1

include retains saves

theorem holds_createIndex (ready : Ready s) (index : AssetIndex) :
    Holds store Counts Shows Ready index (createIndex store index s) := by
  obtain ⟨record, after, saved, ready⟩ := saves index 0 s ready
  rw [createIndex, saved]
  exact ⟨retains.answers saved, ready, fun counts _ shows => retains.returns saved counts shows⟩

theorem holds_firstIndex (ready : Ready s) (catalog : Catalog) (networkClass : NetworkClass) :
    Holds store Counts Shows Ready
      (AssetIndex.initial catalog networkClass ((store.found? AssetIndex s).map (·.value))
        ((store.found? LegacyIndex s).map (·.value)))
      (firstIndex store catalog networkClass s) := by
  have obtained : Holds store Counts Shows Ready
      ((((store.found? AssetIndex s).map (·.value)).or (((store.found? LegacyIndex s).map
        (·.value)).map (·.migrate catalog networkClass))).getD (.standard networkClass))
      (obtainIndex store catalog networkClass s) := by
    rcases obtainIndex_cases retains.still catalog networkClass s with
      ⟨record, found, obtained⟩ | ⟨missing, obtained⟩
    · rw [obtained, found]
      exact ⟨rfl, ready, fun _ _ shows => retains.lasts shows found⟩
    · rw [obtained, missing, Option.map_map]
      exact holds_createIndex retains saves ready _
  rw [firstIndex, AssetIndex.initial]
  dsimp only
  rw [obtained.value]
  split_ifs
  · exact holds_createIndex retains saves obtained.ready _
  · exact obtained

/-- Loading ends well if an index can be saved, and the version of what was saved counts. -/
theorem settles (ready : Ready s)
    (counts : Counts (load store catalog networkClass s).1.baseline.version) :
    Settles store Shows catalog networkClass s ∧ Ready (load store catalog networkClass s).2 := by
  have holds := holds_firstIndex retains saves ready (catalog.restrict networkClass) networkClass
  have loaded : load store catalog networkClass s = _ := load_of_firstIndex rfl
  have stored := holds.stored counts
  have nonempty := AssetIndex.initial_ne_nil (catalog.restrict networkClass) networkClass
    ((store.found? AssetIndex s).map (·.value)) ((store.found? LegacyIndex s).map (·.value))
  rw [← holds.value] at nonempty
  refine ⟨?_, holds.ready⟩
  constructor
  case chosen => exact holds.value
  case nonempty => exact nonempty
  case untouched =>
    intro record found names
    rw [load_of_found retains.still found names]
    exact ⟨rfl, rfl⟩
  case stored => exact stored
  case listed =>
    rw [loaded]
    exact enabled_rebuild _
  case dropped =>
    rw [loaded]
    exact hasUnsavedChanges_rebuild_iff _
  case again =>
    -- Writing has no part in it: the index is found, and it names something.
    intro later shows write
    have found := stored later shows
    rw [loaded]
    have still : ∀ key s, (Store.get { store with set := write } key s).2 = s := retains.still
    exact load_of_found still found nonempty

end

/-- To load twice is to load once. -/
theorem Settles.load_twice {store : Store σ} {Shows : σ → σ → Prop} {catalog : Catalog}
    {networkClass : NetworkClass} {s : σ} (settles : Settles store Shows catalog networkClass s)
    (shows : Shows (load store catalog networkClass s).2 (load store catalog networkClass s).2) :
    load store catalog networkClass (load store catalog networkClass s).2 =
      load store catalog networkClass s :=
  settles.again _ shows store.set

/-- Whatever the two indexes in a store are, whether absent, deleted, unreadable or readable,
a collection is loaded well: from a store in memory, and from one in files if its index can be
replaced and the version of that can be counted. A file that could not be read before has to
let itself be read once it was replaced; others do, as loading changes nothing about it. -/
theorem load_settles (catalog : Catalog) (networkClass : NetworkClass) :
    (∀ memory, Settles Memory.store (fun s later => later = s) catalog networkClass memory) ∧
      ∀ (files : FileStore) (disk : Disk), disk.Takes (files.path (Persisted.key AssetIndex)) →
        (load files.store catalog networkClass disk).1.baseline.version < UInt64.size →
          Settles files.store (files.Shows (Persisted.key AssetIndex)) catalog networkClass disk ∧
            (load files.store catalog networkClass disk).2.refuses = disk.refuses := by
  have decodes := AssetIndex.decode?_encode
  have valid : isKey (Persisted.key AssetIndex) = true := by decide
  constructor
  · intro memory
    exact (settles (Memory.retains decodes) (Memory.saves valid decodes) trivial trivial).1
  · intro files disk takes counts
    obtain ⟨settled, -, kept⟩ := settles (files.retains decodes)
      (files.saves valid decodes disk.refuses) ⟨takes, rfl⟩ counts
    exact ⟨settled, kept⟩

/-- A disk with an index that cannot be read. -/
def spoiledIndex : Disk :=
  (Disk.blank.put ["kv"] .directory).put ["kv", "asset-index.kv.json"] (.file [0x7b, 0xff] .epoch)

/-- The index of a fresh wallet takes the place of one that cannot be read. -/
theorem spoiled_index_settled :
    let files : FileStore := ⟨⟨[], ["kv"]⟩⟩
    let loaded := load files.store .bitcoin .mainnet spoiledIndex
    loaded.1.baseline = ⟨"asset-index", 1, .epoch, false, .standard .mainnet⟩ ∧
      load files.store .bitcoin .mainnet loaded.2 = loaded := by
  intro files loaded
  have baseline : loaded.1.baseline = ⟨"asset-index", 1, .epoch, false, .standard .mainnet⟩ := by
    decide +kernel
  have accepts (change : DiskStep) : spoiledIndex.refuses change = false := rfl
  have surrounded : spoiledIndex.makeDirectories (files.path (Persisted.key AssetIndex)).parent =
      (spoiledIndex, .ok ()) := rfl
  have temporary : spoiledIndex.node? ["kv", ".asset-index.kv.json.tmp"] ≠ some .directory := by
    decide
  have target : spoiledIndex.node? ["kv", "asset-index.kv.json"] ≠ some .directory := by decide
  have takes : spoiledIndex.Takes (files.path (Persisted.key AssetIndex)) :=
    Disk.takes_of_free accepts surrounded rfl rfl temporary rfl rfl target
  obtain ⟨settled, kept⟩ := (load_settles .bitcoin .mainnet).2 files spoiledIndex takes
    (by rw [baseline]; decide)
  exact ⟨baseline, settled.load_twice ⟨rfl, (congrFun kept _).trans (accepts _)⟩⟩

end AssetCollection

end MultiWallet
