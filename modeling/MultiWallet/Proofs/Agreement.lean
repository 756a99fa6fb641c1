import MultiWallet.Proofs.Loading

/-!
Three ways to a collection: beginning with a stored index, taking it over, and having
saved it. All three list the same, in particular what was saved is listed by everyone
who comes to know of it.
-/

namespace MultiWallet.AssetCollection

/-- Whether two collections list the same, with the same baseline and both with or without
unsaved changes. -/
structure Agrees (first second : AssetCollection) : Prop where
  enabled : first.enabled = second.enabled
  unsaved : first.hasUnsavedChanges = second.hasUnsavedChanges
  baseline : first.baseline = second.baseline

theorem Agrees.trans {first second third : AssetCollection} (h : first.Agrees second)
    (h' : second.Agrees third) : first.Agrees third :=
  ⟨h.enabled.trans h'.enabled, h.unsaved.trans h'.unsaved, h.baseline.trans h'.baseline⟩

variable {σ : Type} {store : Store σ} {catalog : Catalog} {networkClass : NetworkClass}
  {collection : AssetCollection}

/-- A collection takes over a newer index just as another one begins with it. -/
theorem reconcile_agrees {s after : σ} {record : Record AssetIndex}
    (same : collection.catalog = catalog.restrict networkClass)
    (read : store.load s = (.ok (some record), after)) (names : record.value.enabledIds ≠ [])
    (newer : collection.baseline.version < record.version) :
    (collection.reconcile store s).2.1.Agrees (load store catalog networkClass s).1 := by
  have reconciled : (collection.reconcile store s).2.1 = collection.adopted record := by
    rw [reconcile, read]
    dsimp only
    rw [adopt, if_neg (Nat.not_le.2 newer)]
    rfl
  rw [reconciled, load_of_stored read names, ← same]
  exact ⟨rfl, rfl, rfl⟩

/-- A collection that begins with a record of what another one lists agrees with it. -/
theorem begun_agrees (lists : Lists catalog networkClass collection) {record : Record AssetIndex}
    (value : record.value = .ofIds collection.enabledIds) :
    (begun (catalog.restrict networkClass) networkClass record).Agrees
      (collection.saved record) := by
  have again : lookUp (catalog.restrict networkClass) [] record.value.enabledIds =
      (collection.enabled, false) := by
    rw [value, ← lists.catalog]
    exact lookUp_uids lists.lists (by simp)
  exact ⟨congrArg Prod.fst again, congrArg Prod.snd again, rfl⟩

theorem save_ok_true {s : σ} (saved : (collection.save store s).1 = .ok true) :
    ∃ record after, store.save (AssetIndex.ofIds collection.enabledIds) collection.baseline.version
        s = (.ok record, after) ∧
      (collection.save store s).2 = (collection.saved record, after) := by
  rw [save] at saved ⊢
  split_ifs at saved ⊢
  · rcases written : store.save (AssetIndex.ofIds collection.enabledIds)
      collection.baseline.version s with ⟨fault | record, after⟩
    · rw [written] at saved
      cases saved
    · exact ⟨record, after, rfl, rfl⟩
  · cases saved

/-- Everyone comes to list what was saved: who begins with what the store holds by now, and
who looks at it with an older baseline. -/
structure Reaches (store : Store σ) (Shows : σ → σ → Prop) (catalog : Catalog)
    (networkClass : NetworkClass) (saved : AssetCollection × σ) : Prop where
  loaded : ∀ later, Shows saved.2 later →
    (load store catalog networkClass later).1.Agrees saved.1
  synced : ∀ later, Shows saved.2 later → ∀ other : AssetCollection,
    other.catalog = catalog.restrict networkClass →
      other.baseline.version < saved.1.baseline.version →
        (other.reconcile store later).2.1.Agrees saved.1

/-- Whether all that is saved is listed by everyone: however a collection got to a list that
names something, if saving it writes anything then this is what all come to list, and nothing
of it is unsaved. -/
def SavesForAll (store : Store σ) (Counts : Nat → Prop) (Shows : σ → σ → Prop)
    (catalog : Catalog) (networkClass : NetworkClass) : Prop :=
  ∀ s acts, let kept := run store (load store catalog networkClass s) acts
    let saved := (kept.1.save store kept.2).2
    (kept.1.save store kept.2).1 = .ok true → kept.1.enabled ≠ [] →
      saved.1.enabled = kept.1.enabled ∧ saved.1.hasUnsavedChanges = false ∧
        (Counts saved.1.baseline.version → Reaches store Shows catalog networkClass saved)

theorem savesForAll {Counts : Nat → Prop} {Shows : σ → σ → Prop}
    (retains : store.Retains AssetIndex Counts Shows) (catalog : Catalog)
    (networkClass : NetworkClass) : SavesForAll store Counts Shows catalog networkClass := by
  intro s acts kept saved done names
  have lists : Lists catalog networkClass kept.1 :=
    (Lists.load store catalog networkClass s).run store acts
  obtain ⟨record, after, written, same⟩ := save_ok_true done
  have value := retains.answers written
  have named : record.value.enabledIds ≠ [] := by
    rw [value]
    exact mt List.map_eq_nil_iff.1 names
  rw [show saved = (kept.1.saved record, after) from same]
  refine ⟨rfl, rfl, fun counts => ?_⟩
  have found {later : σ} (shows : Shows after later) :=
    retains.returns written counts shows
  have loaded (later : σ) (shows : Shows after later) :
      (load store catalog networkClass later).1.Agrees (kept.1.saved record) := by
    rw [load_of_found retains.still (found shows) named]
    exact begun_agrees lists value
  refine ⟨loaded, fun later shows other sameCatalog newer => ?_⟩
  obtain ⟨answer, read, answered⟩ := Store.load_of_still (α := AssetIndex) retains.still later
  rw [found shows] at answered
  rcases answer with fault | _ | stored <;> cases answered
  exact (reconcile_agrees sameCatalog read named newer).trans (loaded later shows)

/-- To begin with an index, to take it over and to have saved it come to the same. On any
store, a collection that takes over a newer index lists what one does that begins with it; and
what was saved to a store in memory or in files is listed by whoever begins with it or takes
it over afterwards. -/
theorem adopting_saving_loading_agree (catalog : Catalog) (networkClass : NetworkClass) :
    (∀ (σ : Type) (store : Store σ) (s : σ) (collection : AssetCollection)
      (record : Record AssetIndex), collection.catalog = catalog.restrict networkClass →
        (store.load s).1 = .ok (some record) → record.value.enabledIds ≠ [] →
          collection.baseline.version < record.version →
            (collection.reconcile store s).2.1.Agrees (load store catalog networkClass s).1) ∧
      SavesForAll Memory.store (fun _ => True) (fun s later => later = s) catalog networkClass ∧
      ∀ files : FileStore, SavesForAll files.store (· < UInt64.size)
        (files.Shows (Persisted.key AssetIndex)) catalog networkClass := by
  have decodes := AssetIndex.decode?_encode
  refine ⟨fun σ store s collection record same read names newer => ?_,
    savesForAll (Memory.retains decodes) catalog networkClass,
    fun files => savesForAll (files.retains decodes) catalog networkClass⟩
  exact reconcile_agrees same (Prod.ext read rfl) names newer

/-- What another replica wrote in the meantime is saved over, and the saved list is the one
that is loaded. -/
theorem saved_over_remote_loaded :
    let remote := Memory.empty.applyRemote "asset-index" [] 7
    let kept := run Memory.store (load Memory.store .bitcoin .mainnet .empty)
      [.edit .resetToStandard, .drift remote]
    let saved := (kept.1.save Memory.store kept.2).2
    saved.1.baseline.version = 8 ∧ saved.1.enabledIds = [Network.bitcoin.currency] ∧
      (load Memory.store .bitcoin .mainnet saved.2).1.Agrees saved.1 := by
  intro remote kept saved
  have shown : (kept.1.save Memory.store kept.2).1 = .ok true ∧ kept.1.enabled ≠ [] ∧
      saved.1.baseline.version = 8 ∧ saved.1.enabledIds = [Network.bitcoin.currency] := by
    decide +kernel
  obtain ⟨done, names, version, ids⟩ := shown
  obtain ⟨-, memory, -⟩ := adopting_saving_loading_agree .bitcoin .mainnet
  obtain ⟨-, -, reaches⟩ := memory .empty [.edit .resetToStandard, .drift remote] done names
  exact ⟨version, ids, (reaches trivial).loaded saved.2 rfl⟩

end MultiWallet.AssetCollection
