import Mathlib.Data.List.Induction
import MultiWallet.Proofs.Editing
import MultiWallet.Proofs.Run
import MultiWallet.Scripted.Store

/-!
A collection on any store, whatever that answers and whatever becomes of it in the
meantime. The working copy is always a list of entries of the catalog, each once. But
that nothing is unsaved means that the working copy is what the baseline names only
as long as writes are answered in kind: a save takes the answer for the baseline and
leaves the working copy as it is.
-/

namespace MultiWallet

/-- The entries that an index names. Repeated and unknown ids count for nothing. -/
def Catalog.named (catalog : Catalog) (index : AssetIndex) : List CatalogEntry :=
  index.enabledIds.eraseDups.filterMap catalog.get?

namespace AssetCollection

theorem lookUp_eq_filterMap (catalog : Catalog) (seen ids : List CurrencyId) :
    (lookUp catalog seen ids).1 =
      (ids.filter (!seen.contains ·)).eraseDups.filterMap catalog.get? := by
  induction ids generalizing seen with
  | nil => rfl
  | cons uid rest ih =>
      rw [lookUp]
      split
      · rename_i before
        rw [ih seen, List.filter_cons_of_neg (by simp only [before]; decide)]
      rename_i isNew
      have others : rest.filter (!(uid :: seen).contains ·) =
          (rest.filter (!seen.contains ·)).filter (!· == uid) := by
        rw [List.filter_filter]
        refine List.filter_congr fun other _ => ?_
        rw [List.contains_cons, Bool.not_or]
      rw [List.filter_cons_of_pos (by simp only [isNew]; decide), List.eraseDups_cons, ← others]
      split
      · rename_i unknown
        rw [List.filterMap_cons_none unknown, ih]
      · rename_i entry known
        rw [List.filterMap_cons_some known, ← ih]

/-- A collection is set back to what its baseline names. -/
theorem enabled_rebuild (collection : AssetCollection) :
    collection.rebuild.enabled = collection.catalog.named collection.baseline.value := by
  have all : collection.baseline.value.enabledIds.filter (!([] : List CurrencyId).contains ·) =
      collection.baseline.value.enabledIds := List.filter_eq_self.2 fun _ _ => rfl
  exact (lookUp_eq_filterMap collection.catalog [] _).trans (by rw [all]; rfl)

variable {σ : Type}

/-! ### Runs -/

/-- What can happen to a collection and its store. -/
inductive Act (σ : Type) where
  | edit (edit : Edit)
  | save
  | sync
  | heed (notice : Notice)
  /-- The store comes into another state on its own. -/
  | drift (state : σ)

/-- A collection and its store after something happened. -/
def after (store : Store σ) (kept : AssetCollection × σ) : Act σ → AssetCollection × σ
  | .edit edit => (kept.1.edit edit, kept.2)
  | .save => (kept.1.save store kept.2).2
  | .sync => (kept.1.reconcile store kept.2).2
  | .heed notice => (kept.1.heed store notice kept.2).2
  | .drift state => (kept.1, state)

/-- A collection and its store after some things happened in order. -/
def run (store : Store σ) (kept : AssetCollection × σ) (acts : List (Act σ)) :
    AssetCollection × σ :=
  acts.foldl (after store) kept

theorem run_append (store : Store σ) (kept : AssetCollection × σ) (earlier later : List (Act σ)) :
    run store kept (earlier ++ later) = run store (run store kept earlier) later :=
  List.foldl_append

/-- What a save is answered. -/
def answer (store : Store σ) (kept : AssetCollection × σ) :
    Except ReplicaError (Record AssetIndex) :=
  (store.save (AssetIndex.ofIds kept.1.enabledIds) kept.1.baseline.version kept.2).1

/-- The collection that takes a record for its baseline as it is. -/
def saved (collection : AssetCollection) (record : Record AssetIndex) : AssetCollection :=
  announce { collection with baseline := record, hasUnsavedChanges := false }

/-- The collection that takes a record for its baseline and begins anew from there. -/
def adopted (collection : AssetCollection) (record : Record AssetIndex) : AssetCollection :=
  announce (rebuild { collection with baseline := record })

theorem save_fst (store : Store σ) (collection : AssetCollection) (s : σ) :
    (collection.save store s).2.1 =
      if collection.hasUnsavedChanges then
        match answer store (collection, s) with
        | .error _ => collection
        | .ok record => collection.saved record
      else collection := by
  rw [save, answer]
  split
  · cases store.save (AssetIndex.ofIds collection.enabledIds) collection.baseline.version s with
    | mk result s => cases result <;> rfl
  · rfl

theorem reconcile_fst (store : Store σ) (collection : AssetCollection) (s : σ) :
    (collection.reconcile store s).2.1 = collection ∨
      ∃ record, (collection.reconcile store s).2.1 = collection.adopted record := by
  rw [reconcile]
  cases store.load (α := AssetIndex) s with
  | mk result s =>
      rcases result with fault | _ | record
      · exact .inl rfl
      · exact .inl rfl
      · simp only [adopt]
        split
        · exact .inl rfl
        · exact .inr ⟨record, rfl⟩

/-- Something leaves the collection as it is, edits it, saves it or has it begin anew. -/
theorem after_cases (store : Store σ) (kept : AssetCollection × σ) (act : Act σ) :
    (after store kept act).1 = kept.1 ∨
      (∃ edit, (after store kept act).1 = kept.1.edit edit) ∨
      (∃ record, act = .save ∧ kept.1.hasUnsavedChanges = true ∧ answer store kept = .ok record ∧
        (after store kept act).1 = kept.1.saved record) ∨
      ∃ record, (after store kept act).1 = kept.1.adopted record := by
  obtain ⟨collection, s⟩ := kept
  have synced := reconcile_fst store collection s
  cases act with
  | edit edit => exact .inr (.inl ⟨edit, rfl⟩)
  | drift state => exact .inl rfl
  | sync => exact synced.imp_right fun adopts => .inr (.inr adopts)
  | heed notice =>
      simp only [after, heed]
      split
      · exact synced.imp_right fun adopts => .inr (.inr adopts)
      · exact .inl rfl
  | save =>
      have result : (after store (collection, s) .save).1 = _ := save_fst store collection s
      rw [result]
      split
      · rename_i unsaved
        cases taken : answer store (collection, s) with
        | error => exact .inl rfl
        | ok record => exact .inr (.inr (.inl ⟨record, rfl, unsaved, rfl, rfl⟩))
      · exact .inl rfl

/-! ### What is listed -/

/-- A collection of some catalog and family of networks that lists entries, each once. -/
structure Lists (catalog : Catalog) (networkClass : NetworkClass) (collection : AssetCollection) :
    Prop where
  catalog : collection.catalog = catalog.restrict networkClass
  lists : collection.catalog.Lists collection.enabled

namespace Lists

variable {catalog : Catalog} {networkClass : NetworkClass} {collection : AssetCollection}

theorem rebuild (same : collection.catalog = catalog.restrict networkClass) :
    Lists catalog networkClass collection.rebuild :=
  ⟨same, (lists_lookUp _ _ _).1⟩

theorem load (store : Store σ) (catalog : Catalog) (networkClass : NetworkClass) (s : σ) :
    Lists catalog networkClass (AssetCollection.load store catalog networkClass s).1 := by
  rw [AssetCollection.load]
  exact rebuild rfl

/-- What is listed is known to the catalog and lives on a network of the family. -/
theorem listed (h : Lists catalog networkClass collection) {entry : CatalogEntry}
    (mem : entry ∈ collection.enabled) :
    catalog.get? entry.uid = some entry ∧ networkClass.admits entry.uid.networkId := by
  have found := h.lists.listed entry mem
  rw [h.catalog, Catalog.get?, Catalog.restrict, Std.ExtTreeMap.getElem?_filter] at found
  obtain ⟨known, admitted⟩ := Option.pfilter_eq_some_iff.1 found
  rw [Std.ExtTreeMap.getKey_eq] at admitted
  exact ⟨known, admitted⟩

theorem of_edited {α : Type} {turn : Except AssetError α × AssetCollection}
    (h : Lists catalog networkClass collection) (edited : Edited collection turn) :
    Lists catalog networkClass turn.2 := by
  rcases edited.cases h.lists with same | ⟨enabled, lists, same⟩
  · rw [same]
    exact h
  · rw [same]
    exact ⟨h.catalog, lists⟩

theorem edit (h : Lists catalog networkClass collection) (edit : Edit) :
    Lists catalog networkClass (collection.edit edit) := by
  rcases edit_cases h.lists edit with same | ⟨enabled, lists, same⟩ | same
  · rw [same]
    exact h
  · rw [same]
    exact ⟨h.catalog, lists⟩
  · rw [same]
    exact ⟨h.catalog, (lists_lookUp _ _ _).1⟩

theorem after (store : Store σ) {kept : AssetCollection × σ}
    (h : Lists catalog networkClass kept.1) (act : Act σ) :
    Lists catalog networkClass (AssetCollection.after store kept act).1 := by
  rcases after_cases store kept act with same | ⟨edit, same⟩ | ⟨record, -, -, -, same⟩ |
    ⟨record, same⟩
  · rw [same]
    exact h
  · rw [same]
    exact h.edit edit
  · rw [same]
    exact ⟨h.catalog, h.lists⟩
  · rw [same]
    exact ⟨h.catalog, (lists_lookUp _ _ _).1⟩

theorem run (store : Store σ) {kept : AssetCollection × σ}
    (h : Lists catalog networkClass kept.1) (acts : List (Act σ)) :
    Lists catalog networkClass (AssetCollection.run store kept acts).1 := by
  induction acts generalizing kept with
  | nil => exact h
  | cons act rest ih => exact ih (h.after store act)

end Lists

/-- Whatever a store answers, a collection enables nothing twice, and only entries of the
catalog that live on networks of its family. -/
theorem enabled_listed_once (store : Store σ) (catalog : Catalog) (networkClass : NetworkClass)
    (s : σ) (acts : List (Act σ)) :
    let reached := (run store (load store catalog networkClass s) acts).1
    (reached.enabled.map (·.uid)).Nodup ∧
      ∀ entry ∈ reached.enabled, catalog.get? entry.uid = some entry ∧
        networkClass.admits entry.uid.networkId := by
  have lists := (Lists.load store catalog networkClass s).run store acts
  exact ⟨lists.lists.distinct, fun entry mem => lists.listed mem⟩

/-! ### What nothing unsaved means -/

/-- If nothing is unsaved the working copy is what the baseline names, and giving up all
edits changes nothing. -/
def Clean (collection : AssetCollection) : Prop :=
  collection.hasUnsavedChanges = false →
    collection.enabled = collection.catalog.named collection.baseline.value ∧
      collection.revert.enabled = collection.enabled

theorem clean_of_named {collection : AssetCollection}
    (named : collection.enabled = collection.catalog.named collection.baseline.value) :
    collection.Clean :=
  fun _ => ⟨named, (enabled_rebuild collection).trans named.symm⟩

/-- A save that is accepted is answered with an index that names the working copy. -/
def AnsweredInKind (store : Store σ) (kept : AssetCollection × σ) : Prop :=
  kept.1.hasUnsavedChanges = true → ∀ record, answer store kept = .ok record →
    kept.1.catalog.named record.value = kept.1.enabled

theorem Clean.edit {catalog : Catalog} {networkClass : NetworkClass} {collection : AssetCollection}
    (clean : collection.Clean) (lists : Lists catalog networkClass collection) (edit : Edit) :
    (collection.edit edit).Clean := by
  rcases edit_cases lists.lists edit with same | ⟨enabled, -, same⟩ | same
  · rw [same]
    exact clean
  · rw [same]
    nofun
  · rw [same]
    exact clean_of_named (enabled_rebuild collection)

/-- What happens keeps a collection clean, a save exactly if it is answered in kind. -/
theorem clean_after_iff {store : Store σ} {kept : AssetCollection × σ} {catalog : Catalog}
    {networkClass : NetworkClass} (lists : Lists catalog networkClass kept.1)
    (clean : kept.1.Clean) (act : Act σ) :
    (after store kept act).1.Clean ↔ (act = .save → AnsweredInKind store kept) := by
  constructor
  · rintro stays rfl unsaved record taken
    have same : (after store kept .save).1 = kept.1.saved record := by
      simp only [after, save_fst, if_pos unsaved, taken]
    rw [same] at stays
    exact (stays rfl).1.symm
  · intro inKind
    rcases after_cases store kept act with same | ⟨edit, same⟩ |
      ⟨record, isSave, unsaved, taken, same⟩ | ⟨record, same⟩
    · rw [same]
      exact clean
    · rw [same]
      exact clean.edit lists edit
    · rw [same]
      exact clean_of_named (inKind isSave unsaved record taken).symm
    · rw [same]
      exact clean_of_named (enabled_rebuild { kept.1 with baseline := record })

/-- A collection is clean all along exactly if every save that is accepted is answered with
an index that names what was saved. -/
theorem clean_iff_answered_in_kind (store : Store σ) (catalog : Catalog)
    (networkClass : NetworkClass) (s : σ) (acts : List (Act σ)) :
    let loaded := load store catalog networkClass s
    (∀ earlier later, acts = earlier ++ later → (run store loaded earlier).1.Clean) ↔
      ∀ earlier later, acts = earlier ++ .save :: later →
        AnsweredInKind store (run store loaded earlier) := by
  intro loaded
  have lists (earlier : List (Act σ)) : Lists catalog networkClass (run store loaded earlier).1 :=
    (Lists.load store catalog networkClass s).run store earlier
  constructor
  · intro always earlier later split
    have here := always earlier (.save :: later) split
    have next := always (earlier ++ [.save]) later (by rw [split, List.append_assoc]; rfl)
    rw [run_append] at next
    exact (clean_after_iff (lists earlier) here .save).1 next rfl
  · intro inKind earlier
    -- The induction goes from the end, so that the last happening is the one to look at.
    induction earlier using List.reverseRecOn with
    | nil => exact fun _ _ => clean_of_named (enabled_rebuild _)
    | append_singleton earlier act ih =>
        intro later split
        rw [List.append_assoc] at split
        rw [run_append]
        refine (clean_after_iff (lists earlier) (ih _ split) act).2 ?_
        rintro rfl
        exact inKind earlier later split

/-- A store that answers a write with another index leaves a working copy that is not what
the baseline names, although nothing is unsaved. -/
theorem odd_answer_leaves_copy_behind :
    let told : ScriptedStore :=
      { ScriptedStore.empty with echo := some (Persisted.encode (AssetIndex.ofIds [])) }
    let loaded := load ScriptedStore.store .bitcoin .mainnet .empty
    let reached := (run ScriptedStore.store loaded [.drift told, .save]).1
    (reached.hasUnsavedChanges = false ∧ reached.baseline.value = .ofIds [] ∧
      reached.enabledIds = [Network.bitcoin.currency] ∧ reached.revert.enabledIds = []) ∧
      ¬reached.Clean := by
  intro told loaded reached
  have shown : reached.hasUnsavedChanges = false ∧ reached.baseline.value = .ofIds [] ∧
      reached.enabledIds = [Network.bitcoin.currency] ∧ reached.revert.enabledIds = [] := by
    decide +kernel
  refine ⟨shown, fun clean => ?_⟩
  obtain ⟨unsaved, -, one, none⟩ := shown
  rw [enabledIds, (clean unsaved).2] at none
  cases one.symm.trans none

end AssetCollection

end MultiWallet
