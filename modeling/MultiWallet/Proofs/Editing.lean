import Mathlib.Data.List.Perm.Basic
import MultiWallet.Asset.Collection
import MultiWallet.Proofs.ReadBack

/-!
The working copy under edits. It lists entries of the catalog, each once; and when
nothing is unsaved it is what the baseline names. Both hold from loading on, since
an edit that is refused changes nothing, one that changes anything leaves something
unsaved, and only saving and adopting move the baseline.
-/

namespace MultiWallet

/-- Entries of a catalog, each once. -/
structure Catalog.Lists (catalog : Catalog) (entries : List CatalogEntry) : Prop where
  listed : ∀ entry ∈ entries, catalog.get? entry.uid = some entry
  distinct : (entries.map (·.uid)).Nodup

namespace Catalog.Lists

variable {catalog : Catalog} {entries : List CatalogEntry}

theorem nil (catalog : Catalog) : Lists catalog [] := ⟨by simp, by simp⟩

theorem cons (h : Lists catalog entries) {entry : CatalogEntry}
    (listed : catalog.get? entry.uid = some entry) (isNew : entry.uid ∉ entries.map (·.uid)) :
    Lists catalog (entry :: entries) :=
  ⟨List.forall_mem_cons.2 ⟨listed, h.listed⟩, List.nodup_cons.2 ⟨isNew, h.distinct⟩⟩

theorem perm {others : List CatalogEntry} (h : Lists catalog entries)
    (perm : others.Perm entries) : Lists catalog others where
  listed entry mem := h.listed entry (perm.subset mem)
  distinct := (perm.map _).nodup_iff.2 h.distinct

theorem sublist {others : List CatalogEntry} (h : Lists catalog entries)
    (sublist : others.Sublist entries) : Lists catalog others where
  listed entry mem := h.listed entry (sublist.subset mem)
  distinct := h.distinct.sublist (sublist.map _)

/-- What a catalog has under some ids, each of which is given once. -/
theorem filterMap (catalog : Catalog) {ids : List CurrencyId} (distinct : ids.Nodup) :
    Lists catalog (ids.filterMap catalog.get?) := by
  induction ids with
  | nil => exact nil catalog
  | cons uid rest ih =>
      obtain ⟨isNew, distinct⟩ := List.nodup_cons.1 distinct
      cases found : catalog.get? uid with
      | none => rw [List.filterMap_cons_none found]; exact ih distinct
      | some entry =>
          rw [List.filterMap_cons_some found]
          have keyed := catalog.keyed uid entry found
          refine (ih distinct).cons (keyed ▸ found) fun mem => isNew ?_
          obtain ⟨other, otherMem, same⟩ := List.mem_map.1 mem
          obtain ⟨otherUid, uidMem, otherFound⟩ := List.mem_filterMap.1 otherMem
          have otherKeyed := catalog.keyed otherUid other otherFound
          rw [← keyed, ← same, otherKeyed]
          exact uidMem

end Catalog.Lists

namespace AssetCollection

/-! ### Looking up a list of ids -/

theorem lists_lookUp (catalog : Catalog) (seen ids : List CurrencyId) :
    catalog.Lists (lookUp catalog seen ids).1 ∧
      ∀ entry ∈ (lookUp catalog seen ids).1, entry.uid ∉ seen := by
  induction ids generalizing seen with
  | nil => exact ⟨.nil catalog, by simp [lookUp]⟩
  | cons uid rest ih =>
      rw [lookUp]
      split
      · exact ih seen
      rename_i isNew
      have unseen : uid ∉ seen := by simpa using isNew
      obtain ⟨lists, apart⟩ := ih (uid :: seen)
      have apartSeen : ∀ entry ∈ (lookUp catalog (uid :: seen) rest).1, entry.uid ∉ seen :=
        fun entry mem inSeen => apart entry mem (List.mem_cons_of_mem uid inSeen)
      split
      · exact ⟨lists, apartSeen⟩
      · rename_i entry found
        have keyed := catalog.keyed uid entry found
        refine ⟨lists.cons (keyed ▸ found) fun mem => ?_, ?_⟩
        · obtain ⟨other, otherMem, same⟩ := List.mem_map.1 mem
          exact apart other otherMem (by rw [same, keyed]; exact List.mem_cons_self)
        · exact List.forall_mem_cons.2 ⟨keyed ▸ unseen, apartSeen⟩

/-- A list of entries is found again by its ids. -/
theorem lookUp_uids {catalog : Catalog} {entries : List CatalogEntry}
    (lists : catalog.Lists entries) {seen : List CurrencyId}
    (unseen : ∀ entry ∈ entries, entry.uid ∉ seen) :
    lookUp catalog seen (entries.map (·.uid)) = (entries, false) := by
  induction entries generalizing seen with
  | nil => rfl
  | cons entry rest ih =>
      obtain ⟨notSeen, unseen⟩ := List.forall_mem_cons.1 unseen
      obtain ⟨found, listed⟩ := List.forall_mem_cons.1 lists.listed
      obtain ⟨isNew, distinct⟩ := List.nodup_cons.1 lists.distinct
      have unseen : ∀ other ∈ rest, other.uid ∉ entry.uid :: seen := by
        intro other mem inSeen
        rcases List.mem_cons.1 inSeen with same | inSeen
        · exact isNew (List.mem_map.2 ⟨other, mem, same⟩)
        · exact unseen other mem inSeen
      rw [List.map_cons, lookUp, if_neg (by simpa using notSeen), found]
      simp only [ih ⟨listed, distinct⟩ unseen]

/-! ### A list with an entry moved -/

section Rearranged

variable {entries : List CatalogEntry} {source target : Nat} {moved : CatalogEntry}

theorem length_eraseIdx_of_there (there : entries[source]? = some moved) :
    (entries.eraseIdx source).length + 1 = entries.length := by
  obtain ⟨inside, -⟩ := List.getElem?_eq_some_iff.1 there
  rw [List.length_eraseIdx_of_lt inside]
  omega

theorem perm_rearranged (there : entries[source]? = some moved)
    (fits : target < entries.length) :
    ((entries.eraseIdx source).insertIdx target moved).Perm entries := by
  have length := length_eraseIdx_of_there there
  obtain ⟨inside, rfl⟩ := List.getElem?_eq_some_iff.1 there
  have within : target ≤ (entries.eraseIdx source).length := by omega
  exact (List.perm_insertIdx _ _ within).trans (List.getElem_cons_eraseIdx_perm inside)

end Rearranged

/-! ### Edits -/

/-- An edit of the working copy. -/
inductive Edit where
  | add (uid : CurrencyId)
  | remove (uid : CurrencyId)
  | removeAt (index : Nat)
  | move (source target : Nat)
  | resetToStandard
  | revert

/-- The collection after an edit, which may be refused. -/
def edit (collection : AssetCollection) : Edit → AssetCollection
  | .add uid => (collection.add uid).2
  | .remove uid => (collection.remove uid).2
  | .removeAt index => (collection.removeAt index).2
  | .move source target => (collection.move source target).2
  | .resetToStandard => collection.resetToStandard
  | .revert => collection.revert

/-- The list is one of catalog entries, and if nothing is unsaved it is what the
baseline names. -/
structure Tidy (collection : AssetCollection) : Prop where
  lists : collection.catalog.Lists collection.enabled
  clean : collection.hasUnsavedChanges = false → collection.enabled =
    (lookUp collection.catalog [] collection.baseline.value.enabledIds).1

theorem tidy_rebuild (collection : AssetCollection) : collection.rebuild.Tidy where
  lists := (lists_lookUp _ _ _).1
  clean _ := rfl

theorem tidy_revert (collection : AssetCollection) : collection.revert.Tidy where
  lists := (lists_lookUp _ _ _).1
  clean _ := rfl

variable {collection : AssetCollection}

/-- What comes of an edit that can be refused: all stays as it is, or another list of catalog
entries takes the place of the enabled ones and is unsaved. -/
inductive Edited {α : Type} (collection : AssetCollection)
    (turn : Except AssetError α × AssetCollection) : Prop
  | refused (fault : AssetError) (eq : turn = (.error fault, collection))
  | done (answer : α) (enabled : List CatalogEntry)
    (lists : collection.catalog.Lists collection.enabled → collection.catalog.Lists enabled)
    (eq : turn = (.ok answer, { collection with enabled, hasUnsavedChanges := true }))

theorem edited_add (collection : AssetCollection) (uid : CurrencyId) :
    Edited collection (collection.add uid) := by
  rw [add]
  split
  · exact .refused _ rfl
  rename_i isNew
  split
  · exact .refused _ rfl
  · rename_i entry found
    refine .done () _ (fun lists => ?_) rfl
    have keyed := collection.catalog.keyed uid entry found
    refine (lists.cons (keyed ▸ found) fun mem => isNew ?_).perm
      (List.perm_append_singleton entry _)
    rw [isEnabled, List.contains_iff_mem, ← keyed]
    exact mem

theorem edited_removeAt (collection : AssetCollection) (index : Nat) :
    Edited collection (collection.removeAt index) := by
  rw [removeAt]
  split
  · exact .refused _ rfl
  · exact .done _ _ (fun lists => lists.sublist (List.eraseIdx_sublist _ index)) rfl

theorem edited_remove (collection : AssetCollection) (uid : CurrencyId) :
    Edited collection (collection.remove uid) := by
  rw [remove]
  split
  · exact .refused _ rfl
  · rename_i index _
    cases collection.edited_removeAt index with
    | refused fault eq => exact .refused fault (by rw [eq]; rfl)
    | done entry enabled lists eq => exact .done () enabled lists (by rw [eq]; rfl)

theorem edited_move (collection : AssetCollection) (source target : Nat) :
    Edited collection (collection.move source target) := by
  rw [move]
  split
  · exact .refused _ rfl
  · rename_i entry there
    split
    · rename_i fits
      exact .done () _ (fun lists => lists.perm (perm_rearranged there fits)) rfl
    · exact .refused _ rfl

/-- What is refused changes nothing. -/
theorem Edited.of_error {α : Type} {turn : Except AssetError α × AssetCollection}
    (edited : Edited collection turn) {fault : AssetError} (refused : turn.1 = .error fault) :
    turn.2 = collection := by
  cases edited with
  | refused _ eq => rw [eq]
  | done _ _ _ eq =>
      rw [eq] at refused
      cases refused

theorem Edited.cases {α : Type} {turn : Except AssetError α × AssetCollection}
    (edited : Edited collection turn) (lists : collection.catalog.Lists collection.enabled) :
    turn.2 = collection ∨ ∃ enabled, collection.catalog.Lists enabled ∧
      turn.2 = { collection with enabled, hasUnsavedChanges := true } := by
  cases edited with
  | refused _ eq => exact .inl (by rw [eq])
  | done _ enabled kept eq => exact .inr ⟨enabled, kept lists, by rw [eq]⟩

/-- An edit is refused, or leaves a list of catalog entries that is unsaved, or
reverts the list. -/
theorem edit_cases (lists : collection.catalog.Lists collection.enabled) (edit : Edit) :
    collection.edit edit = collection ∨
      (∃ enabled, collection.catalog.Lists enabled ∧
        collection.edit edit = { collection with enabled, hasUnsavedChanges := true }) ∨
      collection.edit edit = collection.revert := by
  cases edit with
  | add uid => exact ((collection.edited_add uid).cases lists).imp_right .inl
  | remove uid => exact ((collection.edited_remove uid).cases lists).imp_right .inl
  | removeAt index => exact ((collection.edited_removeAt index).cases lists).imp_right .inl
  | move source target =>
      exact ((collection.edited_move source target).cases lists).imp_right .inl
  | resetToStandard =>
      have distinct : (NativeCurrency.defaultIds collection.networkClass).Nodup := by
        cases collection.networkClass <;> decide
      exact .inr (.inl ⟨_, .filterMap collection.catalog distinct, rfl⟩)
  | revert => exact .inr (.inr rfl)

theorem Tidy.edit (h : collection.Tidy) (edit : Edit) :
    (collection.edit edit).Tidy ∧ (collection.edit edit).catalog = collection.catalog ∧
      (collection.edit edit).baseline = collection.baseline := by
  rcases edit_cases h.lists edit with same | ⟨enabled, lists, same⟩ | same
  · rw [same]
    exact ⟨h, rfl, rfl⟩
  · rw [same]
    exact ⟨⟨lists, nofun⟩, rfl, rfl⟩
  · rw [same]
    exact ⟨tidy_revert collection, rfl, rfl⟩

end AssetCollection

end MultiWallet
