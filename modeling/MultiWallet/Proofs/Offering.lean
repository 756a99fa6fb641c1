import MultiWallet.Proofs.Migrating
import MultiWallet.Proofs.Moving

/-!
What can be added to a collection. Of the supported entries of the catalog each is either
enabled or offered, and the offer lists each once: first the currencies supported from the
start, then the others, each of the two groups by code. Only the order among entries of one
group and one code is left open. What is taken from the offer goes to the end of the list, and
what is taken from the list goes back to the offer.
-/

namespace MultiWallet

/-! ### Which entries come first -/

namespace CatalogEntry

/-- Whether the currency is one of those that are supported from the start. -/
def IsBuiltIn (entry : CatalogEntry) : Prop :=
  ∃ (currency : NativeCurrency) (networkClass : NetworkClass),
    currency.uid networkClass = entry.uid

theorem isPreferred_iff (entry : CatalogEntry) : entry.isPreferred = true ↔ entry.IsBuiltIn := by
  rw [isPreferred, NativeCurrency.includes, List.any_eq_true]
  constructor
  · rintro ⟨currency, -, same⟩
    rcases Bool.or_eq_true_iff.1 same with same | same
    · exact ⟨currency, .mainnet, beq_iff_eq.1 same⟩
    · exact ⟨currency, .testnet, beq_iff_eq.1 same⟩
  · rintro ⟨currency, networkClass, same⟩
    refine ⟨currency, by cases currency <;> decide, ?_⟩
    cases networkClass <;> simp [same]

end CatalogEntry

namespace AssetCollection

theorem comesBefore_iff {left right : CatalogEntry} :
    comesBefore left right = true ↔
      (right.IsBuiltIn → left.IsBuiltIn) ∧
        ((left.IsBuiltIn ↔ right.IsBuiltIn) → left.code ≤ right.code) := by
  rw [comesBefore, ← CatalogEntry.isPreferred_iff, ← CatalogEntry.isPreferred_iff]
  cases left.isPreferred <;> cases right.isPreferred <;> simp

theorem comesBefore_trans (first second third : CatalogEntry)
    (h : comesBefore first second = true) (h' : comesBefore second third = true) :
    comesBefore first third = true := by
  rw [comesBefore_iff] at h h' ⊢
  refine ⟨fun builtIn => h.1 (h'.1 builtIn), fun same => ?_⟩
  -- the second stands between two of one group, so it is of that group
  have firstSecond : first.IsBuiltIn ↔ second.IsBuiltIn :=
    ⟨fun builtIn => h'.1 (same.1 builtIn), h.1⟩
  exact String.le_trans (h.2 firstSecond) (h'.2 (firstSecond.symm.trans same))

theorem comesBefore_total (left right : CatalogEntry) :
    (comesBefore left right || comesBefore right left) = true := by
  rw [comesBefore, comesBefore]
  cases left.isPreferred <;> cases right.isPreferred <;>
    simp [String.le_total left.code right.code]

end AssetCollection

/-! ### Catalogs as lists -/

namespace Catalog

theorem distinct_toList (catalog : Catalog) : (catalog.toList.map (·.uid)).Nodup := by
  rw [toList, List.map_map, List.Nodup, List.pairwise_map]
  refine Std.ExtTreeMap.distinct_keys_toList.imp_of_mem fun mem mem' apart same => apart ?_
  rw [Function.comp, Function.comp,
    catalog.keyed _ _ (Std.ExtTreeMap.mem_toList_iff_getElem?_eq_some.1 mem),
    catalog.keyed _ _ (Std.ExtTreeMap.mem_toList_iff_getElem?_eq_some.1 mem')] at same
  exact Std.LawfulEqOrd.compare_eq_iff_eq.2 same

theorem get?_restrict_eq_some_iff {catalog : Catalog} {networkClass : NetworkClass}
    {uid : CurrencyId} {entry : CatalogEntry} :
    (catalog.restrict networkClass).get? uid = some entry ↔
      catalog.get? uid = some entry ∧ networkClass.admits uid.networkId = true := by
  rw [get?, restrict, Std.ExtTreeMap.getElem?_filter, Option.pfilter_eq_some_iff, get?]
  simp only [Std.ExtTreeMap.getKey_eq, exists_prop]

end Catalog

namespace AssetCollection

/-- A list offers the supported entries of a catalog that live on networks of a family and are
not enabled: each once, those supported from the start before all others, and with codes that
do not descend among those that are and among those that are not. -/
structure Offers (catalog : Catalog) (networkClass : NetworkClass)
    (enabled shown : List CatalogEntry) : Prop where
  mem : ∀ entry, entry ∈ shown ↔ catalog.get? entry.uid = some entry ∧
    networkClass.admits entry.uid.networkId = true ∧ entry.isSupported = true ∧
    entry.uid ∉ enabled.map (·.uid)
  distinct : (shown.map (·.uid)).Nodup
  builtInFirst : shown.Pairwise fun earlier later => later.IsBuiltIn → earlier.IsBuiltIn
  byCode : shown.Pairwise fun earlier later =>
    (earlier.IsBuiltIn ↔ later.IsBuiltIn) → earlier.code ≤ later.code

variable {catalog : Catalog} {networkClass : NetworkClass} {collection : AssetCollection}
  {shown : List CatalogEntry}

/-- What is offered is the supported part of the catalog that is not enabled. -/
theorem Lists.offers_available (h : Lists catalog networkClass collection) :
    Offers catalog networkClass collection.enabled collection.available := by
  have perm := List.mergeSort_perm (collection.catalog.toList.filter fun entry =>
    entry.isSupported && !collection.isEnabled entry.uid) comesBefore
  have sorted : collection.available.Pairwise fun left right => comesBefore left right = true :=
    List.pairwise_mergeSort comesBefore_trans comesBefore_total _
  refine ⟨fun entry => ?_, ?_, sorted.imp fun before => (comesBefore_iff.1 before).1,
    sorted.imp fun before => (comesBefore_iff.1 before).2⟩
  · have known : entry ∈ collection.catalog.toList ↔ catalog.get? entry.uid = some entry ∧
        networkClass.admits entry.uid.networkId = true := by
      rw [Catalog.mem_toList, h.catalog, Catalog.get?_restrict_eq_some_iff]
    rw [available, perm.mem_iff, List.mem_filter, known, Bool.and_eq_true, Bool.not_eq_true',
      isEnabled, ← Bool.not_eq_true, List.contains_iff_mem, and_assoc]
    rfl
  · refine (perm.map CatalogEntry.uid).nodup_iff.2 ?_
    exact collection.catalog.distinct_toList.sublist (List.filter_sublist.map _)

/-- Two offers of the same differ in their order at most. -/
theorem Offers.perm {enabled others : List CatalogEntry}
    (h : Offers catalog networkClass enabled shown)
    (h' : Offers catalog networkClass enabled others) : shown.Perm others :=
  (List.perm_ext_iff_of_nodup h.distinct.of_map h'.distinct.of_map).2 fun entry => by
    rw [h.mem, h'.mem]

/-! ### Adding and removing -/

/-- What is offered can be added, and is not offered any more. -/
theorem Offers.add (h : Offers catalog networkClass collection.enabled shown)
    (lists : Lists catalog networkClass collection) {index : Nat} {entry : CatalogEntry}
    (there : shown[index]? = some entry) :
    ∃ after, collection.add entry.uid = (.ok (), after) ∧
      after.enabled = collection.enabled ++ [entry] ∧
      Offers catalog networkClass after.enabled (shown.eraseIdx index) := by
  obtain ⟨known, admitted, -, isNew⟩ := (h.mem entry).1 (List.mem_of_getElem? there)
  have disabled : collection.isEnabled entry.uid = false := by
    rw [isEnabled, ← Bool.not_eq_true, List.contains_iff_mem]
    exact isNew
  have found : collection.catalog.get? entry.uid = some entry := by
    rw [lists.catalog, Catalog.get?_restrict_eq_some_iff]
    exact ⟨known, admitted⟩
  refine ⟨{ collection with
    enabled := collection.enabled ++ [entry], hasUnsavedChanges := true }, ?_, rfl, ?_⟩
  · rw [AssetCollection.add, disabled, found]
    rfl
  · have sublist := List.eraseIdx_sublist shown index
    refine ⟨fun other => ?_, h.distinct.sublist (sublist.map _), h.builtInFirst.sublist sublist,
      h.byCode.sublist sublist⟩
    rw [← CatalogEntry.filter_ne_of_distinct h.distinct there, List.mem_filter, h.mem other,
      decide_eq_true_eq, List.map_append, List.mem_append, not_or]
    simp only [List.map_cons, List.map_nil, List.mem_singleton, and_assoc]

/-- What is enabled can be removed, and the others keep their order. -/
theorem remove_of_mem (distinct : collection.enabledIds.Nodup) {entry : CatalogEntry}
    (mem : entry ∈ collection.enabled) :
    ∃ after, collection.remove entry.uid = (.ok (), after) ∧
      after.enabled = collection.enabled.filter (·.uid ≠ entry.uid) := by
  obtain ⟨place, there⟩ := List.mem_iff_getElem?.1 mem
  refine ⟨{ collection with
    enabled := collection.enabled.eraseIdx place, hasUnsavedChanges := true }, ?_, ?_⟩
  · rw [remove, displayOrder?_of_getElem? distinct there]
    dsimp only
    rw [removeAt, there]
    rfl
  · exact (CatalogEntry.filter_ne_of_distinct distinct there).symm

variable {σ : Type}

/-- In every collection that can be reached, what can be added are the supported entries of
the catalog that live on networks of the family and are not enabled, in their order. In
whatever order entries of one group and one code are shown, the one at any place can be added;
it then stands at the end of the list, and just the others can be added. What is enabled can be
removed; the others keep their order, and it can be added again if it is supported. -/
theorem enabled_or_offered (store : Store σ) (catalog : Catalog) (networkClass : NetworkClass)
    (s : σ) (acts : List (Act σ)) :
    let reached := (run store (load store catalog networkClass s) acts).1
    Offers catalog networkClass reached.enabled reached.available ∧
      (∀ shown, Offers catalog networkClass reached.enabled shown →
        ∀ index entry, shown[index]? = some entry →
          ∃ after, reached.add entry.uid = (.ok (), after) ∧
            after.enabled = reached.enabled ++ [entry] ∧
            Offers catalog networkClass after.enabled (shown.eraseIdx index) ∧
            after.available.Perm (shown.eraseIdx index)) ∧
      ∀ entry ∈ reached.enabled,
        ∃ after, reached.remove entry.uid = (.ok (), after) ∧
          after.enabled = reached.enabled.filter (·.uid ≠ entry.uid) ∧
          ∀ other, other ∈ after.available ↔
            other ∈ reached.available ∨ other = entry ∧ entry.isSupported = true := by
  intro reached
  have lists : Lists catalog networkClass reached :=
    (Lists.load store catalog networkClass s).run store acts
  refine ⟨lists.offers_available, fun shown offers index entry there => ?_, fun entry mem => ?_⟩
  · obtain ⟨after, adds, enabled, offers'⟩ := offers.add lists there
    have after_lists := lists.of_edited (reached.edited_add entry.uid)
    rw [adds] at after_lists
    exact ⟨after, adds, enabled, offers', after_lists.offers_available.perm offers'⟩
  · obtain ⟨after, removes, enabled⟩ := remove_of_mem lists.lists.distinct mem
    have after_lists := lists.of_edited (reached.edited_remove entry.uid)
    rw [removes] at after_lists
    obtain ⟨known, admitted⟩ := lists.listed mem
    refine ⟨after, removes, enabled, fun other => ?_⟩
    have kept : other.uid ∈ (reached.enabled.filter (·.uid ≠ entry.uid)).map (·.uid) ↔
        other.uid ∈ reached.enabled.map (·.uid) ∧ other.uid ≠ entry.uid := by
      simp only [List.mem_map, List.mem_filter, decide_eq_true_eq]
      constructor
      · rintro ⟨one, ⟨mem, apart⟩, same⟩
        exact ⟨⟨one, mem, same⟩, same ▸ apart⟩
      · rintro ⟨⟨one, mem, same⟩, apart⟩
        exact ⟨one, ⟨mem, same ▸ apart⟩, same⟩
    rw [after_lists.offers_available.mem, lists.offers_available.mem, enabled, kept]
    by_cases same : other.uid = entry.uid
    · -- entries of one currency are one entry, and that one was enabled
      have enabledBefore : other.uid ∈ reached.enabled.map (·.uid) :=
        same ▸ List.mem_map_of_mem mem
      constructor
      · rintro ⟨knownOther, -, supported, -⟩
        have isEntry : other = entry := by
          rw [same, known] at knownOther
          exact (Option.some.inj knownOther).symm
        exact .inr ⟨isEntry, isEntry ▸ supported⟩
      · rintro (⟨-, -, -, isNew⟩ | ⟨rfl, supported⟩)
        · exact absurd enabledBefore isNew
        · exact ⟨known, admitted, supported, fun kept => kept.2 rfl⟩
    · have isOther : other ≠ entry := fun isEntry => same (congrArg _ isEntry)
      simp only [same, isOther, not_false_eq_true, and_true, ne_eq, false_and, or_false]

/-- With bitcoin enabled a token can be added behind it, and bitcoin can be removed and is
offered then. -/
theorem token_added_bitcoin_removed :
    let token := Catalog.listing "ethereum-mainnet:0x01" "abc" "Alphabet" [] none 18
    let reached := (run ScriptedStore.store
      (load ScriptedStore.store (Catalog.bitcoin.insert token) .mainnet .empty) []).1
    let bitcoin := Network.bitcoin.currency
    reached.enabledIds = [bitcoin] ∧
      (∃ after, reached.add token.uid = (.ok (), after) ∧
        after.enabledIds = [bitcoin, token.uid] ∧ token ∉ after.available) ∧
      ∃ after, reached.remove bitcoin = (.ok (), after) ∧ after.enabledIds = [] ∧
        ∃ entry ∈ after.available, entry.uid = bitcoin := by
  intro token reached bitcoin
  obtain ⟨offers, adds, removes⟩ :=
    enabled_or_offered ScriptedStore.store (Catalog.bitcoin.insert token) .mainnet .empty []
  have listed : reached.enabledIds = [bitcoin] := by decide +kernel
  refine ⟨listed, ?_, ?_⟩
  · have offered : token ∈ reached.available :=
      (offers.mem token).2 ⟨Std.ExtTreeMap.getElem?_insert_self, by decide +kernel, rfl,
        by decide +kernel⟩
    obtain ⟨index, there⟩ := List.mem_iff_getElem?.1 offered
    obtain ⟨after, added, enabled, offers', perm⟩ := adds _ offers index token there
    have enabledIds : after.enabledIds = [bitcoin, token.uid] := by
      rw [AssetCollection.enabledIds, enabled, List.map_append]
      exact congrArg (· ++ [token.uid]) listed
    refine ⟨after, added, enabledIds, fun still => ?_⟩
    refine ((offers'.mem token).1 (perm.mem_iff.1 still)).2.2.2 ?_
    rw [show after.enabled.map (·.uid) = [bitcoin, token.uid] from enabledIds]
    exact List.mem_cons_of_mem _ (List.mem_singleton_self _)
  · obtain ⟨entry, mem, same⟩ : ∃ entry ∈ reached.enabled, entry.uid = bitcoin := by
      decide +kernel
    obtain ⟨after, removed, enabled, offered⟩ := removes entry mem
    have supported : entry.isSupported = true :=
      (by decide +kernel : ∀ entry ∈ reached.enabled, entry.isSupported = true) entry mem
    refine ⟨after, same ▸ removed, ?_, entry, (offered entry).2 (.inr ⟨rfl, supported⟩), same⟩
    have alone : reached.enabled.filter (·.uid ≠ bitcoin) = [] := by decide +kernel
    rw [AssetCollection.enabledIds, enabled, same, alone]
    rfl

end AssetCollection

end MultiWallet
