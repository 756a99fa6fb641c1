import MultiWallet.Proofs.Contents

/-!
The currencies that a discovered network brings: which ones they are, when they
can be made, and what registering them does to the table of currencies.
-/

namespace MultiWallet

/-! ### Making currencies -/

theorem Currency.make?_eq_some {core : EngineCurrency} {network : Network} {entry : CatalogEntry}
    {currency : Currency} (h : Currency.make? core network entry = some currency) :
    currency.uid = core.uid ∧ currency.networkId = network.id := by
  rw [make?] at h
  split at h
  · cases h
  · obtain ⟨units, -, rfl⟩ := Option.map_eq_some_iff.1 h
    exact ⟨rfl, rfl⟩

theorem Currency.exists_make? {core : EngineCurrency} {network : Network} {entry : CatalogEntry}
    (uid : entry.uid = core.uid) (units : core.uid ∈ network.units) :
    ∃ currency, Currency.make? core network entry = some currency := by
  obtain ⟨set, found⟩ := Table.mem_iff_exists.1 units
  rw [← Option.isSome_iff_exists, make?, if_neg (fun differ => differ uid.symm), found]
  rfl

namespace Registry

variable {registry : Registry}

/-- Enlisting makes one currency of the network for each of the engine's, in their
order, and none that is registered already. -/
theorem enlist_ok {network : Network} {cores : List EngineCurrency} {made all : List Currency}
    (h : registry.enlist network made cores = .ok all) :
    ∃ rest, all = made ++ rest ∧ rest.map (·.uid) = cores.map (·.uid) ∧
      (∀ currency ∈ rest, currency.networkId = network.id) ∧
      ∀ core ∈ cores, core.uid ∉ registry.currencies := by
  induction cores generalizing made with
  | nil =>
      cases h
      exact ⟨[], by simp⟩
  | cons core cores ih =>
      rw [enlist] at h
      split at h
      · cases h
      split at h
      · cases h
      rename_i isNew
      split at h
      · cases h
      rename_i currency isMade
      obtain ⟨rest, rfl, uids, networks, fresh⟩ := ih h
      obtain ⟨sameUid, sameNetwork⟩ := Currency.make?_eq_some isMade
      have absent : core.uid ∉ registry.currencies := by
        intro mem
        simp [mem] at isNew
      refine ⟨currency :: rest, by simp, by simp [uids, sameUid], ?_, ?_⟩
      · exact List.forall_mem_cons.2 ⟨sameNetwork, networks⟩
      · exact List.forall_mem_cons.2 ⟨absent, fresh⟩

/-- Currencies can be enlisted that the catalog describes, that the network has
units for, and that are all new. -/
theorem exists_enlist {network : Network} {cores : List EngineCurrency} {made : List Currency}
    (described : ∀ core ∈ cores, registry.catalog.contains core.uid)
    (units : ∀ core ∈ cores, core.uid ∈ network.units)
    (fresh : ∀ core ∈ cores, core.uid ∉ registry.currencies)
    (distinct : (made.map (·.uid) ++ cores.map (·.uid)).Nodup) :
    ∃ all, registry.enlist network made cores = .ok all := by
  induction cores generalizing made with
  | nil => exact ⟨made, rfl⟩
  | cons core cores ih =>
      obtain ⟨entry, found⟩ := Option.isSome_iff_exists.1 (described core List.mem_cons_self)
      obtain ⟨currency, isMade⟩ := Currency.exists_make?
        (registry.catalog.keyed core.uid entry found) (units core List.mem_cons_self)
      have notMade : ∀ other ∈ made, other.uid ≠ core.uid := by
        intro other mem same
        have apart := (List.nodup_append.1 distinct).2.2 other.uid
          (List.mem_map.2 ⟨other, mem, rfl⟩) core.uid (by simp)
        exact apart same
      have isNew : ¬(registry.currencies.contains core.uid || made.any (·.uid == core.uid)) := by
        simpa [fresh core List.mem_cons_self] using notMade
      have distinct' : ((made ++ [currency]).map (·.uid) ++ cores.map (·.uid)).Nodup := by
        simpa [(Currency.make?_eq_some isMade).1] using distinct
      obtain ⟨all, ok⟩ := ih (fun other mem => described other (List.mem_cons_of_mem core mem))
        (fun other mem => units other (List.mem_cons_of_mem core mem))
        (fun other mem => fresh other (List.mem_cons_of_mem core mem)) distinct'
      refine ⟨all, ?_⟩
      rw [enlist, found]
      simp only [isNew, isMade]
      exact ok

/-! ### Registering currencies -/

theorem getElem?_register_of_not_mem {made : List Currency} {uid : CurrencyId}
    (h : uid ∉ made.map (·.uid)) :
    (registry.register made).currencies[uid]? = registry.currencies[uid]? := by
  change (made.foldl _ registry.currencies)[uid]? = _
  generalize registry.currencies = table
  induction made generalizing table with
  | nil => rfl
  | cons currency rest ih =>
      rw [List.map_cons, List.mem_cons, not_or] at h
      rw [List.foldl_cons, ih h.2, Std.ExtTreeMap.getElem?_insert, if_neg]
      exact fun same => h.1 (Std.LawfulEqOrd.eq_of_compare same).symm

/-- Currencies that were registered before stay as they were. -/
theorem getElem?_register_of_enlist {network : Network} {cores : List EngineCurrency}
    {made : List Currency} (enlisted : registry.enlist network [] cores = .ok made)
    {uid : CurrencyId} {currency : Currency}
    (known : registry.currencies[uid]? = some currency) :
    (registry.register made).currencies[uid]? = some currency := by
  obtain ⟨rest, rfl, uids, -, fresh⟩ := enlist_ok enlisted
  rw [getElem?_register_of_not_mem, known]
  intro mem
  rw [uids, List.mem_map] at mem
  obtain ⟨core, mem, rfl⟩ := mem
  exact fresh core mem (Table.mem_iff_exists.2 ⟨currency, known⟩)

theorem mem_or_of_register {made : List Currency} {uid : CurrencyId} {currency : Currency}
    (h : (registry.register made).currencies[uid]? = some currency) :
    (currency ∈ made ∧ currency.uid = uid) ∨ registry.currencies[uid]? = some currency := by
  change (made.foldl _ registry.currencies)[uid]? = _ at h
  revert h
  generalize registry.currencies = table
  induction made generalizing table with
  | nil => exact .inr
  | cons first rest ih =>
      intro h
      rcases ih _ h with ⟨mem, same⟩ | found
      · exact .inl ⟨List.mem_cons_of_mem first mem, same⟩
      · rw [Std.ExtTreeMap.getElem?_insert] at found
        split at found
        · rename_i same
          cases found
          exact .inl ⟨List.mem_cons_self, Std.LawfulEqOrd.eq_of_compare same⟩
        · exact .inr found

theorem mem_register {made : List Currency} {uid : CurrencyId} :
    uid ∈ (registry.register made).currencies ↔
      uid ∈ made.map (·.uid) ∨ uid ∈ registry.currencies := by
  change uid ∈ made.foldl _ registry.currencies ↔ _
  generalize registry.currencies = table
  induction made generalizing table with
  | nil => simp
  | cons currency rest ih =>
      rw [List.foldl_cons, ih, Std.ExtTreeMap.mem_insert, Std.LawfulEqCmp.compare_eq_iff_eq,
        List.map_cons, List.mem_cons, or_left_comm, eq_comm (a := uid), or_assoc]

end Registry

end MultiWallet
