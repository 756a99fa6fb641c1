import Mathlib.Data.List.Nodup
import MultiWallet.Proofs.WorkingCopy

/-!
Moving a currency to another place. No currency is listed twice, so that the place of
one in display order is where it stands and nowhere else. A move takes the entry out and
puts it back in elsewhere: without it both lists are the same one, which is why the
others keep their order, and why the move back leads to the list before.
-/

namespace MultiWallet

/-! ### Lists of distinct entries -/

/-- Without the entry at a place, the others are left in their order. -/
theorem CatalogEntry.filter_ne_of_distinct {entries : List CatalogEntry}
    (distinct : (entries.map (·.uid)).Nodup) {index : Nat} {entry : CatalogEntry}
    (there : entries[index]? = some entry) :
    entries.filter (·.uid ≠ entry.uid) = entries.eraseIdx index := by
  induction entries generalizing index with
  | nil => simp at there
  | cons first rest ih =>
      obtain ⟨isNew, distinct⟩ := List.nodup_cons.1 distinct
      cases index with
      | zero =>
          obtain rfl : first = entry := by simpa using there
          have others : ∀ other ∈ rest, other.uid ≠ first.uid := fun other mem same =>
            isNew (List.mem_map.2 ⟨other, mem, same⟩)
          simpa using others
      | succ index =>
          have there : rest[index]? = some entry := by simpa using there
          have differs : first.uid ≠ entry.uid := fun same =>
            isNew (List.mem_map.2 ⟨entry, List.mem_of_getElem? there, same.symm⟩)
          simpa [differs] using ih distinct there

namespace AssetCollection

variable {collection after : AssetCollection}

/-! ### Places -/

/-- The place of a currency is the one where it stands. -/
theorem displayOrder?_eq_some_iff (distinct : collection.enabledIds.Nodup) {uid : CurrencyId}
    {place : Nat} :
    collection.displayOrder? uid = some place ↔ collection.enabledIds[place]? = some uid := by
  rw [displayOrder?, List.findIdx?_eq_some_iff_getElem, List.getElem?_eq_some_iff]
  refine exists_congr fun inside => ?_
  rw [beq_iff_eq]
  refine ⟨And.left, fun here => ⟨here, fun earlier less there => ?_⟩⟩
  have same : earlier = place := distinct.getElem_inj_iff.1 ((beq_iff_eq.1 there).trans here.symm)
  omega

theorem enabledIds_getElem? (collection : AssetCollection) (place : Nat) :
    collection.enabledIds[place]? = collection.enabled[place]?.map (·.uid) :=
  List.getElem?_map ..

theorem displayOrder?_of_getElem? (distinct : collection.enabledIds.Nodup) {place : Nat}
    {entry : CatalogEntry} (there : collection.enabled[place]? = some entry) :
    collection.displayOrder? entry.uid = some place := by
  rw [displayOrder?_eq_some_iff distinct, enabledIds_getElem?, there, Option.map_some]

/-! ### Moves -/

/-- A move succeeds exactly between places of the list. -/
theorem move_eq (collection : AssetCollection) (source target : Nat) :
    collection.move source target =
      if inside : source < collection.enabled.length ∧ target < collection.enabled.length then
        (.ok (), { collection with
          enabled := (collection.enabled.eraseIdx source).insertIdx target
            collection.enabled[source]
          hasUnsavedChanges := true })
      else
        (.error (.indexOutOfBounds (if source < collection.enabled.length then target else source)
          collection.enabled.length), collection) := by
  rw [move]
  by_cases inside : source < collection.enabled.length
  · simp only [List.getElem?_eq_getElem inside, inside, true_and, if_true]
    split_ifs <;> rfl
  · simp [inside]

/-- What a move makes of the list, with the entry that is moved. -/
theorem move_ok {source target : Nat} (moves : collection.move source target = (.ok (), after)) :
    ∃ moved, collection.enabled[source]? = some moved ∧ target < collection.enabled.length ∧
      after.enabled = (collection.enabled.eraseIdx source).insertIdx target moved := by
  rw [move_eq] at moves
  split at moves
  · rename_i inside
    cases moves
    exact ⟨_, List.getElem?_eq_getElem inside.1, inside.2, rfl⟩
  · cases moves

/-- What is moved stands at the target, and what is outside of the range stays. -/
theorem getElem?_rearranged {entries : List CatalogEntry} {source target : Nat}
    {moved : CatalogEntry} (there : entries[source]? = some moved)
    (fits : target < entries.length) (place : Nat) :
    (place = target → ((entries.eraseIdx source).insertIdx target moved)[place]? = some moved) ∧
      (place < min source target ∨ max source target < place →
        ((entries.eraseIdx source).insertIdx target moved)[place]? = entries[place]?) := by
  have length := length_eraseIdx_of_there there
  rw [List.getElem?_insertIdx]
  refine ⟨?_, fun outside => ?_⟩
  · rintro rfl
    rw [if_neg (by omega), if_pos rfl, if_pos (by omega)]
  · rcases outside with before | behind
    · rw [if_pos (by omega), List.getElem?_eraseIdx, if_pos (by omega)]
    · rw [if_neg (by omega), if_neg (by omega), List.getElem?_eraseIdx, if_neg (by omega)]
      congr 1
      omega

/-- The move back leads to the list before. -/
theorem move_back {source target : Nat}
    (moves : collection.move source target = (.ok (), after)) :
    ∃ back, after.move target source = (.ok (), back) ∧
      back.enabled = collection.enabled := by
  obtain ⟨moved, there, fits, listed⟩ := move_ok moves
  obtain ⟨inside, rfl⟩ := List.getElem?_eq_some_iff.1 there
  have length : after.enabled.length = collection.enabled.length := by
    rw [listed, (perm_rearranged there fits).length_eq]
  have fits' : target < after.enabled.length := by omega
  rw [move_eq, dif_pos ⟨fits', by omega⟩]
  refine ⟨_, rfl, ?_⟩
  have atTarget : after.enabled[target] = collection.enabled[source] := by
    apply Option.some.inj
    rw [← List.getElem?_eq_getElem, listed]
    exact (getElem?_rearranged there fits target).1 rfl
  dsimp only
  rw [atTarget, listed, List.eraseIdx_insertIdx_self, List.insertIdx_eraseIdx_getElem]

variable {σ : Type}

/-- In every collection that can be reached, a move succeeds exactly between places of the
list, and else names the first place that is none and changes nothing. The currency that is
moved then has the target for its place; the others keep their order among each other, and
those outside of the range between the two places keep their own. What is enabled stays the
same, and the move back restores the list. -/
theorem move_rearranges (store : Store σ) (catalog : Catalog) (networkClass : NetworkClass)
    (s : σ) (acts : List (Act σ)) (source target : Nat) :
    let reached := (run store (load store catalog networkClass s) acts).1
    let length := reached.enabled.length
    ((∃ after, reached.move source target = (.ok (), after)) ↔
        source < length ∧ target < length) ∧
      (∀ fault after, reached.move source target = (.error fault, after) →
        fault = .indexOutOfBounds (if source < length then target else source) length ∧
          after = reached) ∧
      ∀ after, reached.move source target = (.ok (), after) →
        ∃ moved, reached.enabled[source]? = some moved ∧
          after.displayOrder? moved.uid = some target ∧
          after.enabled.filter (·.uid ≠ moved.uid) = reached.enabled.filter (·.uid ≠ moved.uid) ∧
          (∀ uid place, place < min source target ∨ max source target < place →
            (after.displayOrder? uid = some place ↔ reached.displayOrder? uid = some place)) ∧
          (∀ uid, after.isEnabled uid = reached.isEnabled uid) ∧
          ∃ back, after.move target source = (.ok (), back) ∧
            back.enabled = reached.enabled := by
  intro reached length
  have distinct : reached.enabledIds.Nodup :=
    ((Lists.load store catalog networkClass s).run store acts).lists.distinct
  refine ⟨?_, fun fault after refused => ?_, fun after moves => ?_⟩
  · rw [move_eq]
    split <;> simp_all [length]
  · rw [move_eq] at refused
    split at refused <;> cases refused
    exact ⟨rfl, rfl⟩
  · obtain ⟨moved, there, fits, listed⟩ := move_ok moves
    have perm : after.enabled.Perm reached.enabled := listed ▸ perm_rearranged there fits
    have samePlaces : after.enabledIds.Nodup := (perm.map CatalogEntry.uid).nodup_iff.2 distinct
    have stands := getElem?_rearranged there fits
    simp only [← listed] at stands
    have others : after.enabled.eraseIdx target = reached.enabled.eraseIdx source := by
      rw [listed, List.eraseIdx_insertIdx_self]
    refine ⟨moved, there, displayOrder?_of_getElem? samePlaces ((stands target).1 rfl), ?_,
      fun uid place outside => ?_, fun uid => ?_, move_back moves⟩
    · rw [CatalogEntry.filter_ne_of_distinct samePlaces ((stands target).1 rfl), others,
        CatalogEntry.filter_ne_of_distinct distinct there]
    · rw [displayOrder?_eq_some_iff samePlaces, displayOrder?_eq_some_iff distinct,
        enabledIds_getElem?, enabledIds_getElem?, (stands place).2 outside]
    · exact (perm.map CatalogEntry.uid).contains_eq

/-- The first of two currencies is moved behind the other one, and back. -/
theorem bitcoin_moved_behind_ether :
    let catalog := Catalog.bitcoin.insert
      (Catalog.listing "ethereum-mainnet:__native__" "eth" "Ethereum" [] none 18)
    let bitcoin := NativeCurrency.btc.uid .mainnet
    let ether := NativeCurrency.eth.uid .mainnet
    let reached := (run ScriptedStore.store (load ScriptedStore.store catalog .mainnet .empty)
      [.save]).1
    reached.enabledIds = [bitcoin, ether] ∧
      ∃ after, reached.move 0 1 = (.ok (), after) ∧ after.displayOrder? bitcoin = some 1 ∧
        (∀ uid, after.isEnabled uid = reached.isEnabled uid) ∧
        ∃ back, after.move 1 0 = (.ok (), back) ∧ back.enabled = reached.enabled := by
  intro catalog bitcoin ether reached
  obtain ⟨succeeds, -, laws⟩ :=
    move_rearranges ScriptedStore.store catalog .mainnet .empty [.save] 0 1
  have listed : reached.enabledIds = [bitcoin, ether] := by decide +kernel
  obtain ⟨after, moves⟩ := succeeds.2 (by decide +kernel)
  obtain ⟨moved, there, placed, -, -, kept, restored⟩ := laws after moves
  have isBitcoin : moved.uid = bitcoin := by
    have first := enabledIds_getElem? reached 0
    rw [listed, there] at first
    exact (Option.some.inj first).symm
  exact ⟨listed, after, moves, isBitcoin ▸ placed, kept, restored⟩

end AssetCollection

end MultiWallet
