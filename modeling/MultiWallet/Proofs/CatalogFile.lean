import Mathlib.Data.List.Induction
import MultiWallet.Catalog.Bundled
import MultiWallet.Proofs.TypedRecords

/-!
The catalog file. Whatever catalog is written is read back, entry by entry and field by
field; and so is the file that comes with the program.
-/

namespace MultiWallet

namespace CatalogEntry

/-! ### An entry -/

/-- The members of a stored entry. -/
def members (entry : CatalogEntry) : List (String × Json.Value) := [
  ("currency_id", .text entry.uid.text),
  ("code", .text entry.code),
  ("name", .text entry.name),
  ("is_supported", .bool entry.isSupported),
  ("colors", .texts entry.colors),
  ("contract_address", entry.tokenAddress.elim .null .text),
  ("scale", .natural entry.decimals.toNat)] ++
  (entry.alternateNames.map fun names =>
    ("alternate_names", .record (names.toList.map fun (key, name) => (key, .text name)))).toList

theorem isPlain_toJson (entry : CatalogEntry) : entry.toJson.IsPlain := by
  have address : (entry.tokenAddress.elim Json.Value.null .text).IsPlain := by
    cases entry.tokenAddress <;> trivial
  have decimals : (Json.Value.natural entry.decimals.toNat).IsPlain :=
    Nat.lt_trans entry.decimals.toNat_lt (by decide)
  have names (table : Table String String) : (Json.Value.record (table.toList.map fun entry =>
      (entry.1, .text entry.2))).IsPlain := by
    refine Json.isPlain_record fun member mem => ?_
    obtain ⟨pair, -, rfl⟩ := List.mem_map.1 mem
    exact Option.isSome_some
  refine Json.isPlain_record fun member mem => ?_
  rcases List.mem_append.1 mem with always | sometimes
  · simp only [List.mem_cons, List.not_mem_nil, or_false] at always
    rcases always with rfl | rfl | rfl | rfl | rfl | rfl | rfl
    · exact Option.isSome_some
    · exact Option.isSome_some
    · exact Option.isSome_some
    · trivial
    · exact Json.isPlain_texts _
    · exact address
    · exact decimals
  · obtain ⟨table, -, rfl⟩ := Option.map_eq_some_iff.1 (Option.mem_toList.1 sometimes)
    exact names table

theorem fields_toJson (entry : CatalogEntry) :
    entry.toJson.fields fieldNames = some entry.members := by
  apply Json.fields_record_of_known
  · cases entry.alternateNames <;> simp [fieldNames]
  · cases entry.alternateNames <;> simp

theorem asOption_address (address : Option String) :
    (address.elim Json.Value.null .text).asOption (·.asText) = some address := by
  cases address <;> rfl

theorem alternateNames_members (entry : CatalogEntry) :
    Json.Fields.optional entry.members "alternate_names"
      (·.asOption (·.asEntries (·.asText))) none =
        some (entry.alternateNames.map (·.toList)) := by
  cases given : entry.alternateNames with
  | none => simp [Json.Fields.optional, members, given, List.lookup_cons]
  | some names =>
      have written := Json.asEntries_record
        (fun name => (rfl : (Json.Value.text name).asText = some name)) names.toList
      have there : entry.members.lookup "alternate_names" =
          some (.record (names.toList.map fun pair => (pair.1, .text pair.2))) := by
        simp [members, given, List.lookup_cons]
      rw [Json.Fields.optional, there]
      change ((Json.Value.record _).asEntries (·.asText)).map some = _
      rw [written]
      rfl

/-- An entry is read back as it was. -/
theorem ofJson?_toJson (entry : CatalogEntry) : ofJson? entry.toJson = some entry := by
  have uid : Json.Fields.required entry.members "currency_id" (·.asText) =
      some entry.uid.text := rfl
  have code : Json.Fields.required entry.members "code" (·.asText) = some entry.code := rfl
  have name : Json.Fields.required entry.members "name" (·.asText) = some entry.name := rfl
  have isSupported : Json.Fields.required entry.members "is_supported" (·.asBool) =
      some entry.isSupported := rfl
  have colors : Json.Fields.optional entry.members "colors" (·.asList (·.asText)) [] =
      some entry.colors := Json.asList_texts entry.colors
  have address : Json.Fields.optional entry.members "contract_address"
      (·.asOption (·.asText)) none = some entry.tokenAddress := asOption_address entry.tokenAddress
  have decimals : Json.Fields.required entry.members "scale" (·.asUInt8) = some entry.decimals :=
    Json.asUInt8_natural entry.decimals
  have names : (entry.alternateNames.map (·.toList)).map Table.ofPairs =
      entry.alternateNames := by
    cases entry.alternateNames with
    | none => rfl
    | some table => exact congrArg some (Table.ofPairs_toList table)
  simp only [ofJson?, fields_toJson, uid, code, name, isSupported, colors, address, decimals,
    alternateNames_members, names, Option.bind_eq_bind, Option.bind_some, Option.pure_def]

/-! ### A list of entries -/

theorem listOfBytes?_listToBytes {layout : Json.Layout} (blank : layout.IsBlank)
    (entries : List CatalogEntry) {blanks : Bytes} (trailing : Json.Blank blanks) :
    listOfBytes? (listToBytes layout entries ++ blanks) = some entries := by
  have plain : (Json.Value.array (entries.map toJson)).IsPlain := by
    refine Json.plainItems_iff.2 fun item mem => ?_
    obtain ⟨entry, -, rfl⟩ := List.mem_map.1 mem
    exact entry.isPlain_toJson
  rw [listOfBytes?, listToBytes, Json.parse_write_append blank plain trailing, Option.bind_some]
  exact Json.asList_map ofJson?_toJson entries

/-- The last entry of a listing for an id. -/
def lastFor? (listed : List CatalogEntry) (uid : CurrencyId) : Option CatalogEntry :=
  (listed.filter (·.uid == uid)).getLast?

end CatalogEntry

namespace Catalog

open CatalogEntry (lastFor?)

/-! ### What a catalog gives for an id -/

theorem ext_get? {first second : Catalog} (same : ∀ uid, first.get? uid = second.get? uid) :
    first = second := by
  have entries : first.entries = second.entries := Std.ExtTreeMap.ext_getElem? same
  cases first
  cases second
  cases entries
  rfl

theorem get?_insert (catalog : Catalog) (entry : CatalogEntry) (uid : CurrencyId) :
    (catalog.insert entry).get? uid =
      if entry.uid = uid then some entry else catalog.get? uid := by
  rw [get?, insert, Std.ExtTreeMap.getElem?_insert]
  simp only [Std.LawfulEqOrd.compare_eq_iff_eq]
  rfl

/-- Of several entries for an id the last one counts. -/
theorem get?_insertAll (catalog : Catalog) (listed : List CatalogEntry) (uid : CurrencyId) :
    (catalog.insertAll listed).get? uid = (lastFor? listed uid).or (catalog.get? uid) := by
  -- The induction goes from the end, where the entry that counts stands.
  induction listed using List.reverseRecOn with
  | nil => rfl
  | append_singleton listed entry ih =>
      have last : catalog.insertAll (listed ++ [entry]) =
          (catalog.insertAll listed).insert entry := List.foldl_append
      rw [last, get?_insert, ih, lastFor?, lastFor?, List.filter_append]
      split_ifs with same
      · rw [List.filter_cons_of_pos (by simpa using same), List.filter_nil,
          List.getLast?_concat, Option.some_or]
      · rw [List.filter_cons_of_neg (by simpa using same), List.filter_nil, List.append_nil]

theorem get?_withdraw (catalog : Catalog) (listed : List CatalogEntry) (uid : CurrencyId) :
    (catalog.withdraw listed).get? uid = (catalog.get? uid).map fun entry =>
      if listed.any (·.uid == uid) then entry else { entry with isSupported := false } := by
  rw [get?, withdraw, Std.ExtTreeMap.getElem?_map]
  rfl

/-- What a listing says last about an id counts, and what it leaves out stays unsupported. -/
theorem get?_absorb (catalog : Catalog) (listed : List CatalogEntry) (uid : CurrencyId) :
    (catalog.absorb listed).get? uid = (lastFor? listed uid).or
      ((catalog.get? uid).map fun entry => { entry with isSupported := false }) := by
  rw [absorb, get?_insertAll, get?_withdraw]
  cases last : lastFor? listed uid with
  | some entry => rfl
  | none =>
      have missing : listed.any (·.uid == uid) = false :=
        List.any_eq_false.2 (List.filter_eq_nil_iff.1 (List.getLast?_eq_none_iff.1 last))
      simp only [missing]
      rfl

/-! ### Reading a catalog back -/

theorem entries_insertAll (catalog : Catalog) (listed : List CatalogEntry) :
    (catalog.insertAll listed).entries =
      listed.foldl (fun table entry => table.insert entry.uid entry) catalog.entries := by
  induction listed generalizing catalog with
  | nil => rfl
  | cons entry rest ih => exact ih (catalog.insert entry)

theorem ofEntries_toList (catalog : Catalog) : ofEntries catalog.toList = catalog := by
  have own (table : Table CurrencyId CatalogEntry) (pair : CurrencyId × CatalogEntry)
      (mem : pair ∈ catalog.entries.toList) :
      table.insert pair.2.uid pair.2 = table.insert pair.1 pair.2 := by
    rw [catalog.keyed pair.1 pair.2 (Std.ExtTreeMap.mem_toList_iff_getElem?_eq_some.1 mem)]
  have entries : (ofEntries catalog.toList).entries = catalog.entries := by
    rw [ofEntries, entries_insertAll, toList, List.foldl_map, List.foldl_ext _ _ _ own]
    exact Table.ofPairs_toList catalog.entries
  exact ext_get? fun uid => congrArg (·[uid]?) entries

/-- A catalog is read back as it was. -/
theorem ofBytes?_toBytes (catalog : Catalog) : ofBytes? catalog.toBytes = some catalog := by
  have read := CatalogEntry.listOfBytes?_listToBytes RawRecord.blank_indented catalog.toList
    (List.forall_mem_nil _)
  rw [List.append_nil] at read
  rw [ofBytes?, toBytes, read]
  exact congrArg some catalog.ofEntries_toList

/-- The file that comes with the program holds the catalog that comes with it. -/
theorem ofBytes?_bundledFile : ofBytes? bundledFile = some bundled := by
  have blank : (Json.Layout.indentedTo 2).IsBlank := RawRecord.blank_indented
  have trailing : Json.Blank [0x0a] := List.forall_mem_singleton.2 rfl
  have read := CatalogEntry.listOfBytes?_listToBytes blank bundledEntries trailing
  rw [ofBytes?, bundledFile, read]
  rfl

end Catalog

end MultiWallet
