import MultiWallet.Asset.Index
import MultiWallet.Connection.Settings
import MultiWallet.Proofs.RecordFile
import MultiWallet.Replica.Memory

/-!
Objects come back from a store as they went in. Each kind of object is read back from
its own bytes; a store in memory holds on to these bytes, and a store in files finds
them again in the text that it wrote.
-/

namespace MultiWallet

namespace LegacyIndex

/-- The members of a stored index. -/
def members (index : LegacyIndex) : List (String × Json.Value) := [
  ("classVersion", .natural index.classVersion.toNat),
  ("enabledCurrencies", .texts index.enabled),
  ("hiddenCurrencies", .texts index.hidden),
  ("doesRequireSave", .natural index.doesRequireSave.toNat)]

theorem isPlain_toJson (index : LegacyIndex) : index.toJson.IsPlain :=
  ⟨rfl, Nat.lt_trans index.classVersion.toNat_lt (by decide), rfl, Json.isPlain_texts _, rfl,
    Json.isPlain_texts _, rfl, Nat.lt_trans index.doesRequireSave.toNat_lt (by decide), trivial⟩

theorem ofJson?_toJson (index : LegacyIndex) : ofJson? index.toJson = some index := by
  have fields : index.toJson.fields
      ["classVersion", "enabledCurrencies", "hiddenCurrencies", "doesRequireSave"] =
        some index.members := Json.fields_record rfl (by decide)
  have classVersion : Json.Fields.optional index.members "classVersion" (·.asUInt32) 0 =
      some index.classVersion := by
    simp [Json.Fields.optional, members, Json.asUInt32_natural]
  have enabled : Json.Fields.optional index.members "enabledCurrencies"
      (·.asList (·.asText)) [] = some index.enabled := by
    simp [Json.Fields.optional, members, List.lookup_cons, Json.asList_texts]
  have hidden : Json.Fields.optional index.members "hiddenCurrencies"
      (·.asList (·.asText)) [] = some index.hidden := by
    simp [Json.Fields.optional, members, List.lookup_cons, Json.asList_texts]
  have doesRequireSave : Json.Fields.optional index.members "doesRequireSave" (·.asUInt32) 0 =
      some index.doesRequireSave := by
    simp [Json.Fields.optional, members, List.lookup_cons, Json.asUInt32_natural]
  simp only [ofJson?, fields, classVersion, enabled, hidden, doesRequireSave, Option.bind_eq_bind,
    Option.bind_some, Option.pure_def]

/-- A stored index of the earlier form is read back as it was. -/
theorem decode?_encode (index : LegacyIndex) :
    Persisted.decode? (Persisted.encode index) = some index := by
  change (Json.parse index.toJson.compact).bind ofJson? = some index
  rw [Json.parse_compact index.isPlain_toJson, Option.bind_some, ofJson?_toJson]

end LegacyIndex

namespace WalletInfo

/-- The members of a stored record about the wallet. -/
def members (info : WalletInfo) : List (String × Json.Value) := [
  ("classVersion", .natural info.classVersion.toNat),
  ("name", .text info.name),
  ("creationDate", info.creationDate.elim .null fun date => .text date.text),
  ("connectionModes", .record (info.modes.toList.map fun (uid, number) =>
    (uid.text, .natural number.toNat)))]

theorem asOption_date (date : Option Instant) :
    (date.elim Json.Value.null fun date => .text date.text).asOption
      (·.asText.bind Instant.ofText?) = some date := by
  cases date with
  | none => rfl
  | some date =>
      change ((some date.text).bind Instant.ofText?).map some = _
      rw [Option.bind_some, Instant.ofText?_text, Option.map_some]

theorem asEntries_modes (modes : Table CurrencyId UInt8) :
    (Json.Value.record (modes.toList.map fun (uid, number) =>
      (uid.text, .natural number.toNat))).asEntries (·.asUInt8) =
        some (modes.toList.map fun entry => (entry.1.text, entry.2)) := by
  have written := Json.asEntries_record Json.asUInt8_natural
    (modes.toList.map fun entry => (entry.1.text, entry.2))
  rwa [List.map_map] at written

theorem ofJson?_toJson (info : WalletInfo) : ofJson? info.toJson = some info := by
  have fields : info.toJson.fields ["classVersion", "name", "creationDate", "connectionModes"] =
      some info.members := Json.fields_record rfl (by decide)
  have classVersion : Json.Fields.optional info.members "classVersion" (·.asUInt32)
      standard.classVersion = some info.classVersion := by
    simp [Json.Fields.optional, members, Json.asUInt32_natural]
  have name : Json.Fields.optional info.members "name" (·.asText) standard.name =
      some info.name := by
    simp [Json.Fields.optional, members, List.lookup_cons, Json.Value.text, Json.Value.asText]
  have creationDate : Json.Fields.optional info.members "creationDate"
      (·.asOption (·.asText.bind Instant.ofText?)) standard.creationDate =
        some info.creationDate := by
    simp [Json.Fields.optional, members, List.lookup_cons, asOption_date]
  have modes : Json.Fields.optional info.members "connectionModes" (·.asEntries (·.asUInt8)) [] =
      some (info.modes.toList.map fun entry => (entry.1.text, entry.2)) := by
    simp [Json.Fields.optional, members, List.lookup_cons, asEntries_modes]
  have again : (info.modes.toList.map fun entry => (entry.1.text, entry.2)).map
      (fun entry => ((⟨entry.1⟩ : CurrencyId), entry.2)) = info.modes.toList := by
    rw [List.map_map]
    exact List.map_id _
  simp only [ofJson?, fields, classVersion, name, creationDate, modes, again,
    Option.bind_eq_bind, Option.bind_some, Option.pure_def, Table.ofPairs_toList]

/-- A stored record about the wallet is read back as it was. -/
theorem decode?_encode (info : WalletInfo) :
    Persisted.decode? (Persisted.encode info) = some info := by
  change (Json.parse info.toJson.compact).bind ofJson? = some info
  rw [Json.parse_compact info.isPlain_toJson, Option.bind_some, ofJson?_toJson]

end WalletInfo

/-! ### Stores -/

/-- A record of an object's bytes is decoded as one of the object. -/
theorem Record.decoded_eq {α : Type} [Persisted α] {value : α} {raw : RawRecord}
    (decodes : Persisted.decode? (Persisted.encode value) = some value)
    (bytes : raw.value = Persisted.encode value) : raw.decoded = .ok (raw.withValue value) := by
  rw [decoded, bytes, decodes]

namespace Store

variable {σ α : Type} [Persisted α]

/-- Whether an object comes back from a store in some state: saving it answers with a record
of just this object, and loading finds the record that was answered. -/
def Returns (store : Store σ) (value : α) (version : Nat) (s : σ) : Prop :=
  ∃ record after, store.save value version s = (.ok record, after) ∧ record.value = value ∧
    record.deleted = false ∧ (store.load (α := α) after).1 = .ok (some record)

/-- An object comes back if its bytes are written and found again. -/
theorem returns_of_get {store : Store σ} {value : α} {version : Nat} {s after : σ} {raw : RawRecord}
    (decodes : Persisted.decode? (Persisted.encode value) = some value)
    (written : store.set (Persisted.key α) (Persisted.encode value) version s = (.ok raw, after))
    (bytes : raw.value = Persisted.encode value) (live : raw.deleted = false)
    (found : (store.get (Persisted.key α) after).1 = .ok (some raw)) :
    store.Returns value version s := by
  have decoded := Record.decoded_eq decodes bytes
  refine ⟨raw.withValue value, after, ?_, rfl, live, ?_⟩
  · rw [save, written, ← decoded]
  · rw [load]
    cases answer : store.get (Persisted.key α) after with
    | mk read last =>
        rw [answer] at found
        obtain rfl : read = .ok (some raw) := found
        simp only [Record.present, live, decoded]
        rfl

end Store

/-- Whether all objects of a type come back from either store: from one in memory in any
state, and from one in files whatever is on the disk, if the file can be written and then be
read and its version can be counted. -/
structure ComesBack (α : Type) [Persisted α] : Prop where
  memory : ∀ (value : α) (version : Nat) (memory : Memory),
    Memory.store.Returns value version memory
  files : ∀ (value : α) (version : Nat) (files : FileStore) (disk after : Disk) (raw : RawRecord),
    files.set (Persisted.key α) (Persisted.encode value) version disk = (.ok raw, after) →
      raw.version < UInt64.size →
        disk.refuses (.read (files.path (Persisted.key α)).place) = false →
          files.store.Returns value version disk

theorem comesBack_of_decode {α : Type} [Persisted α] (key : isKey (Persisted.key α))
    (decodes : ∀ value : α, Persisted.decode? (Persisted.encode value) = some value) :
    ComesBack α where
  memory value version memory := by
    have written : memory.set (Persisted.key α) (Persisted.encode value) version = _ := if_pos key
    refine Store.returns_of_get (decodes value) written rfl rfl ?_
    change Memory.get _ _ = _
    rw [Memory.get, if_pos key, Std.ExtTreeMap.getElem?_insert_self]
  files value version files disk after raw written fits reads := by
    obtain ⟨-, answer, -⟩ := FileStore.set_ok written
    refine Store.returns_of_get (decodes value) written (by rw [answer]) (by rw [answer]) ?_
    exact FileStore.get_of_set written fits reads

/-- The list of enabled currencies, its earlier form and the record about the wallet all come
back from a store as they were saved. -/
theorem kept_objects_come_back :
    ComesBack AssetIndex ∧ ComesBack LegacyIndex ∧ ComesBack WalletInfo :=
  ⟨comesBack_of_decode (by decide) AssetIndex.decode?_encode,
    comesBack_of_decode (by decide) LegacyIndex.decode?_encode,
    comesBack_of_decode (by decide) WalletInfo.decode?_encode⟩

/-- A disk with a record about the wallet that cannot be read. -/
def spoiledDisk : Disk :=
  (Disk.blank.put ["kv"] .directory).put ["kv", "wallet-info.kv.json"] (.file [0x7b, 0xff] .epoch)

/-- A fresh record about the wallet is kept in place of one that cannot be read. -/
theorem standard_info_comes_back :
    (FileStore.store ⟨⟨[], ["kv"]⟩⟩).Returns WalletInfo.standard 0 spoiledDisk := by
  have written : (FileStore.set ⟨⟨[], ["kv"]⟩⟩ "wallet-info"
      (Persisted.encode WalletInfo.standard) 0 spoiledDisk).1 =
        .ok ⟨"wallet-info", 1, .epoch, false, Persisted.encode WalletInfo.standard⟩ := by
    decide +kernel
  exact kept_objects_come_back.2.2.files _ _ _ _ _ _ (Prod.ext written rfl) (by decide) rfl

end MultiWallet
