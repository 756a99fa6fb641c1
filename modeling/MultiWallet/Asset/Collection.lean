import MultiWallet.Asset.Index
import MultiWallet.Replica.Notice

/-!
The working copy of the enabled currencies. Edits change a list in memory; only
saving writes it. The record that the store last reported is the baseline, to
which edits are reverted and against which remote changes are measured.
-/

namespace MultiWallet

inductive AssetError where
  | alreadyEnabled (uid : CurrencyId)
  | notEnabled (uid : CurrencyId)
  | unknownAsset (uid : CurrencyId)
  | indexOutOfBounds (index length : Nat)
deriving DecidableEq

def AssetError.message : AssetError → String
  | .alreadyEnabled uid => "Asset already enabled: " ++ uid.text
  | .notEnabled uid => "Asset not enabled: " ++ uid.text
  | .unknownAsset uid => "Asset not in catalog: " ++ uid.text
  | .indexOutOfBounds index length =>
    "Index " ++ toString index ++ " out of bounds for " ++ toString length ++ " assets"

/-- What came of a look at the store after a remote change. -/
inductive SyncOutcome where
  /-- The store holds nothing newer than the baseline. -/
  | unchanged
  /-- A newer index took the place of the baseline and of the working copy. -/
  | replaced (discardedEdits : Bool)
deriving DecidableEq

structure AssetCollection where
  /-- The catalog, restricted to the family of networks. -/
  catalog : Catalog
  networkClass : NetworkClass
  enabled : List CatalogEntry
  hasUnsavedChanges : Bool
  baseline : Record AssetIndex
  /-- The ids last told to those who follow the collection. -/
  announced : List CurrencyId
  /-- How often they were told since the collection was loaded. -/
  announcements : Nat

namespace AssetCollection

/-! ### Building the list -/

/-- Looks up ids in order, leaving out unknown ones and those that were seen. The
flag tells whether any was left out. -/
def lookUp (catalog : Catalog) : (seen : List CurrencyId) → List CurrencyId →
    List CatalogEntry × Bool
  | _, [] => ([], false)
  | seen, uid :: rest =>
    if seen.contains uid then ((lookUp catalog seen rest).1, true)
    else
      match catalog.get? uid with
      | none => ((lookUp catalog (uid :: seen) rest).1, true)
      | some entry =>
        let (entries, dropped) := lookUp catalog (uid :: seen) rest
        (entry :: entries, dropped)

/-- The working copy set back to the baseline. It counts as edited when the
baseline names something twice or something unknown. -/
def rebuild (collection : AssetCollection) : AssetCollection :=
  let (enabled, dropped) := lookUp collection.catalog [] collection.baseline.value.enabledIds
  { collection with enabled, hasUnsavedChanges := dropped }

def enabledIds (collection : AssetCollection) : List CurrencyId :=
  collection.enabled.map (·.uid)

/-- Tells those who follow the collection what is enabled. -/
def announce (collection : AssetCollection) : AssetCollection :=
  { collection with
    announced := collection.enabledIds, announcements := collection.announcements + 1 }

/-! ### Loading -/

variable {σ : Type}

/-- Writes a new index. If that fails the index is used unsaved. -/
def createIndex (store : Store σ) (index : AssetIndex) (s : σ) : Record AssetIndex × σ :=
  match store.save index 0 s with
  | (.ok record, s) => (record, s)
  | (.error _, s) => (.unsaved (Persisted.key AssetIndex) index, s)

/-- The stored index, else the migrated earlier one, else the standard one. What
is not stored yet is written. -/
def obtainIndex (store : Store σ) (catalog : Catalog) (networkClass : NetworkClass) (s : σ) :
    Record AssetIndex × σ :=
  match store.load (α := AssetIndex) s with
  | (.ok (some record), s) => (record, s)
  | (_, s) =>
    match store.load (α := LegacyIndex) s with
    | (.ok (some legacy), s) => createIndex store (legacy.value.migrate catalog networkClass) s
    | (_, s) => createIndex store (.standard networkClass) s

/-- The index to begin with. An empty one gives way to the standard one. -/
def firstIndex (store : Store σ) (catalog : Catalog) (networkClass : NetworkClass) (s : σ) :
    Record AssetIndex × σ :=
  match obtainIndex store catalog networkClass s with
  | (record, s) =>
    if record.value.enabledIds = [] then createIndex store (.standard networkClass) s
    else (record, s)

def load (store : Store σ) (catalog : Catalog) (networkClass : NetworkClass) (s : σ) :
    AssetCollection × σ :=
  let catalog := catalog.restrict networkClass
  match firstIndex store catalog networkClass s with
  | (baseline, s) =>
    (rebuild {
      catalog, networkClass, enabled := [], hasUnsavedChanges := false, baseline,
      announced := baseline.value.enabledIds, announcements := 0 }, s)

/-! ### Looking -/

def isEnabled (collection : AssetCollection) (uid : CurrencyId) : Bool :=
  collection.enabledIds.contains uid

def displayOrder? (collection : AssetCollection) (uid : CurrencyId) : Option Nat :=
  collection.enabledIds.findIdx? (· == uid)

/-- Whether an entry comes no later than another among those that can be added:
preferred ones first, then by code. -/
def comesBefore (left right : CatalogEntry) : Bool :=
  if left.isPreferred == right.isPreferred then left.code ≤ right.code
  else left.isPreferred

/-- The supported currencies that can be added. -/
def available (collection : AssetCollection) : List CatalogEntry :=
  (collection.catalog.toList.filter fun entry =>
    entry.isSupported && !collection.isEnabled entry.uid).mergeSort comesBefore

/-! ### Editing -/

/-- Enables a currency behind all others. -/
def add (collection : AssetCollection) (uid : CurrencyId) :
    Except AssetError Unit × AssetCollection :=
  if collection.isEnabled uid then (.error (.alreadyEnabled uid), collection)
  else
    match collection.catalog.get? uid with
    | none => (.error (.unknownAsset uid), collection)
    | some entry =>
      (.ok (), { collection with
        enabled := collection.enabled ++ [entry], hasUnsavedChanges := true })

/-- Disables the currency at a place, and gives its entry. -/
def removeAt (collection : AssetCollection) (index : Nat) :
    Except AssetError CatalogEntry × AssetCollection :=
  match collection.enabled[index]? with
  | none => (.error (.indexOutOfBounds index collection.enabled.length), collection)
  | some entry =>
    (.ok entry, { collection with
      enabled := collection.enabled.eraseIdx index, hasUnsavedChanges := true })

def remove (collection : AssetCollection) (uid : CurrencyId) :
    Except AssetError Unit × AssetCollection :=
  match collection.displayOrder? uid with
  | none => (.error (.notEnabled uid), collection)
  | some index =>
    let (answer, collection) := collection.removeAt index
    (answer.map fun _ => (), collection)

def move (collection : AssetCollection) (source target : Nat) :
    Except AssetError Unit × AssetCollection :=
  let length := collection.enabled.length
  match collection.enabled[source]? with
  | none => (.error (.indexOutOfBounds source length), collection)
  | some entry =>
    if target < length then
      (.ok (), { collection with
        enabled := (collection.enabled.eraseIdx source).insertIdx target entry
        hasUnsavedChanges := true })
    else (.error (.indexOutOfBounds target length), collection)

/-- Enables exactly the currencies of a fresh wallet. -/
def resetToStandard (collection : AssetCollection) : AssetCollection :=
  { collection with
    enabled := (NativeCurrency.defaultIds collection.networkClass).filterMap
      collection.catalog.get?
    hasUnsavedChanges := true }

def revert (collection : AssetCollection) : AssetCollection :=
  { collection.rebuild with hasUnsavedChanges := false }

/-! ### Saving and following -/

/-- Writes the working copy if it was edited. The answer tells whether anything
was written. -/
def save (store : Store σ) (collection : AssetCollection) (s : σ) :
    Except ReplicaError Bool × AssetCollection × σ :=
  if collection.hasUnsavedChanges then
    match store.save (AssetIndex.ofIds collection.enabledIds) collection.baseline.version s with
    | (.error fault, s) => (.error fault, collection, s)
    | (.ok record, s) =>
      (.ok true, announce { collection with baseline := record, hasUnsavedChanges := false }, s)
  else (.ok false, collection, s)

/-- Takes over an index if it is newer than the baseline. -/
def adopt (collection : AssetCollection) (remote : Option (Record AssetIndex)) :
    SyncOutcome × AssetCollection :=
  match remote with
  | none => (.unchanged, collection)
  | some record =>
    if record.version ≤ collection.baseline.version then (.unchanged, collection)
    else
      (.replaced collection.hasUnsavedChanges,
        announce (rebuild { collection with baseline := record }))

/-- Looks for a newer index in the store. -/
def reconcile (store : Store σ) (collection : AssetCollection) (s : σ) :
    Except ReplicaError SyncOutcome × AssetCollection × σ :=
  match store.load (α := AssetIndex) s with
  | (.error fault, s) => (.error fault, collection, s)
  | (.ok remote, s) =>
    let (outcome, collection) := collection.adopt remote
    (.ok outcome, collection, s)

/-- Looks for a newer index if a notification concerns it. -/
def heed (store : Store σ) (notice : Notice) (collection : AssetCollection) (s : σ) :
    Except ReplicaError SyncOutcome × AssetCollection × σ :=
  if notice.touches (Persisted.key AssetIndex) then collection.reconcile store s
  else (.ok .unchanged, collection, s)

/-- Heeds notifications one after another. A failed look is made up for by a
later one. -/
def heedAll (store : Store σ) (collection : AssetCollection) (s : σ) :
    List Notice → AssetCollection × σ
  | [] => (collection, s)
  | notice :: rest =>
    match collection.heed store notice s with
    | (_, collection, s) => collection.heedAll store s rest

end AssetCollection

end MultiWallet
