import MultiWallet.Catalog.Basic
import MultiWallet.Replica.Store

/-!
The stored lists of enabled currencies. The present form lists currency ids in
display order. An earlier form listed names of chains and addresses of tokens;
it is read only to be migrated.
-/

namespace MultiWallet

/-- The enabled currencies in display order. -/
structure AssetIndex where
  classVersion : UInt32
  enabledIds : List CurrencyId
deriving DecidableEq

namespace AssetIndex

def currentClassVersion : UInt32 := 2

/-- An index of the present version. -/
def ofIds (ids : List CurrencyId) : AssetIndex := ⟨currentClassVersion, ids⟩

def standard (networkClass : NetworkClass) : AssetIndex :=
  ofIds (NativeCurrency.defaultIds networkClass)

def toJson (index : AssetIndex) : Json.Value :=
  .record [
    ("classVersion", .natural index.classVersion.toNat),
    ("enabledAssetIds", .texts (index.enabledIds.map (·.text)))]

def ofJson? (value : Json.Value) : Option AssetIndex := do
  let fields ← value.fields ["classVersion", "enabledAssetIds"]
  let classVersion ← fields.required "classVersion" (·.asUInt32)
  let ids ← fields.required "enabledAssetIds" (·.asList (·.asText))
  return ⟨classVersion, ids.map CurrencyId.mk⟩

instance : Persisted AssetIndex where
  key := "asset-index"
  encode index := index.toJson.compact
  decode? bytes := (Json.parse bytes).bind ofJson?

end AssetIndex

structure LegacyIndex where
  classVersion : UInt32
  enabled : List String
  hidden : List String
  doesRequireSave : UInt32
deriving DecidableEq

namespace LegacyIndex

def blank : LegacyIndex := ⟨0, [], [], 0⟩

def toJson (index : LegacyIndex) : Json.Value :=
  .record [
    ("classVersion", .natural index.classVersion.toNat),
    ("enabledCurrencies", .texts index.enabled),
    ("hiddenCurrencies", .texts index.hidden),
    ("doesRequireSave", .natural index.doesRequireSave.toNat)]

/-- The index that a JSON value holds. Any field may be missing. -/
def ofJson? (value : Json.Value) : Option LegacyIndex := do
  let fields ←
    value.fields ["classVersion", "enabledCurrencies", "hiddenCurrencies", "doesRequireSave"]
  let classVersion ← fields.optional "classVersion" (·.asUInt32) 0
  let enabled ← fields.optional "enabledCurrencies" (·.asList (·.asText)) []
  let hidden ← fields.optional "hiddenCurrencies" (·.asList (·.asText)) []
  let doesRequireSave ← fields.optional "doesRequireSave" (·.asUInt32) 0
  return ⟨classVersion, enabled, hidden, doesRequireSave⟩

instance : Persisted LegacyIndex where
  key := "token-list-metadata-2"
  encode index := index.toJson.compact
  decode? bytes := (Json.parse bytes).bind ofJson?

/-! ### Migration -/

/-- The leads by which a key names a token address. -/
def tokenLeads : List String := ["erc20:", "erc20_"]

/-- The chain that a lower-case key names. -/
def chain? (key : String) : Option NativeCurrency :=
  if key = "btc" ∨ key = "bitcoin" then some .btc
  else if key = "bch" ∨ key = "bitcoincash" then some .bch
  else if key = "eth" ∨ key = "ethereum" then some .eth
  else none

/-- The token address in a lower-case key, if it names one. -/
def tokenAddress? (key : String) : Option String :=
  tokenLeads.findSome? fun lead =>
    if Text.startsWith key lead then some (String.ofList (key.toList.drop lead.length)) else none

/-- The id that a key stands for in a catalog. -/
def resolve? (catalog : Catalog) (networkClass : NetworkClass) (key : String) :
    Option CurrencyId :=
  let key := Text.lower key
  match tokenAddress? key with
  | some address => (catalog.withAddress? address).map (·.uid)
  | none => ((chain? key).map (·.uid networkClass)).filter catalog.contains

/-- Adds what a key stands for to the end of a list, unless it stands for
nothing or is in the list. -/
def addResolved (catalog : Catalog) (networkClass : NetworkClass) (ids : List CurrencyId)
    (key : String) : List CurrencyId :=
  match resolve? catalog networkClass key with
  | some uid => if ids.contains uid then ids else ids ++ [uid]
  | none => ids

/-- The index in the present form. Keys that stand for nothing are left out. -/
def migrate (index : LegacyIndex) (catalog : Catalog) (networkClass : NetworkClass) :
    AssetIndex :=
  .ofIds (index.enabled.foldl (addResolved catalog networkClass) [])

end LegacyIndex

end MultiWallet
