import MultiWallet.Disk.Path
import MultiWallet.Json.Fields
import MultiWallet.Json.Reader
import MultiWallet.NetworkClass

/-!
The configuration. Every setting has a default, so that any part of a
configuration file, or none at all, makes a usable configuration. The networks
that are asked for have to be of the family that is asked for.
-/

namespace MultiWallet

structure CatalogConfig where
  baseUrl : String
  requestTimeoutSeconds : Nat
  maxFetchSeconds : Nat
  maxAgeSeconds : Option Nat
  fileName : String
deriving DecidableEq

namespace CatalogConfig

def standard : CatalogConfig :=
  ⟨"https://api.breadwallet.com", 30, 10, some 3600, "currencies.json"⟩

def fieldNames : List String :=
  ["base_url", "request_timeout_secs", "max_fetch_elapsed_secs", "cache_max_age_secs",
    "cache_file_name"]

def ofJson? (value : Json.Value) : Option CatalogConfig := do
  let fields ← value.fields fieldNames
  return {
    baseUrl := ← fields.optional "base_url" (·.asText) standard.baseUrl
    requestTimeoutSeconds :=
      ← fields.optional "request_timeout_secs" (·.asWord) standard.requestTimeoutSeconds
    maxFetchSeconds :=
      ← fields.optional "max_fetch_elapsed_secs" (·.asWord) standard.maxFetchSeconds
    maxAgeSeconds :=
      ← fields.optional "cache_max_age_secs" (·.asOption (·.asWord)) standard.maxAgeSeconds
    fileName := ← fields.optional "cache_file_name" (·.asText) standard.fileName }

end CatalogConfig

/-- The family that a JSON value names, as a text or as the one member of an
object. -/
def NetworkClass.ofJson? (value : Json.Value) : Option NetworkClass := do
  let name ← match value with
    | .object [(name, .null)] => name
    | value => value.asText
  if name = "mainnet" then some .mainnet
  else if name = "testnet" then some .testnet
  else none

structure Config where
  networkClass : NetworkClass
  dataDirectory : String
  /-- The networks to be discovered. -/
  requiredNetworks : List String
  catalog : CatalogConfig
deriving DecidableEq

inductive ConfigError where
  | read
  | parse
  | invalid (reason : String)
deriving DecidableEq

/-- The wording of an error, where it is this program's own. -/
def ConfigError.message? : ConfigError → Option String
  | .invalid reason => some ("Invalid config: " ++ reason)
  | .read | .parse => none

namespace Config

/-- The configuration without a file. -/
def standard : Config where
  networkClass := .mainnet
  dataDirectory := "./wallet-data"
  requiredNetworks := ["bitcoin-mainnet", "bitcoincash-mainnet", "ethereum-mainnet"]
  catalog := .standard

def fieldNames : List String := ["network_class", "data_dir", "required_networks", "catalog"]

def ofJson? (value : Json.Value) : Option Config := do
  let fields ← value.fields fieldNames
  return {
    networkClass := ← fields.optional "network_class" NetworkClass.ofJson? standard.networkClass
    dataDirectory := ← fields.optional "data_dir" (·.asText) standard.dataDirectory
    requiredNetworks :=
      ← fields.optional "required_networks" (·.asList (·.asText)) standard.requiredNetworks
    catalog := ← fields.optional "catalog" CatalogConfig.ofJson? standard.catalog }

/-- Refuses a configuration without networks, or with one of the other
family. -/
def validate (config : Config) : Except ConfigError Config :=
  if config.requiredNetworks = [] then
    .error (.invalid "at least one required network must be configured")
  else
    match config.requiredNetworks.find? (!config.networkClass.admits ·) with
    | some network =>
      .error <| .invalid <| "network " ++ network ++ " does not match network class "
        ++ config.networkClass.title
    | none => .ok config

def ofText (text : String) : Except ConfigError Config :=
  match (Json.parse (Text.utf8 text)).bind ofJson? with
  | none => .error .parse
  | some config => config.validate

def load (disk : Disk) (path : DiskPath) : Except ConfigError Config :=
  match disk.readText path with
  | .error _ => .error .read
  | .ok text => ofText text

/-- The directory that is left to the engine. -/
def coreDirectory (config : Config) : String := DiskPath.join config.dataDirectory "core"

def catalogFile (config : Config) : String :=
  DiskPath.join config.dataDirectory config.catalog.fileName

def replicaDirectory (config : Config) : String := DiskPath.join config.dataDirectory "kv"

end Config

end MultiWallet
