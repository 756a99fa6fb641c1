import MultiWallet.Asset.Collection
import MultiWallet.Catalog.Cache
import MultiWallet.Config
import MultiWallet.Connection.Settings
import MultiWallet.Log
import MultiWallet.Replica.FileStore

/-!
The command line: it reads the configuration, gets the catalog and reports which
currencies are enabled, which can be added and how the networks of the enabled
ones are reached. It runs on a disk and gives the lines of its report.
-/

namespace MultiWallet

def ConfigError.summary : ConfigError → String
  | .read => "Failed to read config file"
  | .parse => "Config parse error"
  | .invalid reason => "Invalid config: " ++ reason

namespace Cli

def standardConfigName : String := "wallet-sync.json"

def configName (arguments : List String) : String := arguments.head?.getD standardConfigName

/-- The configuration, with the line that is due when there is no file, or the line
that ends the run. -/
def configuration (standing : Place) (arguments : List String) (disk : Disk) :
    Except LogLine (List LogLine × Config) :=
  let name := configName arguments
  let path := DiskPath.ofText standing name
  if disk.pathExists path then
    match Config.load disk path with
    | .error fault => .error ⟨.error, "Failed to load config: " ++ fault.summary⟩
    | .ok config => .ok ([], config)
  else .ok ([⟨.warn, name ++ " not found, using default configuration"⟩], .standard)

def cacheOf (standing : Place) (config : Config) : CatalogCache where
  path := .ofText standing config.catalogFile
  maxAge := config.catalog.maxAgeSeconds.map (· * 1000000000)
  retries := CatalogCache.retriesWithin config.catalog.maxFetchSeconds

def codes (entries : List CatalogEntry) : String :=
  Text.joined ", " (entries.map fun entry => Text.upper entry.code)

def modeLine (settings : ConnectionSettings) (entry : CatalogEntry) : LogLine :=
  let mode := match settings.mode? entry.uid with
    | some mode => mode.text
    | none => (ManagerMode.standardFor entry.uid).text ++ " (default)"
  ⟨.info, Text.upper entry.code ++ " connection mode: " ++ mode⟩

def report {σ : Type} (store : Store σ) (catalog : Catalog) (networkClass : NetworkClass) (s : σ) :
    List LogLine × σ :=
  match AssetCollection.load store catalog networkClass s with
  | (collection, s) =>
    match ConnectionSettings.load store s with
    | (settings, s) =>
      ([⟨.info, "Loaded " ++ toString catalog.size ++ " catalog entries"⟩,
        ⟨.info, "Enabled assets: " ++ codes collection.enabled⟩,
        ⟨.info, "Available assets: " ++ codes collection.available⟩]
        ++ (collection.enabled.filter (·.uid.isNative)).map (modeLine settings), s)

/-- The run with a configuration. Without a connection to the service the catalog
comes from the disk. -/
def runWith {σ : Type} (standing : Place) (config : Config) (source : CatalogSource σ)
    (disk : Disk) (s : σ) : List LogLine × Disk :=
  let opening : LogLine :=
    ⟨.info, "Starting wallet sync core (" ++ config.networkClass.title ++ ")"⟩
  match (cacheOf standing config).refresh source disk s with
  | (.error fault, disk, _) =>
    ([opening, ⟨.error, "Failed to load currency catalog: " ++ fault.message?.getD ""⟩], disk)
  | (.ok catalog, disk, _) =>
    let files : FileStore := ⟨.ofText standing config.replicaDirectory⟩
    let (lines, disk) := report files.store catalog config.networkClass disk
    (opening :: lines, disk)

/-- The lines of a run and the disk after it, for someone who stands at a place. -/
def run {σ : Type} (standing : Place) (arguments : List String) (source : Config → CatalogSource σ)
    (disk : Disk) (s : σ) : List LogLine × Disk :=
  match configuration standing arguments disk with
  | .error line => ([line], disk)
  | .ok (lines, config) =>
    let (rest, disk) := runWith standing config (source config) disk s
    (lines ++ rest, disk)

/-- The places of the files that a run may look at. -/
def places (standing : Place) (arguments : List String) (disk : Disk) : List DiskPath :=
  match configuration standing arguments disk with
  | .error _ => []
  | .ok (_, config) =>
    let files : FileStore := ⟨.ofText standing config.replicaDirectory⟩
    .ofText standing config.catalogFile ::
      [Persisted.key AssetIndex, Persisted.key LegacyIndex, Persisted.key WalletInfo].map files.path

def unreachable (config : Config) : CatalogSource Unit :=
  webService Unit config.catalog.baseUrl fun _ s => (none, s)

end Cli

end MultiWallet
