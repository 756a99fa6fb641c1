import MultiWallet.Json.Generic
import MultiWallet.Registry.Queue
import MultiWallet.Report.Fault
import MultiWallet.Report.Wallet

/-!
Reports on the registry and on what it does, as JSON.
-/

namespace MultiWallet.Report

open Json (Value)

/-- The kind of an error, and its wording if it has one. -/
def faultParts {ε : Type} [Fault ε] (error : ε) : List (String × Value) :=
  ("error", .text (Fault.kind error)) ::
    (Fault.message? error).toList.map fun message => ("message", .text message)

def fault {ε : Type} [Fault ε] (error : ε) : Value := .record (faultParts error)

def managerState : ManagerState → Value
  | .disconnected reason => .record [("disconnected", optional .text reason)]
  | state => named state

def command : ManagerCommand → Value
  | .connect => .texts ["connect"]
  | .disconnect => .texts ["disconnect"]
  | .setMode mode => .texts ["set_mode", mode.text]
  | .syncToDepth depth => .array [.text "sync_to_depth", named depth]
  | .submit wallet transfer secret =>
    .texts ["submit", wallet.currency.uid.text, transfer.id.text, Hex.encode secret]

/-- A call of the engine. A directory is reported by its name. -/
def call : EngineCall → Value
  | .createSession account mainnet directory =>
    .array [.text "create_system", .text account, .bool mainnet,
      optional .text (DiskPath.ofText [] directory).fileName?]
  | .start networks => .array [.text "start", .texts networks]
  | .stop => .texts ["stop"]
  | .createManager network mode currencies =>
    .array [.text "create_manager", .text network.id, named mode, list uid currencies]

def progress (network : String) (progress : NetworkProgress) (now : Instant) : Value :=
  .record [
    ("network", .text network),
    ("started", .bool progress.startedAt.isSome),
    ("percent", bits progress.percent),
    ("last_block", time progress.lastBlock),
    ("highest_block", .natural progress.highestBlock),
    ("updates", .natural progress.updates),
    ("completed", .natural progress.completed),
    ("failed", .natural progress.failed),
    ("summary", .text (progress.summary network now))]

def controller {W : Type} (host : Host W) (world : W) (controller : WalletController) : Value :=
  .record [
    ("uid", uid controller.currency.uid),
    ("currency", currency controller.currency),
    ("balance", amount (controller.balance host world)),
    ("receive", .text (controller.receiveAddress host world).text),
    ("transfers", list transfer (controller.transfers host world)),
    ("pending", .bool controller.pending.isSome),
    ("network", .text controller.manager.network.id)]

/-- A manager, and which of some currencies its network lists. -/
def manager {W : Type} (host : Host W) (world : W) (uids : List CurrencyId)
    (manager : EngineManager) : Value :=
  .record [
    ("network", .text manager.network.id),
    ("name", .text manager.network.name),
    ("mode", named (host.modeOf manager world)),
    ("state", managerState (host.stateOf manager world)),
    ("core", .text manager.network.id),
    ("handles", list (fun uid => .bool (manager.network.lists uid)) uids)]

def managers {W : Type} (host : Host W) (world : W) (managers : List EngineManager) : Value :=
  .record <| managers.map fun manager =>
    (manager.network.id,
      .array [named (host.modeOf manager world), managerState (host.stateOf manager world)])

def snapshot (contents : Snapshot) : Value :=
  .record [
    ("lifecycle", named contents.lifecycle),
    ("currencies", list uid contents.currencies),
    ("managers", .texts contents.managers),
    ("wallets", list uid contents.wallets)]

/-- A reply. A receipt is not shown. -/
def reply : Reply → Value
  | .done | .receipt _ => .null
  | .drafted draft => transfer draft
  | .flag value => .bool value
  | .snapshot contents => snapshot contents

/-- The answer to a request. Violations are marked. -/
def result : Except RegistryError Reply → Value
  | .ok value => .record [("ok", reply value)]
  | .error error =>
    .record (faultParts error ++ if error.isViolation then [("invariant", .bool true)] else [])

def receipt : Option ReceiptStatus → Value
  | none => .text "no slot"
  | some .waiting => .text "pending"
  | some .closed => .text "closed"
  | some (.settled (.submitted id)) => .record [("success", .bool true), ("id", .text id.text)]
  | some (.settled (.failed id)) => .record [("success", .bool false), ("id", .text id.text)]

def outcome : SyncOutcome → Value
  | .unchanged => .text "unchanged"
  | .replaced discarded => .record [("replaced", .record [("discarded", .bool discarded)])]

/-- A notice, and whether it touches a key. -/
def notice (notice : Notice) (key : String) : Value :=
  let content := match notice with
    | .key changed => ("key", Value.text changed)
    | .lagged missed => ("lagged", .natural missed)
  .record [("notice", .record [content]), ("touches", .bool (notice.touches key))]

def lines (lines : List LogLine) : Value := .texts (lines.map (·.text))

/-- A record with its value as given. -/
def record {α : Type} (name : String) (report : α → Value) (record : Record α) : Value :=
  .record [
    ("key", .text record.key),
    ("version", .natural record.version),
    ("deleted", .bool record.deleted),
    (name, report record.value)]

def rawRecord : RawRecord → Value := record "hex" fun bytes => .text (Hex.encode bytes)

/-- Stored bytes as JSON if they are, else in hexadecimal. -/
def stored (content : Bytes) : Value :=
  (Json.generic? content).getD (.record [("hex", .text (Hex.encode content))])

/-- A configuration with the paths that follow from it. -/
def config (config : Config) : Value :=
  .record [
    ("class", named config.networkClass),
    ("data_dir", .text config.dataDirectory),
    ("required_networks", .texts config.requiredNetworks),
    ("base_url", .text config.catalog.baseUrl),
    ("request_timeout", .natural config.catalog.requestTimeoutSeconds),
    ("max_fetch_elapsed", .natural config.catalog.maxFetchSeconds),
    ("cache_max_age", optional .natural config.catalog.maxAgeSeconds),
    ("cache_file_name", .text config.catalog.fileName),
    ("core_data_dir", .text config.coreDirectory),
    ("catalog_cache_path", .text config.catalogFile),
    ("replica_dir", .text config.replicaDirectory)]

def catalog (catalog : Catalog) : Value := list CatalogEntry.toJson catalog.toList

def brief (catalog : Catalog) : Value :=
  list (fun entry => .array [uid entry.uid, .text entry.code, .bool entry.isSupported])
    catalog.toList

end MultiWallet.Report
