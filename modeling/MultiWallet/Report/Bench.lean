import MultiWallet.Report.Registry
import MultiWallet.Scripted.Bench

/-!
Reports on a registry in the scripted world: what it holds, and what was done in
its name since the last report.
-/

namespace MultiWallet.Report

open Json (Value)

/-- The commands to managers, gathered by the names of the managers. -/
def commandsByManager (world : ScriptedWorld) (effects : List Effect) : Value :=
  let told := (effects.filterMap Effect.command?).map fun (manager, told) =>
    (world.nameOf manager, command told)
  .record ((told.map (·.1)).eraseDups.map fun name =>
    (name, .array ((told.filter (·.1 == name)).map (·.2))))

/-- What was done to the engine and its managers. -/
def deeds (world : ScriptedWorld) (effects : List Effect) : List (String × Value) :=
  [("engine", list call (effects.filterMap Effect.call?)),
    ("commands", commandsByManager world effects)]

def published (effects : List Effect) : Value := actions (effects.filterMap Effect.action?)

def logged (effects : List Effect) : Value := lines (effects.filterMap Effect.line?)

def contents (registry : Registry) (world : ScriptedWorld) (effects : List Effect) :
    List (String × Value) :=
  [("queued", .natural world.events.length),
    ("lifecycle", named registry.lifecycle),
    ("currencies", list uid registry.snapshot.currencies),
    ("wallets", list uid registry.snapshot.wallets),
    ("managers", managers ScriptedWorld.host world registry.managerList),
    ("catalog", .natural registry.catalog.size),
    ("actions", published effects),
    ("core_dir", .bool (world.disk.pathExists world.directory))] ++ deeds world effects

def statistics (network : String) (all : SyncProgress) (now : Instant) : Value :=
  optional (fun entry => progress network entry now) (all.get? network)

end MultiWallet.Report
