import MultiWallet.Registry.Basic

/-!
The life of a session: it is created for an account, connected, disconnected
and connected again any number of times, and shut down.
-/

namespace MultiWallet.Registry

variable {W : Type}

/-- Opens a session for an account. -/
def create (host : Host W) (account : String) (registry : Registry) (outside : Outside W) :
    Turn W Unit :=
  if registry.lifecycle = .uninitialized then
    match host.makeDirectory outside.world with
    | (.error fault, world) => ⟨.error (.io fault), registry, { outside with world }⟩
    | (.ok (), world) =>
      match Outside.createSession host { outside with world } account
          registry.config.networkClass.isMainnet registry.config.coreDirectory with
      | (.error fault, outside) => ⟨.error (.engine fault), registry, outside⟩
      | (.ok session, outside) =>
        ⟨.ok (), { registry with session := some session, lifecycle := .idle }, outside⟩
  else registry.refuseStage outside "create"

/-- The settings, which are read from the store if they have not been yet. -/
def settingsOrLoad (host : Host W) (registry : Registry) (outside : Outside W) :
    ConnectionSettings × Outside W :=
  match registry.settings with
  | some settings => (settings, outside)
  | none => ConnectionSettings.load (Outside.store host) outside

/-- Gets the catalog and the settings, has the engine discover what has no manager
yet, and connects the managers that are there. -/
def connect (host : Host W) (registry : Registry) (outside : Outside W) : Turn W Unit :=
  match registry.sessionAt? [.idle] with
  | none => registry.refuseStage outside "connect"
  | some session =>
    match host.refreshCatalog outside.world with
    | (.error fault, world) => ⟨.error (.catalog fault), registry, { outside with world }⟩
    | (.ok catalog, world) =>
      match registry.settingsOrLoad host { outside with world } with
      | (settings, outside) =>
        let outside := outside.start host session registry.undiscovered
        ⟨.ok (), { registry with catalog, settings := some settings, lifecycle := .active },
          registry.commandManagers host (fun _ => [.connect]) outside⟩

/-- Disconnects the managers and stops the engine. -/
def disconnect (host : Host W) (registry : Registry) (outside : Outside W) : Turn W Unit :=
  match registry.sessionAt? [.active] with
  | none => registry.refuseStage outside "disconnect"
  | some session =>
    let outside := registry.commandManagers host (fun _ => [.disconnect]) outside
    ⟨.ok (), { registry with lifecycle := .idle }, outside.stop host session⟩

/-- Ends the session and forgets all that came of it. -/
def shutdown (host : Host W) (registry : Registry) (outside : Outside W) : Turn W Unit :=
  if registry.lifecycle = .uninitialized then registry.refuseStage outside "shutdown"
  else
    let outside := registry.session.elim outside (outside.stop host)
    let outside := registry.closeReceipts outside
    let outside := { outside with world := host.removeDirectory outside.world }
    ⟨.ok (), fresh registry.config, outside.publish .reset⟩

end MultiWallet.Registry
