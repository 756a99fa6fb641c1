import MultiWallet.Engine.Host
import MultiWallet.Log
import MultiWallet.State.Action
import MultiWallet.Wallet.Receipt

/-!
What controllers and the registry act on: the world, the receipts that they
handed out, and a journal of all that they did, which includes the actions that
they published and the lines that they logged.
-/

namespace MultiWallet

inductive Effect where
  | published (action : StateAction)
  | called (call : EngineCall)
  | commanded (manager : EngineManager) (command : ManagerCommand)
  /-- A write to the store was attempted. -/
  | wrote (key : String) (value : Bytes) (version : Nat)
  | logged (line : LogLine)

namespace Effect

def action? : Effect → Option StateAction
  | published action => some action
  | _ => none

def line? : Effect → Option LogLine
  | logged line => some line
  | _ => none

def call? : Effect → Option EngineCall
  | called call => some call
  | _ => none

def command? : Effect → Option (EngineManager × ManagerCommand)
  | commanded manager command => some (manager, command)
  | _ => none

end Effect

/-- The surroundings of controllers and the registry. -/
structure Outside (W : Type) where
  world : W
  receipts : Receipts
  /-- Whether published actions are heard by anybody. -/
  isHeard : Bool
  /-- What was done, the oldest first. -/
  journal : List Effect

namespace Outside

variable {W : Type}

def around (world : W) : Outside W := ⟨world, .none, true, []⟩

def note (outside : Outside W) (effect : Effect) : Outside W :=
  { outside with journal := outside.journal ++ [effect] }

def log (outside : Outside W) (level : LogLevel) (message : String) : Outside W :=
  outside.note (.logged ⟨level, message⟩)

def logAll (outside : Outside W) (lines : List LogLine) : Outside W :=
  lines.foldl (fun outside line => outside.note (.logged line)) outside

/-- Publishes an action. One that nobody hears is dropped. -/
def publish (outside : Outside W) (action : StateAction) : Outside W :=
  if outside.isHeard then outside.note (.published action)
  else outside.log .warn "State channel closed, dropping state action"

def publishAll (outside : Outside W) (actions : List StateAction) : Outside W :=
  actions.foldl publish outside

def command (host : Host W) (outside : Outside W) (manager : EngineManager)
    (command : ManagerCommand) : Outside W :=
  { outside.note (.commanded manager command) with
    world := host.command manager command outside.world }

def commandAll (host : Host W) (outside : Outside W) (manager : EngineManager)
    (commands : List ManagerCommand) : Outside W :=
  commands.foldl (fun outside told => outside.command host manager told) outside

def createSession (host : Host W) (outside : Outside W) (account : String) (mainnet : Bool)
    (directory : String) : Except EngineError EngineSession × Outside W :=
  let (answer, world) := host.createSession account mainnet directory outside.world
  (answer, { outside.note (.called (.createSession account mainnet directory)) with world })

def start (host : Host W) (outside : Outside W) (session : EngineSession)
    (networks : List String) : Outside W :=
  { outside.note (.called (.start networks)) with
    world := host.start session networks outside.world }

def stop (host : Host W) (outside : Outside W) (session : EngineSession) : Outside W :=
  { outside.note (.called .stop) with world := host.stop session outside.world }

def createManager (host : Host W) (outside : Outside W) (session : EngineSession)
    (network : Network) (mode : ManagerMode) (currencies : List CurrencyId) :
    Except EngineError Unit × Outside W :=
  let (answer, world) := host.createManager session network mode currencies outside.world
  (answer, { outside.note (.called (.createManager network mode currencies)) with world })

/-- The store of the world, with writes noted. -/
def store (host : Host W) : Store (Outside W) where
  get key outside :=
    let (answer, world) := host.store.get key outside.world
    (answer, { outside with world })
  set key value version outside :=
    let (answer, world) := host.store.set key value version outside.world
    (answer, { outside.note (.wrote key value version) with world })

def modifyReceipt (outside : Outside W) (id : ReceiptId) (change : Receipt → Receipt) :
    Outside W :=
  { outside with receipts := outside.receipts.modify id change }

end Outside

end MultiWallet
