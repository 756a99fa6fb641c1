import MultiWallet.Registry.Queue
import MultiWallet.Scripted.Slots
import MultiWallet.Scripted.World
import MultiWallet.State.Basic

/-!
A registry in the scripted world, with or without its queue, together with all
that its users keep: receipts, drafts and the application's state.
-/

namespace MultiWallet

/-- A registry in the scripted world. -/
structure Bench where
  queue : Queue ScriptedWorld
  /-- Forwards the store's announcements to the queue. -/
  listener : Listener
  slots : Slots
  drafts : Table String Transfer
  app : AppState

namespace Bench

/-- More messages than any script makes. -/
def patience : Nat := 1000000

def fresh (config : Config) (world : ScriptedWorld) : Bench where
  queue := .fresh (.fresh config) (.around world)
  listener := .attach world.store.memory.announced
  slots := .empty
  drafts := ∅
  app := .empty

def world (bench : Bench) : ScriptedWorld := bench.queue.outside.world

def outside (bench : Bench) : Outside ScriptedWorld := bench.queue.outside

def withOutside (bench : Bench) (outside : Outside ScriptedWorld) : Bench :=
  { bench with queue := { bench.queue with outside } }

def withWorld (bench : Bench) (world : ScriptedWorld) : Bench :=
  bench.withOutside { bench.outside with world }

/-- Gives the registry something without the queue. -/
def give (bench : Bench) (input : Input) : Except RegistryError Reply × Bench :=
  match bench.queue.registry with
  | .error _ => (.error .queueClosed, bench)
  | .ok registry =>
    let turn := registry.handle ScriptedWorld.host input bench.outside
    (turn.answer,
      { bench with queue := { bench.queue with
          registry := .ok turn.registry, outside := turn.outside } })

/-- Gives the registry the engine's events until none is left or one fails. The
answer lists the events with what became of them. -/
def pumpUpTo : Nat → Bench → List (String × Except RegistryError Reply) × Bench
  | 0, bench => ([], bench)
  | bound + 1, bench =>
    match bench.world.events with
    | [] => ([], bench)
    | event :: rest =>
      let bench := bench.withWorld { bench.world with events := rest }
      let (answer, bench) := bench.give (.event event)
      match answer with
      | .error fault => ([(event.text, .error fault)], bench)
      | .ok reply =>
        let (others, bench) := pumpUpTo bound bench
        ((event.text, .ok reply) :: others, bench)

/-- Gives the registry the engine's events until none is left or one fails. -/
def pump (bench : Bench) : List (String × Except RegistryError Reply) × Bench :=
  bench.pumpUpTo patience

/-- Sends messages to the queue, and handles all that is in it. -/
def send (bench : Bench) (messages : List Message) : Bench :=
  { bench with queue := (bench.queue.send messages).run ScriptedWorld.host patience }

def ask (bench : Bench) (command : Command) : Except RegistryError Reply × Bench :=
  let bench := bench.send [.command 0 command]
  ((bench.queue.reply? 0).getD (.error .queueClosed),
    { bench with queue := { bench.queue with replies := [] } })

/-- Forwards to the queue what the store announced. -/
def forward (bench : Bench) : Bench :=
  let (notices, listener) := bench.listener.drain bench.world.store.memory.announced
  { bench with listener }.send (notices.map .notice)

/-- Takes the effects since they were taken last. The application's state follows
the actions among them. -/
def takeEffects (bench : Bench) : List Effect × Bench :=
  let effects := bench.outside.journal
  (effects, { bench with app := bench.app.applyAll (effects.filterMap Effect.action?) }.withOutside
    { bench.outside with journal := [] })

def draft? (bench : Bench) (slot : String) : Option Transfer := bench.drafts[slot]?

/-- Keeps what a reply brought: a draft or a receipt, in a place. -/
def keep (bench : Bench) (slot : String) (drops : Bool) (reply : Reply) : Bench :=
  match reply with
  | .drafted transfer => { bench with drafts := bench.drafts.insert slot transfer }
  | .receipt receipt =>
    if drops then bench.withOutside (bench.outside.modifyReceipt receipt .letGo)
    else
      let (slots, outside) := bench.slots.keep slot receipt bench.outside
      { bench with slots }.withOutside outside
  | _ => bench

end Bench

end MultiWallet
