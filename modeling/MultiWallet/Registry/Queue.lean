import MultiWallet.Registry.Event

/-!
The queue in front of a registry. Requests, events and notices are handled one at
a time in the order of their arrival. Errors of requests go back to the caller;
errors of events and notices do no harm, except that a violation by an event
stops the queue for good.
-/

namespace MultiWallet

/-- A message in the queue. A request carries the number under which it is
answered. -/
inductive Message where
  | command (ticket : Nat) (command : Command)
  | event (event : EngineEvent)
  | notice (notice : Notice)

namespace Message

def input : Message → Input
  | command _ request => .command request
  | event report => .event report
  | notice news => .notice news

def ticket? : Message → Option Nat
  | command ticket _ => some ticket
  | _ => none

end Message

/-- A queue with its registry, until a violation stops it. -/
structure Queue (W : Type) where
  registry : Except Violation Registry
  outside : Outside W
  waiting : List Message
  /-- What requests were answered, the first answer first. -/
  replies : List (Nat × Except RegistryError Reply)

namespace Queue

variable {W : Type}

def fresh (registry : Registry) (outside : Outside W) : Queue W := ⟨.ok registry, outside, [], []⟩

def isRunning (queue : Queue W) : Bool :=
  match queue.registry with
  | .ok _ => true
  | .error _ => false

/-- Why the queue stopped, if it did. -/
def failure? (queue : Queue W) : Option String :=
  match queue.registry with
  | .ok _ => none
  | .error broken => some ("registry invariant violated: " ++ broken.message)

/-- The answers to requests that are not carried out. -/
def closedReplies (messages : List Message) : List (Nat × Except RegistryError Reply) :=
  messages.filterMap fun message => message.ticket?.map fun ticket => (ticket, .error .queueClosed)

/-- Adds messages. A queue that stopped drops them. -/
def send (queue : Queue W) (messages : List Message) : Queue W :=
  if queue.isRunning then { queue with waiting := queue.waiting ++ messages }
  else { queue with replies := queue.replies ++ closedReplies messages }

/-- The violation by an event, if the turn ended in one. -/
def fatal? {α : Type} (input : Input) (answer : Except RegistryError α) : Option Violation :=
  match input, answer with
  | .event _, .error (.violation broken) => some broken
  | _, _ => none

/-- Handles the first message. The engine's reports go to the end of the queue. -/
def step (host : Host W) (queue : Queue W) : Queue W :=
  match queue.registry, queue.waiting with
  | .ok registry, message :: rest =>
    let turn := registry.handle host message.input queue.outside
    match fatal? message.input turn.answer with
    | some broken =>
      ⟨.error broken, turn.registry.closeReceipts turn.outside, [],
        queue.replies ++ closedReplies rest⟩
    | none =>
      let (events, world) := host.takeEvents turn.outside.world
      ⟨.ok turn.registry, { turn.outside with world }, rest ++ events.map .event,
        queue.replies ++ (message.ticket?.toList.map fun ticket => (ticket, turn.answer))⟩
  | _, _ => queue

/-- Handles messages until none is left, but at most a number of them. -/
def run (host : Host W) : Nat → Queue W → Queue W
  | 0, queue => queue
  | bound + 1, queue => if queue.waiting.isEmpty then queue else run host bound (queue.step host)

def reply? (queue : Queue W) (ticket : Nat) : Option (Except RegistryError Reply) :=
  (queue.replies.find? (·.1 == ticket)).map (·.2)

end Queue

end MultiWallet
