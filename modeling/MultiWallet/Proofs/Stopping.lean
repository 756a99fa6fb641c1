import MultiWallet.Proofs.Refusing

/-!
What stops the queue. Messages arrive and are handled in any order, and meanwhile the
world goes its own way. Nothing but an event that contradicts what is registered, found
when its turn comes, stops the queue. Until then every request gets the registry's own
answer, and after it every request is answered that the queue is closed.
-/

namespace MultiWallet

variable {W : Type}

/-- What happens to a queue: messages are sent to it, the first message that waits is
handled, or meanwhile the world changes by itself and receipts are taken or let go. -/
inductive Occurrence (W : Type) where
  | sent (messages : List Message)
  | handled
  | meanwhile (world : W) (receipts : Receipts)

/-- The messages that are sent. -/
def Occurrence.messages : Occurrence W → List Message
  | .sent messages => messages
  | .handled | .meanwhile _ _ => []

namespace Queue

/-- The queue after something happened. -/
def after (host : Host W) (queue : Queue W) : Occurrence W → Queue W
  | .sent messages => queue.send messages
  | .handled => queue.step host
  | .meanwhile world receipts => { queue with outside := { queue.outside with world, receipts } }

/-- The queue after some things happened in order. -/
def course (host : Host W) (queue : Queue W) (occurrences : List (Occurrence W)) : Queue W :=
  occurrences.foldl (after host) queue

@[simp] theorem course_nil (host : Host W) (queue : Queue W) : queue.course host [] = queue := rfl

@[simp] theorem course_cons (host : Host W) (queue : Queue W) (occurrence : Occurrence W)
    (rest : List (Occurrence W)) :
    queue.course host (occurrence :: rest) = (queue.after host occurrence).course host rest := rfl

/-- The first message is an event that contradicts what is registered, in a session. -/
def IsContradicted (queue : Queue W) : Prop :=
  ∃ registry event rest, queue.registry = .ok registry ∧ queue.waiting = .event event :: rest ∧
    registry.lifecycle ≠ .uninitialized ∧ registry.Contradicts event

/-- The answer to the request that is handled, if it is one that the registry carries out
or refuses. -/
def answersTo (host : Host W) (queue : Queue W) :
    Occurrence W → List (Nat × Except RegistryError Reply)
  | .handled =>
    match queue.registry, queue.waiting with
    | .ok registry, .command ticket command :: _ =>
      [(ticket, (registry.execute host command queue.outside).answer)]
    | _, _ => []
  | .sent _ | .meanwhile _ _ => []

/-- The answers to all requests that are handled, each by the registry as the messages
before it left it. -/
def answers (host : Host W) (queue : Queue W) :
    List (Occurrence W) → List (Nat × Except RegistryError Reply)
  | [] => []
  | occurrence :: rest =>
    queue.answersTo host occurrence ++ (queue.after host occurrence).answers host rest

/-- The requests that came in so far, answered or not. -/
def tickets (queue : Queue W) : List Nat :=
  queue.replies.map (·.1) ++ queue.waiting.filterMap (·.ticket?)

/-- What holds of a queue at all times. -/
structure Sound (config : Config) (queue : Queue W) : Prop where
  scene : ∀ registry, queue.registry = .ok registry →
    (Scene.mk registry queue.outside).Sound config
  /-- Nothing waits in a queue that stopped. -/
  stopped : queue.isRunning = false → queue.waiting = []

variable {config : Config} {queue : Queue W}

theorem isRunning_iff : queue.isRunning = true ↔ ∃ registry, queue.registry = .ok registry := by
  rcases queue with ⟨broken | registry, outside, waiting, replies⟩ <;> simp [isRunning]

theorem send_of_running (running : queue.isRunning = true) (messages : List Message) :
    queue.send messages = { queue with waiting := queue.waiting ++ messages } :=
  if_pos running

theorem send_of_stopped (stopped : queue.isRunning = false) (messages : List Message) :
    queue.send messages = { queue with replies := queue.replies ++ closedReplies messages } :=
  if_neg (Bool.eq_false_iff.1 stopped)

@[simp] theorem isRunning_send (messages : List Message) :
    (queue.send messages).isRunning = queue.isRunning := by
  rw [send]
  split <;> rfl

theorem closedReplies_closed {messages : List Message} {reply : Nat × Except RegistryError Reply}
    (mem : reply ∈ closedReplies messages) : reply.2 = .error .queueClosed := by
  obtain ⟨message, -, found⟩ := List.mem_filterMap.1 mem
  obtain ⟨ticket, -, rfl⟩ := Option.map_eq_some_iff.1 found
  rfl

theorem closedReplies_tickets (messages : List Message) :
    (closedReplies messages).map (·.1) = messages.filterMap (·.ticket?) := by
  rw [closedReplies, List.map_filterMap]
  congr 1
  funext message
  cases message.ticket? <;> rfl

/-! ### Steps -/

/-- All that handling a message can come to. -/
inductive Stepped (host : Host W) (queue next : Queue W) : Prop
  /-- There is no message. -/
  | idle (none : queue.waiting = []) (still : next = queue)
  /-- An event contradicts what is registered. The other messages are dropped. -/
  | stopped (event : EngineEvent) (rest : List Message) (contradicted : queue.IsContradicted)
    (first : queue.waiting = .event event :: rest) (stops : next.isRunning = false)
    (waiting : next.waiting = []) (replies : next.replies = queue.replies ++ closedReplies rest)
  /-- The registry handles the message, whatever comes of it. -/
  | onward (registry : Registry) (message : Message) (rest : List Message)
    (events : List EngineEvent) (world : W) (tame : ¬queue.IsContradicted)
    (before : queue.registry = .ok registry) (first : queue.waiting = message :: rest)
    (after : next.registry = .ok (registry.handle host message.input queue.outside).registry)
    (outside : next.outside =
      { (registry.handle host message.input queue.outside).outside with world := world })
    (waiting : next.waiting = rest ++ events.map .event)
    (replies : next.replies = queue.replies ++ message.ticket?.toList.map fun ticket =>
      (ticket, (registry.handle host message.input queue.outside).answer))

theorem tame_of_nil (none : queue.waiting = []) : ¬queue.IsContradicted := by
  rintro ⟨registry, event, rest, -, first, -⟩
  cases none.symm.trans first

theorem answersTo_of_nil (host : Host W) (none : queue.waiting = []) :
    queue.answersTo host .handled = [] := by
  rw [answersTo, none]
  split
  · rename_i first
    cases first
  · rfl

theorem answersTo_of_cons (host : Host W) {registry : Registry} {message : Message}
    {rest : List Message} (running : queue.registry = .ok registry)
    (first : queue.waiting = message :: rest) :
    queue.answersTo host .handled = message.ticket?.toList.map fun ticket =>
      (ticket, (registry.handle host message.input queue.outside).answer) := by
  rw [answersTo, running, first]
  cases message <;> rfl

/-- Only an event can be contradicted, and it is the first message. -/
theorem isContradicted_iff {registry : Registry} {message : Message} {rest : List Message}
    (running : queue.registry = .ok registry) (first : queue.waiting = message :: rest) :
    queue.IsContradicted ↔ ∃ event, message = .event event ∧
      registry.lifecycle ≠ .uninitialized ∧ registry.Contradicts event := by
  constructor
  · rintro ⟨other, event, others, running', first', contradicts⟩
    cases running.symm.trans running'
    cases first.symm.trans first'
    exact ⟨event, rfl, contradicts⟩
  · rintro ⟨event, rfl, contradicts⟩
    exact ⟨registry, event, rest, running, first, contradicts⟩

/-- Handling a message ends in a violation by an event exactly if the event contradicts what
is registered. -/
theorem Sound.fatal_iff (sound : queue.Sound config) (host : Host W) {registry : Registry}
    {message : Message} {rest : List Message} (running : queue.registry = .ok registry)
    (first : queue.waiting = message :: rest) :
    (∃ broken, fatal? message.input (registry.handle host message.input queue.outside).answer =
      some broken) ↔ queue.IsContradicted := by
  rw [isContradicted_iff running first]
  cases message with
  | command ticket command => simp [Message.input, fatal?_command]
  | notice notice => simp [Message.input, fatal?]
  | event event =>
      simpa [Message.input, Scene.broken?, Scene.turn] using
        (sound.scene registry running).broken_iff host event

theorem Sound.stepped (sound : queue.Sound config) (host : Host W) :
    Stepped host queue (queue.step host) := by
  cases running : queue.registry with
  | error broken =>
      have stopped : queue.isRunning = false := by rw [isRunning, running]
      exact .idle (sound.stopped stopped) (by rw [step, running])
  | ok registry =>
      cases first : queue.waiting with
      | nil => exact .idle first (by rw [step, running, first])
      | cons message rest =>
          have fatal := sound.fatal_iff host running first
          cases outcome : fatal? message.input
              (registry.handle host message.input queue.outside).answer with
          | some broken =>
              have contradicted := fatal.1 ⟨broken, outcome⟩
              obtain ⟨event, rfl, -⟩ := (isContradicted_iff running first).1 contradicted
              rw [step, running, first]
              simp only [outcome]
              exact .stopped event rest contradicted first rfl rfl rfl
          | none =>
              have tame : ¬queue.IsContradicted := fun contradicted => by
                obtain ⟨broken, isBroken⟩ := fatal.2 contradicted
                cases outcome.symm.trans isBroken
              rw [step, running, first]
              simp only [outcome]
              exact .onward registry message rest _ _ tame running first rfl rfl rfl rfl

theorem Sound.fresh (config : Config) (world : W) :
    Sound config (fresh (.fresh config) (.around world)) where
  scene registry running := by
    obtain rfl := Except.ok.inj running
    exact Scene.Sound.first config world
  stopped stopped := by cases stopped

theorem Sound.after (sound : queue.Sound config) (host : Host W) (occurrence : Occurrence W) :
    (queue.after host occurrence).Sound config := by
  cases occurrence with
  | sent messages =>
      change (queue.send messages).Sound config
      cases running : queue.isRunning with
      | true =>
          rw [send_of_running running]
          exact ⟨sound.scene, fun stopped => by cases running.symm.trans stopped⟩
      | false =>
          rw [send_of_stopped running]
          exact ⟨sound.scene, sound.stopped⟩
  | meanwhile world receipts =>
      exact ⟨fun registry running => (sound.scene registry running).after host
        (.meanwhile world receipts), sound.stopped⟩
  | handled =>
      change (queue.step host).Sound config
      cases sound.stepped host with
      | idle none still => rwa [still]
      | stopped event rest contradicted first stops waiting =>
          refine ⟨fun registry running => ?_, fun _ => waiting⟩
          rw [isRunning_iff.2 ⟨registry, running⟩] at stops
          cases stops
      | onward registry message rest events world tame before first next outside =>
          refine ⟨fun other running => ?_, fun stops => ?_⟩
          · -- The engine's reports are taken out of the world, which is all that changes after
            -- the turn.
            obtain rfl := Except.ok.inj (next.symm.trans running)
            rw [outside]
            exact ((sound.scene registry before).after host (.given message.input)).after host
              (.meanwhile world _)
          · rw [isRunning_iff.2 ⟨_, next⟩] at stops
            cases stops

/-! ### What is kept track of -/

/-- A queue stops exactly when its first message is handled and is an event that contradicts
what is registered. -/
theorem Sound.stops_iff (sound : queue.Sound config) (host : Host W)
    (running : queue.isRunning = true) (occurrence : Occurrence W) :
    (queue.after host occurrence).isRunning = false ↔
      occurrence = .handled ∧ queue.IsContradicted := by
  cases occurrence with
  | sent messages =>
      change (queue.send messages).isRunning = false ↔ _
      simp [running]
  | meanwhile world receipts =>
      change queue.isRunning = false ↔ _
      simp [running]
  | handled =>
      change (queue.step host).isRunning = false ↔ _
      cases sound.stepped host with
      | idle none still => simp [still, running, tame_of_nil none]
      | stopped event rest contradicted _ stops => simp [stops, contradicted]
      | onward registry message rest events world tame _ _ next =>
          simp [isRunning_iff.2 ⟨_, next⟩, tame]

/-- What is sent comes to be waiting or answered, and nothing that was is lost. -/
theorem Sound.tickets_after (sound : queue.Sound config) (host : Host W)
    (occurrence : Occurrence W) :
    (queue.after host occurrence).tickets =
      queue.tickets ++ occurrence.messages.filterMap (·.ticket?) := by
  cases occurrence with
  | sent messages =>
      change (queue.send messages).tickets = queue.tickets ++ messages.filterMap (·.ticket?)
      cases running : queue.isRunning with
      | true => simp [send_of_running running, tickets]
      | false =>
          simp [send_of_stopped running, tickets, sound.stopped running, closedReplies_tickets]
  | meanwhile world receipts => exact (List.append_nil _).symm
  | handled =>
      change (queue.step host).tickets = queue.tickets ++ []
      rw [List.append_nil]
      cases sound.stepped host with
      | idle none still => rw [still]
      | stopped event rest _ first _ waiting replies =>
          simp [tickets, waiting, replies, first, closedReplies_tickets, Message.ticket?]
      | onward registry message rest events world _ _ first _ _ waiting replies =>
          have silent : (events.map Message.event).filterMap (·.ticket?) = [] := by
            rw [List.filterMap_map]
            exact List.filterMap_eq_nil_iff.2 fun _ _ => rfl
          rw [tickets, tickets, waiting, replies, first, List.filterMap_append, silent]
          cases message <;> simp [Message.ticket?]

/-- What is answered is what the registry makes of the request that is handled, and for the
requests that are given up, that the queue is closed. -/
theorem Sound.replies_after (sound : queue.Sound config) (host : Host W)
    (occurrence : Occurrence W) :
    ∃ closed, (queue.after host occurrence).replies =
        queue.replies ++ queue.answersTo host occurrence ++ closed ∧
      (∀ reply ∈ closed, reply.2 = .error .queueClosed) ∧
      ((queue.after host occurrence).isRunning = true → closed = []) := by
  cases occurrence with
  | sent messages =>
      change ∃ closed, (queue.send messages).replies = queue.replies ++ [] ++ closed ∧ _ ∧
        ((queue.send messages).isRunning = true → closed = [])
      rw [isRunning_send, List.append_nil]
      cases running : queue.isRunning with
      | true =>
          rw [send_of_running running]
          exact ⟨[], (List.append_nil _).symm, List.forall_mem_nil _, fun _ => rfl⟩
      | false =>
          rw [send_of_stopped running]
          exact ⟨closedReplies messages, rfl, fun _ => closedReplies_closed, nofun⟩
  | meanwhile world receipts =>
      refine ⟨[], ?_, List.forall_mem_nil _, fun _ => rfl⟩
      rw [List.append_nil]
      exact (List.append_nil _).symm
  | handled =>
      change ∃ closed, (queue.step host).replies = _ ∧ _ ∧ ((queue.step host).isRunning = true → _)
      cases sound.stepped host with
      | idle none still =>
          refine ⟨[], ?_, List.forall_mem_nil _, fun _ => rfl⟩
          rw [still, answersTo_of_nil host none, List.append_nil, List.append_nil]
      | stopped event rest contradicted first stops _ replies =>
          obtain ⟨registry, -, -, running, -⟩ := contradicted
          refine ⟨closedReplies rest, ?_, fun _ => closedReplies_closed, ?_⟩
          · rw [replies, answersTo_of_cons host running first]
            simp [Message.ticket?]
          · rw [stops]
            nofun
      | onward registry message rest events world _ running first _ _ _ replies =>
          refine ⟨[], ?_, List.forall_mem_nil _, fun _ => rfl⟩
          rw [replies, answersTo_of_cons host running first, List.append_nil]

/-! ### Courses -/

theorem Sound.course (sound : queue.Sound config) (host : Host W)
    (occurrences : List (Occurrence W)) : (queue.course host occurrences).Sound config := by
  induction occurrences generalizing queue with
  | nil => exact sound
  | cons occurrence rest ih => exact ih (sound.after host occurrence)

/-- A queue that stopped has stopped for good. -/
theorem Sound.stopped_after (sound : queue.Sound config) (host : Host W)
    (stopped : queue.isRunning = false) (occurrence : Occurrence W) :
    (queue.after host occurrence).isRunning = false ∧ queue.answersTo host occurrence = [] := by
  cases occurrence with
  | sent messages => exact ⟨(isRunning_send messages).trans stopped, rfl⟩
  | meanwhile world receipts => exact ⟨stopped, rfl⟩
  | handled =>
      have none := sound.stopped stopped
      refine ⟨?_, answersTo_of_nil host none⟩
      change (queue.step host).isRunning = false
      cases sound.stepped host with
      | idle _ still => rwa [still]
      | stopped _ _ _ _ stops => exact stops
      | onward _ _ _ _ _ _ _ first => cases none.symm.trans first

theorem Sound.stopped_course (sound : queue.Sound config) (host : Host W)
    (stopped : queue.isRunning = false) (occurrences : List (Occurrence W)) :
    (queue.course host occurrences).isRunning = false ∧ queue.answers host occurrences = [] := by
  induction occurrences generalizing queue with
  | nil => exact ⟨stopped, rfl⟩
  | cons occurrence rest ih =>
      obtain ⟨stays, unanswered⟩ := sound.stopped_after host stopped occurrence
      obtain ⟨ended, silent⟩ := ih (sound.after host occurrence) stays
      exact ⟨ended, by rw [answers, unanswered, silent, List.append_nil]⟩

theorem Sound.stops_course_iff (sound : queue.Sound config) (host : Host W)
    (running : queue.isRunning = true) (occurrences : List (Occurrence W)) :
    (queue.course host occurrences).isRunning = false ↔
      ∃ earlier later, occurrences = earlier ++ .handled :: later ∧
        (queue.course host earlier).IsContradicted := by
  induction occurrences generalizing queue with
  | nil => simp [running]
  | cons occurrence rest ih =>
      have next := sound.after host occurrence
      have stops := sound.stops_iff host running occurrence
      cases onward : (queue.after host occurrence).isRunning with
      | false =>
          obtain ⟨rfl, contradicted⟩ := stops.1 onward
          exact iff_of_true (next.stopped_course host onward rest).1 ⟨[], rest, rfl, contradicted⟩
      | true =>
          rw [course_cons, ih next onward]
          constructor
          · rintro ⟨earlier, later, rfl, contradicted⟩
            exact ⟨occurrence :: earlier, later, rfl, contradicted⟩
          · rintro ⟨_ | ⟨first, earlier⟩, later, split, contradicted⟩
            · cases split
              rw [stops.2 ⟨rfl, contradicted⟩] at onward
              cases onward
            · cases split
              exact ⟨earlier, later, rfl, contradicted⟩

theorem Sound.tickets_course (sound : queue.Sound config) (host : Host W)
    (occurrences : List (Occurrence W)) :
    (queue.course host occurrences).tickets =
      queue.tickets ++ (occurrences.flatMap (·.messages)).filterMap (·.ticket?) := by
  induction occurrences generalizing queue with
  | nil => simp
  | cons occurrence rest ih =>
      rw [course_cons, ih (sound.after host occurrence), sound.tickets_after]
      simp

theorem Sound.replies_course (sound : queue.Sound config) (host : Host W)
    (occurrences : List (Occurrence W)) :
    ∃ closed, (queue.course host occurrences).replies =
        queue.replies ++ queue.answers host occurrences ++ closed ∧
      (∀ reply ∈ closed, reply.2 = .error .queueClosed) ∧
      ((queue.course host occurrences).isRunning = true → closed = []) := by
  induction occurrences generalizing queue with
  | nil => exact ⟨[], by simp [answers], List.forall_mem_nil _, fun _ => rfl⟩
  | cons occurrence rest ih =>
      have next := sound.after host occurrence
      obtain ⟨now, first, isClosed, ran⟩ := sound.replies_after host occurrence
      obtain ⟨closed, others, areClosed, runs⟩ := ih next
      rw [course_cons, others, first, answers]
      cases onward : (queue.after host occurrence).isRunning with
      | true =>
          obtain rfl := ran onward
          exact ⟨closed, by simp, areClosed, runs⟩
      | false =>
          obtain ⟨ended, silent⟩ := next.stopped_course host onward rest
          refine ⟨now ++ closed, by simp [silent], ?_, fun running => ?_⟩
          · exact List.forall_mem_append.2 ⟨isClosed, areClosed⟩
          · cases ended.symm.trans running

end Queue

/-- Whatever is sent to a queue and whatever happens in the world, the queue stops exactly
when the first message is an event that contradicts what is registered, as the messages
before it left it. Every request is answered once, in the order of their arrival: those
that were handled by then with what the registry makes of them, the others with the news
that the queue is closed. In a queue that stopped nothing waits, so that none of them is left
without an answer. -/
theorem queue_stops_at_first_contradiction (host : Host W) (config : Config) (world : W)
    (occurrences : List (Occurrence W)) :
    let first := Queue.fresh (.fresh config) (.around world)
    let queue := first.course host occurrences
    (queue.isRunning = false ↔ ∃ earlier later, occurrences = earlier ++ .handled :: later ∧
        (first.course host earlier).IsContradicted) ∧
      (queue.isRunning = false → queue.waiting = []) ∧
      queue.replies.map (·.1) ++ queue.waiting.filterMap (·.ticket?) =
        (occurrences.flatMap (·.messages)).filterMap (·.ticket?) ∧
      ∃ closed, queue.replies = first.answers host occurrences ++ closed ∧
        (∀ reply ∈ closed, reply.2 = .error .queueClosed) ∧
        (queue.isRunning = true → closed = []) := by
  intro first queue
  have sound : first.Sound config := Queue.Sound.fresh config world
  exact ⟨sound.stops_course_iff host rfl occurrences, (sound.course host occurrences).stopped,
    sound.tickets_course host occurrences, sound.replies_course host occurrences⟩

/-- The second report of a network stops the queue, and a request behind it is not carried
out. -/
example :
    let host := Host.granting .bitcoin fun _ => []
    let report : Message := .event (.system (.networkAdded .bitcoin))
    let queue := (Queue.fresh (.fresh .standard) (.around [])).course host
      (.sent [.command 0 (.create ""), .command 1 .connect, report, report,
        .command 2 .disconnect] :: List.replicate 4 .handled)
    queue.failure? = some
        "registry invariant violated: currency already registered: bitcoin-mainnet:__native__" ∧
      queue.reply? 2 matches some (.error .queueClosed) := by
  decide +kernel

end MultiWallet
