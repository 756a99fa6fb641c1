import MultiWallet.Proofs.Baseline
import MultiWallet.Proofs.Run

/-!
A collection that is kept up to date by notifications. These name keys only, may be
dropped in any number, and are heeded after more has happened; but as long as the
stored index is newer than the baseline, some notification of it is still to come.
So when none is left, nothing was missed; and however they are taken and heeded until
then, it comes to the same as heeding all that are due in a row.
-/

namespace MultiWallet

/-! ### Listening -/

namespace Listener

variable {listener later : Listener} {announced : List String} {notice : Notice}

theorem next?_cases (listener : Listener) (announced : List String) :
    (listener.next? announced = none ∧ announced.length ≤ listener.position) ∨
      (∃ missed, listener.position < announced.length - announcementsKept ∧
        listener.next? announced =
          some (.lagged missed, ⟨announced.length - announcementsKept⟩)) ∨
      ∃ key, announced.reverse[listener.position]? = some key ∧
        announced.length - announcementsKept ≤ listener.position ∧
        listener.next? announced = some (.key key, ⟨listener.position + 1⟩) := by
  rw [next?]
  split
  · rename_i behind
    exact .inr (.inl ⟨_, behind, rfl⟩)
  · rename_i kept
    cases there : announced.reverse[listener.position]? with
    | none => exact .inl ⟨rfl, by simpa using List.getElem?_eq_none_iff.1 there⟩
    | some key => exact .inr (.inr ⟨key, rfl, Nat.le_of_not_lt kept, rfl⟩)

/-- The number of notifications that are due. All that were missed are told in one. -/
def due (listener : Listener) (announced : List String) : Nat :=
  if listener.position < announced.length - announcementsKept then announcementsKept + 1
  else announced.length - listener.position

theorem due_le (listener : Listener) (announced : List String) :
    listener.due announced ≤ announcementsKept + 1 := by
  rw [due]
  split <;> omega

theorem due_of_next?_eq_some (next : listener.next? announced = some (notice, later)) :
    later.due announced < listener.due announced := by
  rcases listener.next?_cases announced with
    ⟨next', -⟩ | ⟨missed, behind, next'⟩ | ⟨key, there, kept, next'⟩
  · cases next.symm.trans next'
  · cases next.symm.trans next'
    simp only [due, if_pos behind, Nat.lt_irrefl, if_false]
    omega
  · cases next.symm.trans next'
    have inside := (List.getElem?_eq_some_iff.1 there).1
    rw [List.length_reverse] at inside
    simp only [due]
    split <;> split <;> omega

theorem next?_eq_none_iff : listener.next? announced = none ↔ listener.due announced = 0 := by
  constructor
  · intro next
    rcases listener.next?_cases announced with ⟨-, done⟩ | ⟨missed, -, next'⟩ | ⟨key, -, -, next'⟩
    · rw [due, if_neg (by omega)]
      omega
    · cases next.symm.trans next'
    · cases next.symm.trans next'
  · intro none
    cases next : listener.next? announced with
    | none => rfl
    | some taken =>
        have fewer := due_of_next?_eq_some next
        omega

theorem drainUpTo_of_none (next : listener.next? announced = none) (bound : Nat) :
    drainUpTo (bound + 1) listener announced = ([], listener) := by
  rw [drainUpTo, next]

theorem drainUpTo_of_some (next : listener.next? announced = some (notice, later)) (bound : Nat) :
    drainUpTo (bound + 1) listener announced =
      (notice :: (drainUpTo bound later announced).1, (drainUpTo bound later announced).2) := by
  rw [drainUpTo, next]

/-- A bound that suffices can be raised. -/
theorem drainUpTo_succ {bound : Nat} (enough : listener.due announced ≤ bound) :
    drainUpTo (bound + 1) listener announced = drainUpTo bound listener announced := by
  induction bound generalizing listener with
  | zero => exact drainUpTo_of_none (next?_eq_none_iff.2 (Nat.le_zero.1 enough)) 0
  | succ bound ih =>
      cases next : listener.next? announced with
      | none => rw [drainUpTo_of_none next, drainUpTo_of_none next]
      | some taken =>
          have fewer := due_of_next?_eq_some next
          rw [drainUpTo_of_some next, drainUpTo_of_some next, ih (by omega)]

theorem drain_of_none (next : listener.next? announced = none) :
    listener.drain announced = ([], listener) :=
  drainUpTo_of_none next announcementsKept

theorem drain_of_some (next : listener.next? announced = some (notice, later)) :
    listener.drain announced =
      (notice :: (later.drain announced).1, (later.drain announced).2) := by
  have fewer := due_of_next?_eq_some next
  have most := listener.due_le announced
  rw [drain, drainUpTo_of_some next, drain, drainUpTo_succ (by omega)]

end Listener

/-! ### Followers -/

/-- A collection with the store that it was loaded from, a listener to that store, and
the notifications that were taken from the listener but not heeded yet. -/
structure Follower where
  memory : Memory
  collection : AssetCollection
  listener : Listener
  inHand : List Notice

namespace Follower

/-- What can happen. -/
inductive Move where
  /-- A record of another replica comes in. -/
  | remote (key : String) (value : Bytes) (version : Nat)
  | notify (key : String)
  | wait (clock : Instant)
  | edit (edit : AssetCollection.Edit)
  | save
  | poll
  | heed

/-- The next notification is taken, if there is one. -/
def poll (follower : Follower) : Follower :=
  match follower.listener.next? follower.memory.announced with
  | none => follower
  | some (notice, listener) => { follower with listener, inHand := follower.inHand ++ [notice] }

/-- The notification that was taken first is heeded. -/
def heed (follower : Follower) : Follower :=
  match follower.inHand with
  | [] => follower
  | notice :: inHand =>
    let (_, collection, memory) := follower.collection.heed Memory.store notice follower.memory
    { follower with collection, memory, inHand }

/-- The follower after something happened. -/
def after (follower : Follower) : Move → Follower
  | .remote key value version =>
    { follower with memory := follower.memory.applyRemote key value version }
  | .notify key => { follower with memory := follower.memory.notify key }
  | .wait clock => { follower with memory := { follower.memory with clock } }
  | .edit edit => { follower with collection := follower.collection.edit edit }
  | .save =>
    let (_, collection, memory) := follower.collection.save Memory.store follower.memory
    { follower with collection, memory }
  | .poll => follower.poll
  | .heed => follower.heed

/-- The follower after some things happened in order. -/
def run (follower : Follower) (moves : List Move) : Follower := moves.foldl after follower

/-- The follower after all notifications that are in hand or due were heeded in a row. -/
def catchUp (follower : Follower) : Follower :=
  let (notices, listener) := follower.listener.drain follower.memory.announced
  let (collection, memory) :=
    follower.collection.heedAll Memory.store follower.memory (follower.inHand ++ notices)
  ⟨memory, collection, listener, []⟩

/-- How following begins: the listener was there before the collection was loaded, or
came to be after that with the index as the collection left it. -/
inductive Begins (catalog : Catalog) (networkClass : NetworkClass) : Follower → Prop
  | before {attached now : Memory} : attached.announced <:+ now.announced →
      Begins catalog networkClass
        ⟨(AssetCollection.load Memory.store catalog networkClass now).2,
          (AssetCollection.load Memory.store catalog networkClass now).1,
          .attach attached.announced, []⟩
  | after {now attached : Memory} : attached.records[Persisted.key AssetIndex]? =
        (AssetCollection.load Memory.store catalog networkClass now).2.records[
          Persisted.key AssetIndex]? →
      Begins catalog networkClass
        ⟨attached, (AssetCollection.load Memory.store catalog networkClass now).1,
          .attach attached.announced, []⟩

/-- No notification is left to be taken or heeded. -/
def IsQuiet (follower : Follower) : Prop :=
  follower.listener.next? follower.memory.announced = none ∧ follower.inHand = []

/-- Nothing newer than the baseline is stored, if it can be read. -/
def IsCurrent (follower : Follower) : Prop :=
  ∀ raw, follower.memory.records[Persisted.key AssetIndex]? = some raw →
    (Persisted.decode? (α := AssetIndex) raw.value).isSome →
      raw.version ≤ follower.collection.baseline.version

/-- A notification that concerns the index is still to be taken or heeded. -/
def Expects (follower : Follower) : Prop :=
  (∃ place, follower.listener.position ≤ place ∧
      follower.memory.announced.reverse[place]? = some (Persisted.key AssetIndex)) ∨
    ∃ notice ∈ follower.inHand, notice.touches (Persisted.key AssetIndex) = true

/-- Nothing newer than the baseline is stored unless a notification of it is still to
come. -/
structure Alert (follower : Follower) : Prop where
  tidy : follower.collection.Tidy
  heard : follower.listener.position ≤ follower.memory.announced.length
  present : ∀ raw, follower.memory.records[Persisted.key AssetIndex]? = some raw →
    raw.deleted = false
  expects : ∀ stored, follower.memory.index? = some stored →
    stored.version ≤ follower.collection.baseline.version ∨ follower.Expects

/-! ### Notifications -/

theorem present_of_index? {memory : Memory} {stored : Record AssetIndex}
    (found : memory.index? = some stored) (raw : RawRecord)
    (there : memory.records[Persisted.key AssetIndex]? = some raw) : raw.deleted = false := by
  obtain ⟨other, found, present, -⟩ := Memory.index?_eq_some_iff.1 found
  rw [there] at found
  cases found
  exact present

variable {follower : Follower}

/-- What was announced stays so when more is. -/
theorem Expects.notify (h : follower.Expects) (key : String) :
    Expects { follower with memory := follower.memory.notify key } := by
  refine h.imp_left fun ⟨place, ahead, there⟩ => ⟨place, ahead, ?_⟩
  have inside := (List.getElem?_eq_some_iff.1 there).1
  rw [Memory.notify, List.reverse_cons, List.getElem?_append_left inside]
  exact there

theorem expects_applyRemote (heard : follower.listener.position ≤ follower.memory.announced.length)
    {key : String} (concerned : key = Persisted.key AssetIndex) {value : Bytes} {version : Nat} :
    Expects { follower with memory := follower.memory.applyRemote key value version } :=
  .inl ⟨follower.memory.announced.length, heard, by
    simp [Memory.applyRemote, Memory.notify, concerned]⟩

/-! ### What a step does -/

theorem Begins.alert {catalog : Catalog} {networkClass : NetworkClass}
    (begins : Begins catalog networkClass follower) : follower.Alert := by
  cases begins with
  | @before attached now suffix =>
      obtain ⟨takes, tidy, -⟩ := AssetCollection.takes_load catalog networkClass now
      refine ⟨tidy, ?_, present_of_index? takes.stored, fun stored found => .inl ?_⟩
      · rw [takes.announced]
        exact suffix.length_le
      · rw [Option.some.inj (found.symm.trans takes.stored)]
  | @after now attached same =>
      obtain ⟨takes, tidy, -⟩ := AssetCollection.takes_load catalog networkClass now
      have stored := (Memory.index?_congr same).trans takes.stored
      refine ⟨tidy, Nat.le_refl _, present_of_index? stored, fun other found => .inl ?_⟩
      rw [Option.some.inj (found.symm.trans stored)]

theorem Alert.notify (h : follower.Alert) (key : String) :
    Alert { follower with memory := follower.memory.notify key } where
  tidy := h.tidy
  heard := Nat.le_succ_of_le h.heard
  present := h.present
  expects stored found := (h.expects stored found).imp_right (·.notify key)

theorem Alert.remote (h : follower.Alert) (key : String) (value : Bytes) (version : Nat) :
    Alert { follower with memory := follower.memory.applyRemote key value version } where
  tidy := h.tidy
  heard := Nat.le_succ_of_le h.heard
  present raw there := by
    rw [Memory.getElem?_applyRemote] at there
    split at there
    · cases there
      rfl
    · exact h.present raw there
  expects stored found := by
    by_cases concerned : key = Persisted.key AssetIndex
    · exact .inr (expects_applyRemote h.heard concerned)
    · have same : (follower.memory.applyRemote key value version).index? =
          follower.memory.index? :=
        Memory.index?_congr (by rw [Memory.getElem?_applyRemote, if_neg concerned])
      rcases h.expects stored (same.symm.trans found) with known | expects
      · exact .inl known
      · exact .inr (expects.notify key)

theorem Alert.save (h : follower.Alert) : (follower.after .save).Alert := by
  change Alert { follower with
    collection := (follower.collection.save Memory.store follower.memory).2.1
    memory := (follower.collection.save Memory.store follower.memory).2.2 }
  rcases AssetCollection.save_cases h.tidy follower.memory with same | ⟨takes, _, tidy, _⟩
  · rw [same]
    exact h
  · refine ⟨tidy, ?_, present_of_index? takes.stored, fun stored found => .inl ?_⟩
    · exact h.heard.trans (Nat.le_of_eq (congrArg List.length takes.announced).symm)
    · rw [Option.some.inj (found.symm.trans takes.stored)]

theorem Alert.poll (h : follower.Alert) : follower.poll.Alert := by
  unfold Follower.poll
  rcases follower.listener.next?_cases follower.memory.announced with
    ⟨next, -⟩ | ⟨missed, -, next⟩ | ⟨key, there, -, next⟩
  · rw [next]
    exact h
  · rw [next]
    exact ⟨h.tidy, Nat.sub_le _ _, h.present, fun stored found =>
      .inr (.inr ⟨.lagged missed, by simp, rfl⟩)⟩
  · rw [next]
    have inside := (List.getElem?_eq_some_iff.1 there).1
    rw [List.length_reverse] at inside
    refine ⟨h.tidy, inside, h.present, fun stored found => (h.expects stored found).imp_right ?_⟩
    rintro (⟨place, ahead, announced⟩ | ⟨notice, mem, touches⟩)
    · -- The announcement is the one that is taken, or it comes after that.
      rcases Nat.eq_or_lt_of_le ahead with rfl | later
      · rw [there] at announced
        cases announced
        exact .inr ⟨.key (Persisted.key AssetIndex), by simp, by simp [Notice.touches]⟩
      · exact .inl ⟨place, later, announced⟩
    · exact .inr ⟨notice, List.mem_append_left _ mem, touches⟩

theorem heed_cons {notice : Notice} {rest : List Notice}
    (inHand : follower.inHand = notice :: rest) :
    follower.heed = { follower with
      collection := if notice.touches (Persisted.key AssetIndex) then
          follower.collection.refreshed follower.memory
        else follower.collection
      inHand := rest } := by
  have heeded := AssetCollection.heed_eq notice follower.collection follower.memory
  rw [Follower.heed]
  simp only [inHand, heeded]

theorem Alert.heed (h : follower.Alert) : follower.heed.Alert := by
  cases inHand : follower.inHand with
  | nil =>
      rw [Follower.heed, inHand]
      exact h
  | cons notice rest =>
      rw [heed_cons inHand]
      cases touches : notice.touches (Persisted.key AssetIndex) with
      | false =>
          refine ⟨h.tidy, h.heard, h.present, fun stored found =>
            (h.expects stored found).imp_right ?_⟩
          rintro (ahead | ⟨other, mem, concerns⟩)
          · exact .inl ahead
          · rw [inHand] at mem
            rcases List.mem_cons.1 mem with rfl | mem
            · rw [touches] at concerns
              cases concerns
            · exact .inr ⟨other, mem, concerns⟩
      | true =>
          rcases AssetCollection.refreshed_cases follower.collection follower.memory with
            ⟨same, seen⟩ | ⟨stored, read, _, same, tidy, _⟩
          · rw [if_pos rfl, same]
            exact ⟨h.tidy, h.heard, h.present, fun stored found => .inl (seen stored found)⟩
          · refine ⟨tidy, h.heard, h.present, fun other found => .inl (Nat.le_of_eq ?_)⟩
            rw [Option.some.inj (found.symm.trans read)]
            exact congrArg Record.version same.symm

theorem Alert.after (h : follower.Alert) (move : Move) : (follower.after move).Alert := by
  cases move with
  | remote key value version => exact h.remote key value version
  | notify key => exact h.notify key
  | wait clock => exact ⟨h.tidy, h.heard, h.present, h.expects⟩
  | edit edit =>
      obtain ⟨tidy, -, same⟩ := h.tidy.edit edit
      refine ⟨tidy, h.heard, h.present, fun stored found => ?_⟩
      change stored.version ≤ (follower.collection.edit edit).baseline.version ∨ _
      rw [same]
      exact h.expects stored found
  | save => exact h.save
  | poll => exact h.poll
  | heed => exact h.heed

theorem Alert.run (h : follower.Alert) (moves : List Move) : (follower.run moves).Alert := by
  induction moves generalizing follower with
  | nil => exact h
  | cons move rest ih => exact ih (h.after move)

theorem Alert.isCurrent (h : follower.Alert) (quiet : follower.IsQuiet) :
    follower.IsCurrent := by
  intro raw there decodes
  obtain ⟨index, decoded⟩ := Option.isSome_iff_exists.1 decodes
  have stored : follower.memory.index? = some (raw.withValue index) :=
    Memory.index?_eq_some_iff.2 ⟨raw, there, h.present raw there, index, decoded, rfl⟩
  refine (h.expects _ stored).resolve_right ?_
  rintro (⟨place, ahead, announced⟩ | ⟨notice, mem, -⟩)
  · have inside := (List.getElem?_eq_some_iff.1 announced).1
    rw [List.length_reverse] at inside
    have none := Listener.next?_eq_none_iff.1 quiet.1
    rw [Listener.due] at none
    split at none <;> omega
  · rw [quiet.2] at mem
    cases mem

/-! ### Catching up -/

/-- The number of times that a notification can still be taken and heeded, at most. -/
def backlog (follower : Follower) : Nat :=
  follower.listener.due follower.memory.announced + follower.inHand.length

theorem heed_keeps (follower : Follower) :
    follower.heed.memory = follower.memory ∧ follower.heed.listener = follower.listener ∧
      follower.heed.inHand = follower.inHand.tail := by
  cases inHand : follower.inHand with
  | nil =>
      rw [Follower.heed, inHand]
      exact ⟨rfl, rfl, inHand⟩
  | cons notice rest =>
      rw [heed_cons inHand]
      exact ⟨rfl, rfl, rfl⟩

theorem backlog_heed_poll (follower : Follower) :
    follower.poll.heed.backlog ≤ follower.backlog - 1 := by
  obtain ⟨memory, listener, inHand⟩ := heed_keeps follower.poll
  rw [backlog, memory, listener, inHand, backlog, List.length_tail, Follower.poll]
  cases next : follower.listener.next? follower.memory.announced with
  | none =>
      have none := Listener.next?_eq_none_iff.1 next
      dsimp only
      omega
  | some taken =>
      have fewer := Listener.due_of_next?_eq_some next
      simp only [List.length_append, List.length_singleton]
      omega

theorem isQuiet_of_backlog (none : follower.backlog = 0) : follower.IsQuiet := by
  obtain ⟨listened, heeded⟩ := Nat.add_eq_zero_iff.1 none
  exact ⟨Listener.next?_eq_none_iff.2 listened, List.eq_nil_of_length_eq_zero heeded⟩

/-- Taking and heeding one after another comes to an end. -/
theorem isQuiet_of_rounds {rounds : Nat} (enough : follower.backlog ≤ rounds) :
    (follower.run (List.replicate rounds [.poll, .heed]).flatten).IsQuiet := by
  induction rounds generalizing follower with
  | zero => exact isQuiet_of_backlog (Nat.le_zero.1 enough)
  | succ rounds ih =>
      have fewer := backlog_heed_poll follower
      have enough : follower.poll.heed.backlog ≤ rounds := by omega
      rw [List.replicate_succ, List.flatten_cons]
      exact ih enough

/-! ### Heeding in a row -/

theorem catchUp_poll (follower : Follower) : follower.poll.catchUp = follower.catchUp := by
  rw [Follower.poll]
  cases next : follower.listener.next? follower.memory.announced with
  | none => rfl
  | some taken =>
      simp only [catchUp, Listener.drain_of_some next, List.append_assoc, List.singleton_append]

theorem catchUp_heed (follower : Follower) : follower.heed.catchUp = follower.catchUp := by
  cases inHand : follower.inHand with
  | nil => rw [Follower.heed, inHand]
  | cons notice rest =>
      have heeded := AssetCollection.heed_eq notice follower.collection follower.memory
      rw [heed_cons inHand]
      simp only [catchUp, inHand, List.cons_append, AssetCollection.heedAll, heeded]

/-- What is due is heeded in the same order, however taking and heeding take turns. -/
theorem catchUp_run {steps : List Move} (steady : ∀ step ∈ steps, step = .poll ∨ step = .heed) :
    (follower.run steps).catchUp = follower.catchUp := by
  induction steps generalizing follower with
  | nil => rfl
  | cons step rest ih =>
      obtain ⟨first, steady⟩ := List.forall_mem_cons.1 steady
      refine (ih steady).trans ?_
      rcases first with rfl | rfl
      · exact catchUp_poll follower
      · exact catchUp_heed follower

theorem IsQuiet.catchUp_eq (quiet : follower.IsQuiet) : follower.catchUp = follower := by
  obtain ⟨memory, collection, listener, inHand⟩ := follower
  obtain ⟨listened, rfl⟩ := quiet
  rw [catchUp, Listener.drain_of_none listened]
  rfl

/-- Nothing newer than the baseline is stored, if it can be read, once no notification
is left; and that takes only so many rounds, however much was announced. In whatever turns
notifications are taken and heeded until none is left, it comes to the same as heeding all
of them in a row. Versions are words of 64 bits; that none overflows is assumed. -/
theorem nothing_missed {catalog : Catalog} {networkClass : NetworkClass} {start : Follower}
    (begins : Begins catalog networkClass start) (moves : List Move) :
    let reached := start.run moves
    (reached.IsQuiet → reached.IsCurrent) ∧
      (reached.run (List.replicate (announcementsKept + 1 + reached.inHand.length)
        [.poll, .heed]).flatten).IsQuiet ∧
      (∀ steps, (∀ step ∈ steps, step = .poll ∨ step = .heed) → (reached.run steps).IsQuiet →
        reached.run steps = reached.catchUp) ∧
      reached.catchUp.IsQuiet ∧ reached.catchUp.IsCurrent := by
  intro reached
  have alert (steps : List Move) : (reached.run steps).Alert := (begins.alert.run moves).run steps
  have alike (steps : List Move) (steady : ∀ step ∈ steps, step = .poll ∨ step = .heed)
      (quiet : (reached.run steps).IsQuiet) : reached.run steps = reached.catchUp :=
    quiet.catchUp_eq.symm.trans (catchUp_run steady)
  have enough : reached.backlog ≤ announcementsKept + 1 + reached.inHand.length :=
    Nat.add_le_add_right (reached.listener.due_le _) _
  have quiet := isQuiet_of_rounds enough
  have same := alike _ (by simp) quiet
  refine ⟨(alert []).isCurrent, quiet, alike, same ▸ quiet, ?_⟩
  rw [← same]
  exact (alert _).isCurrent quiet

/-- An index comes in before more announcements than are kept. -/
theorem nothing_missed_after_overflow :
    let index := AssetIndex.ofIds [Network.bitcoin.currency]
    let loaded := AssetCollection.load Memory.store .bitcoin .mainnet .empty
    let start : Follower := ⟨loaded.2, loaded.1, .attach Memory.empty.announced, []⟩
    let moves : List Move := .remote (Persisted.key AssetIndex) (Persisted.encode index) 5 ::
      (List.replicate 70 (.notify "wallet-info") ++
        (List.replicate 65 [.poll, .heed]).flatten)
    let reached := start.run moves
    (Begins .bitcoin .mainnet start ∧ start.collection.baseline.version = 1 ∧
      reached.IsQuiet ∧ ∃ raw,
        reached.memory.records[Persisted.key AssetIndex]? = some raw ∧ raw.version = 5 ∧
          (Persisted.decode? (α := AssetIndex) raw.value).isSome) ∧
      5 ≤ reached.collection.baseline.version := by
  intro index loaded start moves
  have begins : Begins .bitcoin .mainnet start :=
    @Begins.before .bitcoin .mainnet .empty .empty (List.suffix_refl [])
  obtain ⟨quiet, loadedVersion, version, decodes⟩ : (start.run moves).IsQuiet ∧
      start.collection.baseline.version = 1 ∧
      (start.run moves).memory.records[Persisted.key AssetIndex]?.map (·.version) = some 5 ∧
      ((start.run moves).memory.records[Persisted.key AssetIndex]?.bind fun raw =>
        Persisted.decode? (α := AssetIndex) raw.value).isSome := by
    unfold IsQuiet
    decide +kernel
  obtain ⟨raw, there, version⟩ := Option.map_eq_some_iff.1 version
  rw [there, Option.bind_some] at decodes
  have known := (nothing_missed begins moves).1 quiet raw there decodes
  rw [version] at known
  exact ⟨⟨begins, loadedVersion, quiet, raw, there, version, decodes⟩, known⟩

end Follower

end MultiWallet
