import MultiWallet.Proofs.Baseline
import MultiWallet.Proofs.Run

/-!
Any number of collections on one store in memory, with other replicas writing to it
as well. Nobody is refused for knowing an old version only; still versions tell the
contents, because every write raises the version that is stored. So collections
that are at the stored version agree, and each is there after one look.
-/

namespace MultiWallet

/-- Collections of one catalog for one family of networks, with the store that they
were loaded from. -/
structure Commons where
  catalog : Catalog
  networkClass : NetworkClass
  memory : Memory
  collections : List AssetCollection

namespace Commons

/-- What can happen. Collections are known by their numbers. -/
inductive Move where
  /-- One more collection is loaded. -/
  | load
  | edit (client : Nat) (edit : AssetCollection.Edit)
  | save (client : Nat)
  /-- A collection looks at the store. -/
  | sync (client : Nat)
  /-- A record of another replica comes in. -/
  | remote (key : String) (value : Bytes) (version : Nat)
  | wait (clock : Instant)

/-- A store from which no collection was loaded yet. -/
def opened (catalog : Catalog) (networkClass : NetworkClass) (memory : Memory) : Commons :=
  ⟨catalog, networkClass, memory, []⟩

/-- The commons after an act of one of the collections, if it exists. -/
def act (commons : Commons) (client : Nat)
    (action : AssetCollection → Memory → AssetCollection × Memory) : Commons :=
  match commons.collections[client]? with
  | none => commons
  | some collection =>
    let (collection, memory) := action collection commons.memory
    { commons with memory, collections := commons.collections.set client collection }

/-- The commons after something happened. -/
def after (commons : Commons) : Move → Commons
  | .load =>
    let (collection, memory) := AssetCollection.load Memory.store commons.catalog
      commons.networkClass commons.memory
    { commons with memory, collections := commons.collections ++ [collection] }
  | .edit client edit => commons.act client fun collection memory => (collection.edit edit, memory)
  | .save client => commons.act client fun collection memory =>
    (collection.save Memory.store memory).2
  | .sync client => commons.act client fun collection memory =>
    (collection.reconcile Memory.store memory).2
  | .remote key value version =>
    { commons with memory := commons.memory.applyRemote key value version }
  | .wait clock => { commons with memory := { commons.memory with clock } }

/-- The commons after some things happened in order. -/
def run (commons : Commons) (moves : List Move) : Commons := moves.foldl after commons

/-- What comes in for the index can be read and has a higher version than what is
stored. -/
def Admits (commons : Commons) : Move → Prop
  | .remote key value version => key = Persisted.key AssetIndex →
    (Persisted.decode? (α := AssetIndex) value).isSome ∧
      ∀ raw, commons.memory.records[key]? = some raw → raw.version < version
  | _ => True

/-- All that comes in does so with a higher version. -/
def Orderly (commons : Commons) : List Move → Prop
  | [] => True
  | move :: rest => commons.Admits move ∧ (commons.after move).Orderly rest

/-- Each of the collections that there are in the end looks at the store. -/
def Synced (commons : Commons) (moves : List Move) : Prop :=
  ∀ client < (commons.run moves).collections.length, ∃ before after,
    moves = before ++ .sync client :: after ∧ client < (commons.run before).collections.length

theorem run_nil (commons : Commons) : commons.run [] = commons := rfl

theorem run_append (commons : Commons) (earlier later : List Move) :
    commons.run (earlier ++ later) = (commons.run earlier).run later :=
  List.foldl_append

theorem orderly_append {commons : Commons} {earlier later : List Move} :
    commons.Orderly (earlier ++ later) ↔
      commons.Orderly earlier ∧ (commons.run earlier).Orderly later := by
  induction earlier generalizing commons with
  | nil => exact ⟨fun h => ⟨trivial, h⟩, fun h => h.2⟩
  | cons move rest ih => exact (and_congr_right fun _ => ih).trans and_assoc.symm

end Commons

/-! ### What a step does -/

/-- A store goes on to hold an index, and goes to higher versions only. -/
def Memory.Leads (before after : Memory) : Prop :=
  ∀ old, before.index? = some old → ∃ new, after.index? = some new ∧ old.Precedes new

namespace Memory.Leads

variable {first second third : Memory}

theorem of_index? (same : second.index? = first.index?) : Leads first second :=
  fun old found => ⟨old, same.trans found, .refl old⟩

theorem trans (h : Leads first second) (h' : Leads second third) : Leads first third := by
  intro old found
  obtain ⟨middle, found, precedes⟩ := h old found
  obtain ⟨new, found, precedes'⟩ := h' middle found
  exact ⟨new, found, precedes.trans precedes'⟩

theorem of_takes {record : Record AssetIndex} (takes : Takes first second record) :
    Leads first second :=
  fun old found => ⟨record, takes.stored, takes.newer old found⟩

theorem applyRemote {memory : Memory} {key : String} {value : Bytes} {version : Nat}
    (admitted : key = Persisted.key AssetIndex →
      (Persisted.decode? (α := AssetIndex) value).isSome ∧
        ∀ raw, memory.records[key]? = some raw → raw.version < version) :
    Leads memory (memory.applyRemote key value version) := by
  intro old found
  by_cases concerned : key = Persisted.key AssetIndex
  · obtain ⟨decodes, newer⟩ := admitted concerned
    obtain ⟨index, decoded⟩ := Option.isSome_iff_exists.1 decodes
    obtain ⟨raw, there, -, before, -, rfl⟩ := index?_eq_some_iff.1 found
    refine ⟨⟨key, version, memory.clock, false, index⟩, index?_eq_some_iff.2
      ⟨⟨key, version, memory.clock, false, value⟩, ?_, rfl, index, decoded, rfl⟩, .inr ?_⟩
    · rw [getElem?_applyRemote, if_pos concerned]
    · exact newer raw (concerned ▸ there)
  · have elsewhere : (memory.applyRemote key value version).index? = memory.index? :=
      index?_congr (by rw [getElem?_applyRemote, if_neg concerned])
    exact ⟨old, elsewhere.trans found, .refl old⟩

end Memory.Leads

/-- A collection is in order, and its baseline does not run ahead of the store. -/
structure AssetCollection.Follows (collection : AssetCollection) (catalog : Catalog)
    (memory : Memory) : Prop where
  catalog : collection.catalog = catalog
  tidy : collection.Tidy
  behind : ∃ stored, memory.index? = some stored ∧ collection.baseline.Precedes stored

namespace AssetCollection.Follows

variable {collection : AssetCollection} {catalog : Catalog} {memory : Memory}

theorem of_leads (h : collection.Follows catalog memory) {later : Memory}
    (leads : memory.Leads later) : collection.Follows catalog later := by
  obtain ⟨stored, found, precedes⟩ := h.behind
  obtain ⟨new, found, precedes'⟩ := leads stored found
  exact ⟨h.catalog, h.tidy, new, found, precedes.trans precedes'⟩

/-- Neither a baseline nor the store is taken back by an act. -/
structure Onward (catalog : Catalog) (before after : AssetCollection × Memory) : Prop where
  follows : after.1.Follows catalog after.2
  leads : before.2.Leads after.2
  precedes : before.1.baseline.Precedes after.1.baseline

theorem edit (h : collection.Follows catalog memory) (edit : Edit) :
    Onward catalog (collection, memory) (collection.edit edit, memory) := by
  obtain ⟨tidy, sameCatalog, sameBaseline⟩ := h.tidy.edit edit
  refine ⟨⟨sameCatalog.trans h.catalog, tidy, ?_⟩, .of_index? rfl, ?_⟩
  · rw [sameBaseline]
    exact h.behind
  · rw [sameBaseline]
    exact .refl collection.baseline

theorem save (h : collection.Follows catalog memory) :
    Onward catalog (collection, memory) (collection.save Memory.store memory).2 := by
  rcases save_cases h.tidy memory with same | ⟨takes, higher, tidy, sameCatalog⟩
  · rw [same]
    exact ⟨h, .of_index? rfl, .refl collection.baseline⟩
  · exact ⟨⟨sameCatalog.trans h.catalog, tidy, _, takes.stored, .refl _⟩, .of_takes takes, higher⟩

/-- After a look the baseline is what is stored. -/
theorem sync (h : collection.Follows catalog memory) :
    Onward catalog (collection, memory) (collection.reconcile Memory.store memory).2 ∧
      memory.index? = some (collection.reconcile Memory.store memory).2.1.baseline := by
  obtain ⟨stored, found, precedes⟩ := h.behind
  rw [reconcile_eq]
  rcases refreshed_cases collection memory with ⟨same, seen⟩ | ⟨other, read, _, same, tidy, kept⟩
  · rw [same]
    exact ⟨⟨h, .of_index? rfl, .refl collection.baseline⟩,
      precedes.eq_of_le (seen stored found) ▸ found⟩
  · obtain rfl : stored = other := Option.some.inj (found.symm.trans read)
    refine ⟨⟨⟨kept.trans h.catalog, tidy, stored, found, .inl same⟩, .of_index? rfl, ?_⟩, ?_⟩
    · rw [same]
      exact precedes
    · rw [same]
      exact found

end AssetCollection.Follows

namespace Commons

/-- Every collection follows the store. -/
def Sound (commons : Commons) : Prop :=
  ∀ collection ∈ commons.collections,
    collection.Follows (commons.catalog.restrict commons.networkClass) commons.memory

/-- Collections stay, and neither they nor the store are taken back. -/
structure Leads (before after : Commons) : Prop where
  memory : before.memory.Leads after.memory
  collections : ∀ (client : Nat) (old : AssetCollection),
    before.collections[client]? = some old →
      ∃ new, after.collections[client]? = some new ∧ old.baseline.Precedes new.baseline

theorem Leads.refl (commons : Commons) : Leads commons commons :=
  ⟨.of_index? rfl, fun _ old found => ⟨old, found, .refl old.baseline⟩⟩

theorem Leads.trans {first second third : Commons} (h : Leads first second)
    (h' : Leads second third) : Leads first third := by
  refine ⟨h.memory.trans h'.memory, fun client old found => ?_⟩
  obtain ⟨middle, found, precedes⟩ := h.collections client old found
  obtain ⟨new, found, precedes'⟩ := h'.collections client middle found
  exact ⟨new, found, precedes.trans precedes'⟩

variable {commons : Commons}

theorem Sound.act (sound : commons.Sound) (client : Nat)
    {action : AssetCollection → Memory → AssetCollection × Memory}
    (onward : ∀ collection memory,
      collection.Follows (commons.catalog.restrict commons.networkClass) memory →
        AssetCollection.Follows.Onward (commons.catalog.restrict commons.networkClass)
          (collection, memory) (action collection memory)) :
    (commons.act client action).Sound ∧ commons.Leads (commons.act client action) := by
  rw [Commons.act]
  split
  · exact ⟨sound, .refl commons⟩
  · rename_i collection found
    have acted := onward collection commons.memory (sound collection (List.mem_of_getElem? found))
    refine ⟨fun other mem => ?_, acted.leads, fun number old there => ?_⟩
    · rcases List.mem_or_eq_of_mem_set mem with mem | rfl
      · exact (sound other mem).of_leads acted.leads
      · exact acted.follows
    · change ∃ new, (commons.collections.set client _)[number]? = some new ∧ _
      rw [List.getElem?_set]
      split
      · rename_i same
        subst same
        obtain rfl : collection = old := by simpa [found] using there
        rw [if_pos (List.getElem?_eq_some_iff.1 found).1]
        exact ⟨_, rfl, acted.precedes⟩
      · exact ⟨old, there, .refl old.baseline⟩

theorem Sound.after (sound : commons.Sound) {move : Move} (admits : commons.Admits move) :
    (commons.after move).Sound ∧ commons.Leads (commons.after move) := by
  -- Without an act of a collection only the store changes.
  have stored {memory : Memory} (leads : commons.memory.Leads memory) :
      ({ commons with memory } : Commons).Sound ∧ commons.Leads { commons with memory } :=
    ⟨fun collection mem => (sound collection mem).of_leads leads,
      leads, fun _ old found => ⟨old, found, .refl old.baseline⟩⟩
  cases move with
  | load =>
      obtain ⟨takes, tidy, sameCatalog⟩ := AssetCollection.takes_load commons.catalog
        commons.networkClass commons.memory
      refine ⟨fun collection mem => ?_, .of_takes takes, fun client old found => ?_⟩
      · rcases List.mem_append.1 mem with mem | mem
        · exact (sound collection mem).of_leads (.of_takes takes)
        · obtain rfl := List.mem_singleton.1 mem
          exact ⟨sameCatalog, tidy, _, takes.stored, .refl _⟩
      · refine ⟨old, ?_, .refl old.baseline⟩
        exact (List.getElem?_append_left (List.getElem?_eq_some_iff.1 found).1).trans found
  | edit client edit => exact sound.act client fun _ _ follows => follows.edit edit
  | save client => exact sound.act client fun _ _ follows => follows.save
  | sync client => exact sound.act client fun _ _ follows => follows.sync.1
  | remote key value version => exact stored (.applyRemote admits)
  | wait clock => exact stored (.of_index? rfl)

theorem Sound.run (sound : commons.Sound) {moves : List Move} (orderly : commons.Orderly moves) :
    (commons.run moves).Sound ∧ commons.Leads (commons.run moves) := by
  induction moves generalizing commons with
  | nil => exact ⟨sound, .refl commons⟩
  | cons move rest ih =>
      obtain ⟨sound, leads⟩ := sound.after orderly.1
      obtain ⟨sound, leads'⟩ := ih sound orderly.2
      exact ⟨sound, leads.trans leads'⟩

/-! ### Agreement -/

theorem Sound.sync (sound : commons.Sound) {client : Nat}
    (loaded : client < commons.collections.length) :
    ∃ collection, (commons.after (.sync client)).collections[client]? = some collection ∧
      commons.memory.index? = some collection.baseline := by
  rw [Commons.after, Commons.act, List.getElem?_eq_getElem loaded]
  exact ⟨_, List.getElem?_set_self loaded, (sound _ (List.getElem_mem loaded)).sync.2⟩

/-- Collections that have looked at the store stay at what is stored until something
is written. -/
theorem Sound.synced (sound : commons.Sound) {moves : List Move} (orderly : commons.Orderly moves)
    (unwritten : (commons.run moves).memory.index? = commons.memory.index?)
    (synced : commons.Synced moves) :
    ∀ collection ∈ (commons.run moves).collections,
      (commons.run moves).memory.index? = some collection.baseline := by
  intro collection mem
  obtain ⟨stored, found, behind⟩ := ((sound.run orderly).1 collection mem).behind
  obtain ⟨client, inside, rfl⟩ := List.getElem_of_mem mem
  obtain ⟨before, after, rfl, loaded⟩ := synced client inside
  obtain ⟨orderlyBefore, admits, orderlyAfter⟩ := orderly_append.1 orderly
  obtain ⟨soundBefore, leadsBefore⟩ := sound.run orderlyBefore
  obtain ⟨soundSynced, leadsSynced⟩ := soundBefore.after admits
  have leadsAfter := (soundSynced.run orderlyAfter).2
  have split : commons.run (before ++ .sync client :: after) =
      ((commons.run before).after (.sync client)).run after := run_append commons before _
  rw [← split] at leadsAfter
  -- What is stored when the collection looks lies between what is stored first and last.
  obtain ⟨between, storedBetween, notBefore⟩ :=
    leadsBefore.memory stored (unwritten.symm.trans found)
  obtain ⟨last, storedLast, notAfter⟩ := (leadsSynced.trans leadsAfter).memory between
    storedBetween
  obtain rfl : last = stored := Option.some.inj (storedLast.symm.trans found)
  obtain rfl : last = between := notBefore.eq_of_le notAfter.version_le
  obtain ⟨looked, there, same⟩ := soundBefore.sync loaded
  obtain rfl : last = looked.baseline := Option.some.inj (storedBetween.symm.trans same)
  obtain ⟨ended, there, onward⟩ := leadsAfter.collections client looked there
  rw [List.getElem?_eq_getElem inside] at there
  cases there
  rw [found, onward.eq_of_le behind.version_le]

/-- No baseline is ahead of the store, and one at the version of the store is what
is stored. Between writes, which all change what is stored, it takes each collection
one look to be there, and those without edits then show the same. -/
theorem baselines_agree (catalog : Catalog) (networkClass : NetworkClass) (memory : Memory)
    {earlier later : List Move}
    (orderly : (opened catalog networkClass memory).Orderly (earlier ++ later)) :
    let start := (opened catalog networkClass memory).run earlier
    let finish := start.run later
    (∀ collection ∈ finish.collections, ∃ stored, finish.memory.index? = some stored ∧
        collection.baseline.version ≤ stored.version ∧
        (collection.baseline.version = stored.version → collection.baseline = stored)) ∧
      (finish.memory.index? = start.memory.index? → start.Synced later →
        ∀ collection ∈ finish.collections,
          finish.memory.index? = some collection.baseline ∧
            ∀ other ∈ finish.collections, collection.hasUnsavedChanges = false →
              other.hasUnsavedChanges = false → collection.enabled = other.enabled) := by
  intro start finish
  obtain ⟨orderlyEarlier, orderlyLater⟩ := orderly_append.1 orderly
  have soundOpened : (opened catalog networkClass memory).Sound := by simp [Sound, opened]
  have soundStart : start.Sound := (soundOpened.run orderlyEarlier).1
  have soundFinish : finish.Sound := (soundStart.run orderlyLater).1
  refine ⟨fun collection mem => ?_, fun unwritten synced collection mem => ?_⟩
  · obtain ⟨stored, found, behind⟩ := (soundFinish collection mem).behind
    exact ⟨stored, found, behind.version_le, fun same => behind.eq_of_le same.ge⟩
  · have stored := soundStart.synced orderlyLater unwritten synced
    refine ⟨stored collection mem, fun other otherMem clean otherClean => ?_⟩
    have same : collection.baseline = other.baseline :=
      Option.some.inj ((stored collection mem).symm.trans (stored other otherMem))
    have follows := soundFinish collection mem
    have otherFollows := soundFinish other otherMem
    rw [follows.tidy.clean clean, otherFollows.tidy.clean otherClean, follows.catalog,
      otherFollows.catalog, same]

/-- Two collections, one of which has saved and neither of which knows what came in
after that. -/
theorem baselines_agree_after_remote :
    let key := Persisted.key AssetIndex
    let index := AssetIndex.ofIds [Network.bitcoin.currency]
    let saved : List Move := [.load, .load, .edit 0 .resetToStandard, .save 0]
    let earlier := saved ++ [.remote key (Persisted.encode index) 9]
    let later : List Move := [.sync 0, .sync 1]
    let fresh := opened .bitcoin .mainnet .empty
    let start := fresh.run earlier
    let finish := start.run later
    (fresh.Orderly (earlier ++ later) ∧ finish.memory.index? = start.memory.index? ∧
      start.Synced later ∧ start.collections.map (·.baseline.version) = [2, 1]) ∧
      finish.collections.map (·.hasUnsavedChanges) = [false, false] ∧
      ∀ collection ∈ finish.collections,
        finish.memory.index? = some collection.baseline ∧
          ∀ other ∈ finish.collections, collection.hasUnsavedChanges = false →
            other.hasUnsavedChanges = false → collection.enabled = other.enabled := by
  intro key index saved earlier later fresh start finish
  have stored : (fresh.run saved).memory.records[key]?.map (·.version) = some 2 := by
    decide +kernel
  have newer : ∀ raw, (fresh.run saved).memory.records[key]? = some raw →
      raw.version < 9 := by
    intro raw found
    have version : raw.version = 2 := by simpa [found] using stored
    omega
  have decodes : (Persisted.decode? (α := AssetIndex) (Persisted.encode index)).isSome := by
    rw [AssetIndex.decode?_encode]
    rfl
  have orderlySaved : fresh.Orderly saved := ⟨trivial, trivial, trivial, trivial, trivial⟩
  have orderlyEarlier : fresh.Orderly earlier :=
    orderly_append.2 ⟨orderlySaved, fun _ => ⟨decodes, newer⟩, trivial⟩
  have orderly : fresh.Orderly (earlier ++ later) :=
    orderly_append.2 ⟨orderlyEarlier, trivial, trivial, trivial⟩
  obtain ⟨unwritten, behind, clean, two, both⟩ :
      finish.memory.index? = start.memory.index? ∧
        start.collections.map (·.baseline.version) = [2, 1] ∧
        finish.collections.map (·.hasUnsavedChanges) = [false, false] ∧
        (start.run [.sync 0]).collections.length = 2 ∧ finish.collections.length = 2 := by
    decide +kernel
  have loaded : start.collections.length = 2 := by simpa using congrArg List.length behind
  have synced : start.Synced later := by
    intro client inside
    match client, both ▸ inside with
    | 0, _ => exact ⟨[], [.sync 1], rfl, by rw [run_nil, loaded]; decide⟩
    | 1, _ => exact ⟨[.sync 0], [], rfl, by rw [two]; decide⟩
  exact ⟨⟨orderly, unwritten, synced, behind⟩, clean,
    (baselines_agree .bitcoin .mainnet .empty orderly).2 unwritten synced⟩

end Commons

end MultiWallet
