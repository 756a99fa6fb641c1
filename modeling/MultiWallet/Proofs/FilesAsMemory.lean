import MultiWallet.Proofs.RecordFile
import MultiWallet.Proofs.RecordPaths
import MultiWallet.Replica.Memory

/-!
A store in files answers as one in memory does. As long as the device works, the
directory can be made and only this store writes to it, each file holds the record that
memory holds, but for the time of its change. A store in files keeps nothing besides its
files, so it may be opened anew at any moment.
-/

namespace MultiWallet

/-! ### Two stores in the same use -/

/-- What is asked of a store. -/
inductive StoreCall where
  | get (key : String)
  | set (key : String) (value : Bytes) (version : Nat)
deriving DecidableEq

/-- What a store answers. A write is answered with a record. -/
abbrev StoreAnswer := Except ReplicaError (Option RawRecord)

/-- An answer without the time at which a record was changed. -/
def StoreAnswer.undated (answer : StoreAnswer) : StoreAnswer :=
  answer.map (·.map fun record => { record with lastModified := .epoch })

/-- Asks a store. -/
def StoreCall.ask {σ : Type} (store : Store σ) (s : σ) : StoreCall → StoreAnswer × σ
  | .get key => store.get key s
  | .set key value version =>
    let (answer, s) := store.set key value version s
    (answer.map some, s)

/-- What happens to a store in memory and to one in files that are in the same use. -/
inductive StoreUse where
  | call (call : StoreCall)
  /-- The files are opened anew. -/
  | reopen
  /-- Time passes, by a clock for each of the stores. -/
  | pass (memory disk : Instant)
deriving DecidableEq

namespace StoreUse

/-- What happens to a store in memory, and what it answers if it is asked. -/
def onMemory (memory : Memory) : StoreUse → Option StoreAnswer × Memory
  | .call asked =>
    let (answer, memory) := asked.ask Memory.store memory
    (some answer, memory)
  | .reopen => (none, memory)
  | .pass now _ => (none, { memory with clock := now })

/-- What happens to a store in files, and what it answers if it is asked. -/
def onFiles (opened : FileStore × Disk) : StoreUse → Option StoreAnswer × FileStore × Disk
  | .call asked =>
    let (answer, disk) := asked.ask opened.1.store opened.2
    (some answer, opened.1, disk)
  | .reopen => (none, ⟨opened.1.directory⟩, opened.2)
  | .pass _ now => (none, opened.1, opened.2.withClock now)

/-- What a store answers to each of a row of uses. -/
def answers {σ : Type} (act : σ → StoreUse → Option StoreAnswer × σ) (s : σ) :
    List StoreUse → List (Option StoreAnswer)
  | [] => []
  | use :: rest => (act s use).1 :: answers act (act s use).2 rest

end StoreUse

namespace FileStore

/-- The disk once the directory of the files has been made. -/
def made (files : FileStore) (disk : Disk) : Disk := (disk.makeDirectories files.home).1

/-- Whether files can be kept on a disk: the device refuses nothing, and the directory is
there or can be made by someone who stands in one. -/
structure Usable (files : FileStore) (disk : Disk) : Prop where
  accepts : ∀ change, disk.refuses change = false
  base : disk.node? files.directory.base = some .directory
  home : (disk.makeDirectories files.home).2 = .ok ()

/-- Whether a disk is ready for a store that begins: there are no records, and nothing is in
the way of temporary files. -/
structure Ready (files : FileStore) (disk : Disk) : Prop extends files.Usable disk where
  vacant : ∀ key, isKey key → (files.made disk).node? (files.path key).place = none
  free : ∀ key, isKey key →
    (files.made disk).node? (files.temporaryPath key).place ≠ some .directory

/-- Whether a path to a file with some name, and the name itself, are within the limits. -/
def IsWithin (path : DiskPath) (name : String) : Prop :=
  (Text.utf8 name).length ≤ longestName ∧ path.size ≤ longestPath

instance (path : DiskPath) (name : String) : Decidable (IsWithin path name) :=
  inferInstanceAs (Decidable (_ ∧ _))

/-- Whether all paths that a call goes are within the limits. -/
def Fits (files : FileStore) : StoreCall → Prop
  | .get key => isKey key → IsWithin (files.path key) (fileName key)
  | .set key _ _ => isKey key → IsWithin (files.path key) (fileName key) ∧
      IsWithin (files.temporaryPath key) (DiskRun.temporaryName (fileName key))

instance (files : FileStore) : (call : StoreCall) → Decidable (files.Fits call)
  | .get _ => inferInstanceAs (Decidable (_ → _))
  | .set .. => inferInstanceAs (Decidable (_ → _))

variable {files : FileStore} {disk after : Disk} {key : String}

/-! ### The directory -/

namespace Usable

theorem makeDirectories_eq (usable : files.Usable disk) :
    disk.makeDirectories files.home = (files.made disk, .ok ()) :=
  Prod.ext rfl usable.home

theorem grows (usable : files.Usable disk) : disk.Grows (files.made disk) :=
  (Disk.makeDirectories_ok usable.makeDirectories_eq).1

theorem opens (usable : files.Usable disk) : (files.made disk).Opens files.home :=
  Disk.opens_of_stands (Disk.makeDirectories_ok usable.makeDirectories_eq).2
    (usable.grows.keeps _ usable.base)

theorem locate_path (usable : files.Usable disk) (valid : isKey key = true)
    (within : IsWithin (files.path key) (fileName key)) :
    (files.made disk).locate (files.path key) = .ok (files.path key).place :=
  usable.opens.of_trimmed.locate_child (isName_fileName valid) within.1 within.2

theorem locate_temporaryPath (usable : files.Usable disk) (valid : isKey key = true)
    (within : IsWithin (files.temporaryPath key) (DiskRun.temporaryName (fileName key))) :
    (files.made disk).locate (files.temporaryPath key) = .ok (files.temporaryPath key).place :=
  usable.opens.locate_child (isName_temporaryName valid) within.1 within.2

/-- A directory that is there need not be made. -/
theorem of_stands (accepts : ∀ change, disk.refuses change = false)
    (base : disk.node? files.directory.base = some .directory) (stands : disk.Stands files.home) :
    files.Usable disk ∧ files.made disk = disk := by
  have idle := Disk.makeDirectories_of_stands stands files.directory.endsInDot_trimmed
  exact ⟨⟨accepts, base, congrArg Prod.snd idle⟩, congrArg Prod.fst idle⟩

end Usable

/-! ### Files that hold what memory holds -/

/-- Whether a node is the file of what is kept under a key, but for the time of its change. -/
def Holds (key : String) (kept : Option RawRecord) (node : Option Node) : Prop :=
  match kept with
  | none => node = none
  | some record => record.key = key ∧ record.version < UInt64.size ∧ ∃ date modified,
      node = some (.file (RawRecord.fileContent { record with lastModified := date }) modified)

/-- Whether the files on a disk hold what memory holds. Before the first record is written
the directory may be missing. -/
structure Mirrors (files : FileStore) (memory : Memory) (disk : Disk) : Prop
    extends files.Usable disk where
  there : memory.records = ∅ ∨ files.made disk = disk
  holds : ∀ key, isKey key → Holds key memory.records[key]?
    ((files.made disk).node? (files.path key).place)
  free : ∀ key, isKey key →
    (files.made disk).node? (files.temporaryPath key).place ≠ some .directory

theorem Ready.mirrors (ready : files.Ready disk) : files.Mirrors Memory.empty disk where
  toUsable := ready.toUsable
  there := .inl rfl
  holds key valid := ready.vacant key valid
  free := ready.free

namespace Mirrors

variable {memory : Memory}

/-- Where memory has nothing, no file is found. -/
theorem readRecord_of_none (mirrors : files.Mirrors memory disk) (valid : isKey key = true)
    (within : IsWithin (files.path key) (fileName key)) (kept : memory.records[key]? = none) :
    files.readRecord key disk = .ok none := by
  have nothing := mirrors.holds key valid
  rw [kept] at nothing
  -- Without the directory the way ends before the file, and with it nothing stands there.
  have missing : disk.readText (files.path key) = .error .notFound := by
    rcases mirrors.grows.locate_of_ok (mirrors.locate_path valid within) with located | lost
    · refine Disk.readText_of_missing located ?_ (mirrors.accepts _)
      cases there : disk.node? (files.path key).place with
      | none => rfl
      | some node => exact (mirrors.grows.node_of_isSome there).symm.trans nothing
    · exact Disk.readText_of_locate lost
  rw [readRecord, missing]

/-- Where memory has a record, it is read from its file. -/
theorem readRecord_of_some (mirrors : files.Mirrors memory disk) (valid : isKey key = true)
    (within : IsWithin (files.path key) (fileName key)) {record : RawRecord}
    (kept : memory.records[key]? = some record) :
    ∃ date, files.readRecord key disk = .ok (some { record with lastModified := date }) := by
  have there : files.made disk = disk := by
    refine mirrors.there.resolve_left fun empty => ?_
    rw [empty, Std.ExtTreeMap.getElem?_empty] at kept
    cases kept
  have held := mirrors.holds key valid
  rw [kept, there] at held
  obtain ⟨rfl, fits, date, modified, file⟩ := held
  obtain ⟨text, written⟩ := RawRecord.exists_text { record with lastModified := date }
  have located := mirrors.locate_path valid within
  rw [there] at located
  rw [← written] at file
  have read := Disk.readText_of_read (Disk.read_of_file located
    (files.directory.asksDirectory_child (isName_fileName valid).solid) file (mirrors.accepts _))
  have again : RawRecord.ofFileText record.key text = .ok { record with lastModified := date } :=
    @RawRecord.ofFileText_of_utf8 { record with lastModified := date } fits text written
  exact ⟨date, by rw [readRecord, read]; exact congrArg (Except.map some) again⟩

/-- Reading is answered alike. -/
theorem undated_get (mirrors : files.Mirrors memory disk) (within : files.Fits (.get key)) :
    StoreAnswer.undated (files.get key disk) = StoreAnswer.undated (memory.get key) := by
  rw [get, Memory.get]
  split_ifs with valid
  · cases kept : memory.records[key]? with
    | none => rw [mirrors.readRecord_of_none valid (within valid) kept]
    | some record =>
        obtain ⟨date, read⟩ := mirrors.readRecord_of_some valid (within valid) kept
        rw [read]
        rfl
  · rfl

theorem versionOf_eq (mirrors : files.Mirrors memory disk) (valid : isKey key = true)
    (within : IsWithin (files.path key) (fileName key)) :
    files.versionOf key disk = memory.versionOf key := by
  rw [versionOf, Memory.versionOf]
  cases kept : memory.records[key]? with
  | none => rw [mirrors.readRecord_of_none valid within kept]; rfl
  | some record =>
      obtain ⟨date, read⟩ := mirrors.readRecord_of_some valid within kept
      rw [read]
      rfl

/-- A record that is installed in its file mirrors the one that is put into memory. -/
theorem insert (mirrors : files.Mirrors memory disk) (valid : isKey key = true)
    {record : RawRecord} (own : record.key = key) (fits : record.version < UInt64.size)
    {date : Instant} (installed : (files.made disk).Installed after
      (files.temporaryPath key).place (files.path key).place
      (RawRecord.fileContent { record with lastModified := date })) :
    files.Mirrors { memory with records := memory.records.insert key record } after := by
  have keeps := installed.keeps
  have accepts : ∀ change, after.refuses change = false := by
    rw [installed.refuses, mirrors.grows.refuses]
    exact mirrors.accepts
  obtain ⟨usable, there⟩ := Usable.of_stands accepts
    (keeps _ (mirrors.grows.keeps _ mirrors.base))
    ((Disk.makeDirectories_ok mirrors.makeDirectories_eq).2.of_keeps keeps)
  -- The file of another key stands at neither of the two places that changed.
  refine ⟨usable, .inr there, fun other valid' => ?_, fun other valid' => ?_⟩
  · rw [there, installed.node]
    by_cases same : other = key
    · subst same
      rw [if_pos rfl, Std.ExtTreeMap.getElem?_insert_self]
      exact ⟨own, fits, date, _, rfl⟩
    · rw [if_neg (mt (place_path_inj valid' valid) same),
        if_neg (place_path_ne_temporaryPath valid' valid), Std.ExtTreeMap.getElem?_insert,
        if_neg (by simpa using Ne.symm same)]
      exact mirrors.holds other valid'
  · rw [there, installed.node]
    split_ifs
    · nofun
    · nofun
    · exact mirrors.free other valid'

theorem not_directory {kept : Option RawRecord} {node : Option Node}
    (holds : Holds key kept node) : node ≠ some .directory := by
  cases kept with
  | none =>
      obtain rfl : node = none := holds
      nofun
  | some record =>
      obtain ⟨-, -, date, modified, rfl⟩ := holds
      nofun

/-- Writing is answered alike, and files and memory hold the same afterwards. -/
theorem set (mirrors : files.Mirrors memory disk) {value : Bytes} {version : Nat}
    (within : files.Fits (.set key value version))
    (counted : ∀ record, (memory.set key value version).1 = .ok record →
      record.version < UInt64.size) :
    StoreAnswer.undated ((files.set key value version disk).1.map some) =
        StoreAnswer.undated ((memory.set key value version).1.map some) ∧
      files.Mirrors (memory.set key value version).2 (files.set key value version disk).2 := by
  rw [FileStore.set, Memory.set]
  rw [Memory.set] at counted
  split_ifs at counted ⊢ with valid
  · obtain ⟨short, shortTemporary⟩ := within valid
    have parent := parent_path files valid
    have beside : (files.made disk).locate ((files.path key).parent.child
        (DiskRun.temporaryName (fileName key))) = .ok (files.temporaryPath key).place := by
      rw [parent]
      exact mirrors.locate_temporaryPath valid shortTemporary
    obtain ⟨after, replaced, installed⟩ := Disk.replace_of_free mirrors.accepts
      (parent ▸ mirrors.makeDirectories_eq)
      (files.directory.fileName?_child (isName_fileName valid)) beside (mirrors.free key valid)
      (mirrors.locate_path valid short)
      (files.directory.asksDirectory_child (isName_fileName valid).solid)
      (not_directory (mirrors.holds key valid))
      (RawRecord.fileContent
        ⟨key, max (memory.versionOf key) version + 1, disk.clock, false, value⟩)
    rw [mirrors.versionOf_eq valid short]
    dsimp only
    rw [show disk.replace (files.path key) _ = _ from replaced]
    exact ⟨rfl, mirrors.insert valid rfl (counted _ rfl) installed⟩
  · exact ⟨rfl, mirrors⟩

/-- Time changes nothing that is held. -/
theorem withClock (mirrors : files.Mirrors memory disk) (here now : Instant) :
    files.Mirrors { memory with clock := here } (disk.withClock now) := by
  have later := disk.makeDirectories_withClock now files.home
  have made : files.made (disk.withClock now) = (files.made disk).withClock now :=
    congrArg Prod.fst later
  refine ⟨⟨mirrors.accepts, mirrors.base, (congrArg Prod.snd later).trans mirrors.home⟩,
    mirrors.there.imp_right fun there => by rw [made, there], ?_, ?_⟩
  · rw [made]
    exact mirrors.holds
  · rw [made]
    exact mirrors.free

/-- Whatever happens to both stores, they answer alike and hold the same afterwards. -/
theorem step (mirrors : files.Mirrors memory disk) (use : StoreUse)
    (fits : ∀ asked, use = .call asked → files.Fits asked)
    (counted : ∀ record, (StoreUse.onMemory memory use).1 = some (.ok (some record)) →
      record.version < UInt64.size) :
    (StoreUse.onFiles (files, disk) use).1.map StoreAnswer.undated =
        (StoreUse.onMemory memory use).1.map StoreAnswer.undated ∧
      ∃ after, (StoreUse.onFiles (files, disk) use).2 = (files, after) ∧
        files.Mirrors (StoreUse.onMemory memory use).2 after := by
  cases use with
  | call asked =>
      have within := fits asked rfl
      cases asked with
      | get key => exact ⟨congrArg some (mirrors.undated_get within), disk, rfl, mirrors⟩
      | set key value version =>
          obtain ⟨alike, mirrors⟩ := mirrors.set within fun record answered =>
            counted record (congrArg (fun answer => some (Except.map some answer)) answered)
          exact ⟨congrArg some alike, _, rfl, mirrors⟩
  | reopen => exact ⟨rfl, disk, rfl, mirrors⟩
  | pass here there => exact ⟨rfl, _, rfl, mirrors.withClock here there⟩

theorem answers_eq (mirrors : files.Mirrors memory disk) (uses : List StoreUse)
    (fits : ∀ asked, .call asked ∈ uses → files.Fits asked)
    (counted : ∀ record, some (.ok (some record)) ∈ StoreUse.answers StoreUse.onMemory memory uses →
      record.version < UInt64.size) :
    (StoreUse.answers StoreUse.onFiles (files, disk) uses).map (·.map StoreAnswer.undated) =
      (StoreUse.answers StoreUse.onMemory memory uses).map (·.map StoreAnswer.undated) := by
  -- What carries the induction is that the disk goes on mirroring the memory.
  induction uses generalizing memory disk with
  | nil => rfl
  | cons use rest ih =>
      obtain ⟨alike, after, there, mirrors⟩ := mirrors.step use
        (fun asked same => fits asked (same ▸ List.mem_cons_self))
        (fun record answered => counted record (answered ▸ List.mem_cons_self))
      rw [StoreUse.answers, StoreUse.answers, List.map_cons, List.map_cons, alike, there]
      exact congrArg _ (ih mirrors (fun asked mem => fits asked (List.mem_cons_of_mem _ mem))
        fun record mem => counted record (List.mem_cons_of_mem _ mem))

end Mirrors

end FileStore

/-- A new store in files answers every call as a new store in memory does, but for the time
at which records were changed, also if the files are opened anew in between: if the device
works and the directory is its own, all names are within the limits and no version exceeds
64 bits. -/
theorem files_answer_as_memory {files : FileStore} {disk : Disk} (ready : files.Ready disk)
    (uses : List StoreUse) (fits : ∀ asked, .call asked ∈ uses → files.Fits asked)
    (counted : ∀ record,
      some (.ok (some record)) ∈ StoreUse.answers StoreUse.onMemory Memory.empty uses →
        record.version < UInt64.size) :
    (StoreUse.answers StoreUse.onFiles (files, disk) uses).map (·.map StoreAnswer.undated) =
      (StoreUse.answers StoreUse.onMemory Memory.empty uses).map (·.map StoreAnswer.undated) :=
  ready.mirrors.answers_eq uses fits counted

/-- A blank disk is ready for a directory right below its root. -/
theorem ready_blank : (⟨⟨[], ["kv"]⟩⟩ : FileStore).Ready Disk.blank := by
  have bare (name : String) :
      (FileStore.made ⟨⟨[], ["kv"]⟩⟩ Disk.blank).node? ["kv", name] = none := by
    change (Disk.blank.put ["kv"] .directory).node? ["kv", name] = none
    rw [Disk.node?_put (by decide), if_neg (by simp)]
    exact Std.ExtTreeMap.getElem?_empty
  refine ⟨⟨fun _ => rfl, rfl, rfl⟩, fun key valid => ?_, fun key valid => ?_⟩
  · rw [FileStore.place_path _ valid]
    exact bare _
  · rw [FileStore.place_temporaryPath _ valid]
    exact (bare _).symm ▸ nofun

/-- A record is written twice, with the files opened anew in between, and a key that leads
out of the directory is asked for. -/
def visits : List StoreUse := [
  .call (.get "a"), .call (.set "a" [0x5a, 0xff] 0), .reopen, .call (.set "a" [] 7),
  .call (.get "a"), .call (.get "../a")]

theorem visits_answered_alike :
    (StoreUse.answers StoreUse.onFiles (⟨⟨[], ["kv"]⟩⟩, Disk.blank) visits).map
        (·.map StoreAnswer.undated) =
      (StoreUse.answers StoreUse.onMemory Memory.empty visits).map
        (·.map StoreAnswer.undated) := by
  have answered : StoreUse.answers StoreUse.onMemory Memory.empty visits = [
      some (.ok none), some (.ok (some ⟨"a", 1, .epoch, false, [0x5a, 0xff]⟩)), none,
      some (.ok (some ⟨"a", 8, .epoch, false, []⟩)), some (.ok (some ⟨"a", 8, .epoch, false, []⟩)),
      some (.error (.invalidKey "../a"))] := by decide +kernel
  refine files_answer_as_memory ready_blank visits (fun asked mem => ?_) fun record mem => ?_
  · simp only [visits, List.mem_cons, List.not_mem_nil, or_false, StoreUse.call.injEq,
      reduceCtorEq, false_or] at mem
    rcases mem with rfl | rfl | rfl | rfl | rfl <;> decide +kernel
  · rw [answered] at mem
    simp only [List.mem_cons, List.not_mem_nil, or_false, Option.some.injEq, Except.ok.injEq,
      reduceCtorEq, false_or] at mem
    rcases mem with rfl | rfl | rfl <;> decide

end MultiWallet
