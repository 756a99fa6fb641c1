import Mathlib.Data.List.Induction
import MultiWallet.Proofs.Interrupting
import MultiWallet.Proofs.ReadBack

/-!
A store in files keeps its records apart. Each key has two files of its own, which stand
right in the directory: reading depends on one of them, and writing touches both and
nothing else besides directories on the way. So what is written under one key does not
change what is read under another, whether or not the write succeeds. Only a record
whose path led nowhere yet, as a directory on it was missing, can turn out differently
once that has been made: if some name is too long, the path steps back out of it, or the
device does not let the file be read.
-/

namespace MultiWallet

/-- Whether a node is a directory. -/
def Node.isDirectory : Node → Bool
  | .directory => true
  | .file _ _ => false

namespace Disk

variable {disk other made state : Disk} {path : DiskPath} {place target : Place}
  {steps : List String}

/-! ### What following a path depends on -/

/-- What kind of node stands at a place, whatever its content. -/
def kind? (disk : Disk) (place : Place) : Option Bool := (disk.node? place).map Node.isDirectory

theorem kind?_eq_true : disk.kind? place = some true ↔ disk.node? place = some .directory := by
  rcases here : disk.node? place with _ | ⟨content, modified⟩ | _ <;>
    simp [kind?, here, Node.isDirectory]

theorem kind?_eq_none : disk.kind? place = none ↔ disk.node? place = none := Option.map_eq_none_iff

theorem kind?_of_node? (same : other.node? place = disk.node? place) :
    other.kind? place = disk.kind? place := by
  rw [kind?, kind?, same]

theorem Grows.kind? (grows : disk.Grows made) (there : disk.kind? place ≠ none) :
    made.kind? place = disk.kind? place := by
  rcases grows.node place with same | ⟨missing, -⟩
  · exact kind?_of_node? same
  · exact absurd (kind?_eq_none.2 missing) there

/-- A step depends on what is there, and on the length of its name. -/
theorem follow_step (disk : Disk) (place : Place) (step : String) (rest : List String) :
    disk.follow place (step :: rest) =
      match disk.kind? place with
      | none => .error .notFound
      | some false => .error .notDirectory
      | some true =>
        if step ≠ ".." ∧ longestName < (Text.utf8 step).length then .error .nameTooLong
        else disk.follow (next place step) rest := by
  rw [follow, Disk.kind?, next]
  rcases disk.node? place with _ | ⟨content, modified⟩ | _
  · rfl
  · rfl
  · dsimp only [Option.map_some, Node.isDirectory]
    split_ifs <;> simp_all

theorem follow_congr (same : ∀ earlier step rest, steps = earlier ++ step :: rest →
    other.kind? (earlier.foldl next place) = disk.kind? (earlier.foldl next place)) :
    other.follow place steps = disk.follow place steps := by
  induction steps generalizing place with
  | nil => rfl
  | cons step rest ih =>
      have here : other.kind? place = disk.kind? place := same [] step rest rfl
      have further := ih fun earlier later rest split =>
        same (step :: earlier) later rest (congrArg (step :: ·) split)
      rw [follow_step, follow_step, here, further]

/-- All that is passed on the way is a directory. -/
theorem kind?_of_follow {earlier rest : List String} {step : String}
    (led : disk.follow place (earlier ++ step :: rest) = .ok target) :
    disk.kind? (earlier.foldl next place) = some true := by
  induction earlier generalizing place with
  | nil => exact kind?_eq_true.2 (follow_cons_ok led).1
  | cons first earlier ih => exact ih (follow_cons_ok led).2.2

/-- Unless the way ended at something missing, directories that are made elsewhere do not
change where it leads. -/
theorem Grows.follow_of_ne (grows : disk.Grows made)
    (found : disk.follow place steps ≠ .error .notFound) :
    made.follow place steps = disk.follow place steps := by
  induction steps generalizing place with
  | nil => rfl
  | cons step rest ih =>
      rw [follow_step] at found
      rw [follow_step, follow_step]
      cases here : disk.kind? place with
      | none => simp [here] at found
      | some isDirectory =>
          rw [grows.kind? (by rw [here]; nofun), here]
          rw [here] at found
          cases isDirectory with
          | false => rfl
          | true =>
              dsimp only at found ⊢
              split_ifs at found ⊢
              · rfl
              · exact ih found

/-- A way past directories and missing places only leads somewhere or ends at one of these. -/
theorem follow_of_open (short : ∀ step ∈ steps, (Text.utf8 step).length ≤ longestName)
    (clear : ∀ earlier step rest, steps = earlier ++ step :: rest →
      disk.kind? (earlier.foldl next place) ≠ some false) :
    disk.follow place steps = .ok (steps.foldl next place) ∨
      disk.follow place steps = .error .notFound := by
  induction steps generalizing place with
  | nil => exact .inl rfl
  | cons step rest ih =>
      have here : disk.kind? place ≠ some false := clear [] step rest rfl
      obtain ⟨shortStep, short⟩ := List.forall_mem_cons.1 short
      rw [follow_step]
      cases kind : disk.kind? place with
      | none => exact .inr rfl
      | some isDirectory =>
          cases isDirectory with
          | false => exact absurd kind here
          | true =>
              dsimp only
              rw [if_neg fun long => absurd long.2 (Nat.not_lt.2 shortStep)]
              exact ih short fun earlier later rest split =>
                clear (step :: earlier) later rest (congrArg (step :: ·) split)

/-! ### Trees -/

/-- Whether nothing stands anywhere but in a directory. -/
def IsTree (disk : Disk) : Prop :=
  ∀ place name, disk.node? (place ++ [name]) ≠ none → disk.node? place = some .directory

theorem IsTree.directory (tree : disk.IsTree) {step : String} {rest : List String}
    (there : disk.node? (place ++ step :: rest) ≠ none) :
    disk.node? place = some .directory := by
  induction rest using List.reverseRecOn with
  | nil => exact tree place step there
  | append_singleton rest last ih =>
      have split : place ++ step :: (rest ++ [last]) = place ++ step :: rest ++ [last] := by simp
      refine ih ?_
      rw [tree _ last (split ▸ there)]
      nofun

theorem foldl_next (onward : ".." ∉ steps) (place : Place) :
    steps.foldl next place = place ++ steps := by
  induction steps generalizing place with
  | nil => exact (List.append_nil place).symm
  | cons step rest ih =>
      rw [List.mem_cons, not_or] at onward
      rw [List.foldl_cons, ih onward.2, next, if_neg (Ne.symm onward.1), List.append_assoc]
      rfl

/-- What stands in a tree is reached by its names. -/
theorem IsTree.follow (tree : disk.IsTree) (onward : ".." ∉ steps)
    (short : ∀ step ∈ steps, (Text.utf8 step).length ≤ longestName)
    (there : disk.node? (place ++ steps) ≠ none) :
    disk.follow place steps = .ok (place ++ steps) := by
  induction steps generalizing place with
  | nil => rw [List.append_nil]; rfl
  | cons step rest ih =>
      rw [List.mem_cons, not_or] at onward
      obtain ⟨shortStep, short⟩ := List.forall_mem_cons.1 short
      have further : next place step = place ++ [step] := if_neg (Ne.symm onward.1)
      rw [List.append_cons] at there ⊢
      rw [follow_cons (tree.directory (List.append_cons place step rest ▸ there)) (.inr shortStep),
        further]
      exact ih onward.2 short there

/-- A way onwards that was lost, as something was missing, is not barred by directories that
are made. -/
theorem IsTree.follow_made (tree : disk.IsTree) (onward : ".." ∉ steps)
    (short : ∀ step ∈ steps, (Text.utf8 step).length ≤ longestName)
    (lost : disk.follow place steps = .error .notFound) (grows : disk.Grows made) :
    made.follow place steps = .ok (steps.foldl next place) ∨
      made.follow place steps = .error .notFound := by
  refine follow_of_open short fun earlier step rest split bars => ?_
  -- A file on the way was there before, so the way had ended at it.
  have barred : disk.kind? (earlier.foldl next place) = some false := by
    rcases grows.node (earlier.foldl next place) with same | ⟨-, directory⟩
    · exact (kind?_of_node? same).symm.trans bars
    · cases (kind?_eq_true.2 directory).symm.trans bars
  rw [split, List.mem_append, not_or] at onward
  rw [foldl_next onward.1] at barred
  have led : disk.follow place earlier = .ok (place ++ earlier) := by
    refine tree.follow onward.1 (fun name mem => short name ?_) fun missing => ?_
    · exact split ▸ List.mem_append_left _ mem
    · cases (kind?_eq_none.2 missing).symm.trans barred
  rw [split, follow_append led, follow_step, barred] at lost
  cases lost

/-! ### What reading depends on -/

theorem locate_of_follow
    (same : other.follow path.base path.steps = disk.follow path.base path.steps) :
    other.locate path = disk.locate path := by
  rw [locate, locate, same]

theorem Grows.locate_of_ne (grows : disk.Grows made) (found : disk.locate path ≠ .error .notFound) :
    made.locate path = disk.locate path := by
  rw [locate] at found
  rw [locate, locate]
  split_ifs at found ⊢
  · rfl
  · rfl
  · rfl
  · exact grows.follow_of_ne found

/-- A path that is written out leads nowhere only if something on the way is missing. -/
theorem follow_of_lost (named : path.size ≠ 0) (lost : disk.locate path = .error .notFound) :
    disk.follow path.base path.steps = .error .notFound ∧
      ∀ other : Disk, other.locate path = other.follow path.base path.steps := by
  have straight (other : Disk) : other.locate path = other.follow path.base path.steps := by
    rw [locate] at lost ⊢
    split_ifs at lost ⊢
    · cases lost
    · cases lost
    · rfl
  exact ⟨(straight disk).symm.trans lost, straight⟩

theorem readText_congr (located : other.locate path = disk.locate path)
    (there : disk.locate path = .ok path.place →
      other.node? path.place = disk.node? path.place ∧
        other.refuses (.read path.place) = disk.refuses (.read path.place)) :
    other.readText path = disk.readText path := by
  have read : other.read path = disk.read path := by
    rw [Disk.read, Disk.read, located]
    cases led : disk.locate path with
    | error fault => rfl
    | ok place =>
        obtain rfl := eq_place_of_locate led
        obtain ⟨node, refuses⟩ := there led
        have content : other.contentAt path.place = disk.contentAt path.place := by
          rw [contentAt, contentAt, node, refuses]
        change (other.contentAt path.place).bind _ = (disk.contentAt path.place).bind _
        rw [content]
  rw [readText, readText, read]

end Disk

namespace FileStore

variable {files : FileStore} {key other : String} {disk later made state : Disk} {place : Place}

/-! ### The files of a record -/

/-- The place of the file that holds a record. -/
def recordPlace (files : FileStore) (key : String) : Place :=
  files.directory.place ++ [key ++ ".kv.json"]

/-- The place of the temporary file for a record. -/
def temporaryPlace (files : FileStore) (key : String) : Place :=
  files.directory.place ++ ["." ++ key ++ ".kv.json.tmp"]

/-- Whether a file at a place belongs to the record under a key. -/
def Owns (files : FileStore) (key : String) (place : Place) : Prop :=
  place = files.recordPlace key ∨ place = files.temporaryPlace key

theorem temporaryName_fileName (key : String) :
    DiskRun.temporaryName (fileName key) = "." ++ key ++ ".kv.json.tmp" := by
  rw [DiskRun.temporaryName, fileName, ← String.append_assoc, String.append_assoc]
  rfl

theorem beside?_path (files : FileStore) (valid : isKey key = true) :
    (files.path key).beside? = some (files.temporaryPlace key) := by
  have named : (files.path key).fileName? = some (fileName key) :=
    files.directory.fileName?_child (isName_fileName valid)
  rw [DiskPath.beside?, named, Option.map_some, files.place_path valid, List.dropLast_concat,
    temporaryName_fileName]
  rfl

theorem steps_path (files : FileStore) (valid : isKey key = true) :
    (files.path key).steps = files.directory.steps ++ [fileName key] :=
  files.directory.steps_child (isName_fileName valid).solid

theorem comesBy_home (files : FileStore) (place : Place) :
    files.home.ComesBy place ↔ files.directory.ComesBy place := by
  rw [DiskPath.ComesBy, home, DiskPath.steps_trimmed]
  rfl

/-- The files of a record stand right in the directory, under names that cannot be read as
more than one step. -/
theorem Owns.exists_name (valid : isKey key = true) (owns : files.Owns key place) :
    ∃ name, place = files.directory.place ++ [name] ∧ IsName name ∧ '/' ∉ name.toList := by
  obtain ⟨first, rest, chars, -, all⟩ := exists_of_isKey valid
  have inKey : '/' ∉ key.toList := fun mem => absurd (all _ (chars ▸ mem)) (by decide)
  rcases owns with rfl | rfl
  · exact ⟨_, rfl, isName_fileName valid, by simp [inKey]⟩
  · exact ⟨_, rfl, temporaryName_fileName key ▸ isName_temporaryName valid, by simp [inKey]⟩

/-- Different keys have different files. -/
theorem Owns.not_owns (owns : files.Owns key place) (valid : isKey key = true)
    (valid' : isKey other = true) (different : other ≠ key) : ¬files.Owns other place := by
  have ends {name name' : String}
      (same : files.directory.place ++ [name] = files.directory.place ++ [name']) : name = name' :=
    List.singleton_inj.1 (List.append_cancel_left same)
  rintro (same | same) <;> rcases owns with rfl | rfl
  · exact different (fileName_injective (ends same)).symm
  · exact fileName_ne_temporaryName valid' _ ((temporaryName_fileName key).trans (ends same)).symm
  · exact fileName_ne_temporaryName valid _ ((ends same).trans (temporaryName_fileName other).symm)
  · refine different (String.toList_inj.1 ?_)
    have chars := congrArg String.toList (ends same)
    simpa using chars.symm

/-! ### Writing -/

/-- The run of a write: the states of the disk between its steps. -/
def writing (files : FileStore) (key : String) (value : Bytes) (version : Nat) (disk : Disk) :
    DiskRun :=
  if isKey key then
    let record : RawRecord :=
      ⟨key, max (files.versionOf key disk) version + 1, disk.clock, false, value⟩
    ((DiskRun.start disk).replace (files.path key) (RawRecord.fileContent record)).1
  else .start disk

theorem set_snd (files : FileStore) (key : String) (value : Bytes) (version : Nat) (disk : Disk) :
    (files.set key value version disk).2 = (files.writing key value version disk).disk := by
  rw [set, writing]
  split_ifs
  · dsimp only
    cases replaced : disk.replace (files.path key) (RawRecord.fileContent
      ⟨key, max (files.versionOf key disk) version + 1, disk.clock, false, value⟩) with
    | mk after answer =>
        have same := congrArg Prod.fst replaced
        cases answer <;> exact same.symm
  · rfl

/-- A write makes directories on the way and changes files of its own record. -/
theorem always_reworks (files : FileStore) (valid : isKey key = true) (value : Bytes)
    (version : Nat) (disk : Disk) :
    (files.writing key value version disk).Always
      (disk.Reworks (files.path key) (files.Owns key)) := by
  have beside {place : Place} (there : (files.path key).beside? = some place) :
      files.Owns key place := .inr (Option.some.inj (there.symm.trans (files.beside?_path valid)))
  rw [writing, if_pos valid]
  dsimp only
  rcases DiskRun.replace_cases disk (files.path key) _ with
    ⟨-, past, made, temporary, paves, stands, there, -, installed⟩ | ⟨-, always⟩
  · refine List.forall_mem_cons.2 ⟨⟨made, paves, .inr ⟨stands, ?_⟩⟩, fun state mem =>
      (past state mem).mono fun _ => beside⟩
    refine installed.touches.mono fun place => ?_
    rintro (rfl | rfl)
    · exact .inl (files.place_path valid)
    · exact beside there
  · exact fun state mem => (always state mem).mono fun _ => beside

theorem spares_of_reworks (valid : isKey key = true)
    (reworks : disk.Reworks (files.path key) (files.Owns key) state) :
    disk.Spares files.directory (files.Owns key) state where
  refuses := reworks.spares.refuses
  files := reworks.spares.files
  kept := reworks.spares.kept
  made place there := by
    rw [← files.comesBy_home, ← files.parent_path valid]
    exact reworks.spares.made place there

/-! ### Reading -/

/-- Whether two disks are the same for a record: on the way to its file, at its place, and in
letting it be read. -/
structure SameFor (files : FileStore) (key : String) (disk later : Disk) : Prop where
  way : ∀ place, files.directory.ComesBy place → later.kind? place = disk.kind? place
  node : later.node? (files.recordPlace key) = disk.node? (files.recordPlace key)
  refuses : later.refuses (.read (files.recordPlace key)) =
    disk.refuses (.read (files.recordPlace key))

theorem get_congr (valid : isKey key = true)
    (same : later.readText (files.path key) = disk.readText (files.path key)) :
    files.get key later = files.get key disk := by
  rw [FileStore.get, FileStore.get, if_pos valid, if_pos valid, readRecord, readRecord, same]

/-- A place that is passed on the way to a record's file is one that the directory's path comes
by. -/
theorem comesBy_of_split (valid : isKey key = true) {earlier rest : List String} {step : String}
    (split : (files.path key).steps = earlier ++ step :: rest) :
    files.directory.ComesBy (earlier.foldl Disk.next files.directory.base) := by
  refine ⟨earlier, ?_, rfl⟩
  rw [files.steps_path valid] at split
  have before : earlier <+: files.directory.steps ++ [fileName key] :=
    ⟨step :: rest, split.symm⟩
  refine (List.prefix_concat_iff.1 before).resolve_left fun whole => ?_
  rw [whole, List.self_eq_append_right] at split
  cases split

theorem SameFor.get (same : files.SameFor key disk later) (valid : isKey key = true) :
    files.get key later = files.get key disk := by
  refine get_congr valid (Disk.readText_congr (Disk.locate_of_follow ?_) fun _ => ?_)
  · exact Disk.follow_congr fun earlier step rest split =>
      same.way _ (comesBy_of_split valid split)
  · rw [files.place_path valid]
    exact ⟨same.node, same.refuses⟩

/-! ### Reading what another key holds -/

/-- Whether a record is not lost by more than missing directories: the disk is a tree, the path
never steps back, all names on it are within the limit, and the disk lets the file be read. -/
structure Unbarred (files : FileStore) (key : String) (disk : Disk) : Prop where
  tree : disk.IsTree
  onward : ".." ∉ files.directory.steps
  short : ∀ step ∈ (files.path key).steps, (Text.utf8 step).length ≤ longestName
  reads : disk.refuses (.read (files.recordPlace key)) = false

/-- Where the way to a file led anywhere, nothing is changed by directories that are made. -/
theorem readText_of_paves (valid : isKey key = true) (paves : disk.Paves files.home made)
    (found : disk.locate (files.path key) ≠ .error .notFound) :
    made.readText (files.path key) = disk.readText (files.path key) := by
  refine Disk.readText_congr (paves.locate_of_ne found) fun led =>
    ⟨?_, congrFun paves.refuses _⟩
  -- Had the place been missing and paved, the path could not have come by it.
  by_contra differs
  obtain ⟨steps, ⟨more, split⟩, here⟩ := (files.comesBy_home _).1 (paves.within _ differs)
  have missing := ((paves.node _).resolve_left differs).1
  have led := Disk.follow_of_locate led
  rw [files.steps_path valid, ← split] at led
  have passed : disk.kind? (files.path key).place = some true := by
    rw [← here]
    cases more with
    | nil => exact Disk.kind?_of_follow (List.append_nil steps ▸ led)
    | cons step more => exact Disk.kind?_of_follow (List.append_assoc .. ▸ led)
  rw [Disk.kind?_eq_true, missing] at passed
  cases passed

theorem Unbarred.not_mem_steps (unbarred : files.Unbarred key disk) (valid : isKey key = true) :
    ".." ∉ (files.path key).steps := by
  rw [files.steps_path valid, List.mem_append, List.mem_singleton, not_or]
  exact ⟨unbarred.onward, (isName_fileName valid).onward.symm⟩

/-- A record that is lost as a directory is missing stays lost when that is made. -/
theorem Unbarred.readText_made (unbarred : files.Unbarred key disk) (valid : isKey key = true)
    (paves : disk.Paves files.home made)
    (lost : disk.locate (files.path key) = .error .notFound) :
    made.readText (files.path key) = .error .notFound := by
  obtain ⟨lost, straight⟩ :=
    Disk.follow_of_lost (files.directory.size_child_ne_zero (isName_fileName valid)) lost
  have onward := unbarred.not_mem_steps valid
  have place_eq : (files.path key).place = (files.path key).base ++ (files.path key).steps :=
    Disk.foldl_next onward _
  have bare : made.node? (files.path key).place = none := by
    by_contra there
    by_cases same : made.node? (files.path key).place = disk.node? (files.path key).place
    · rw [same, place_eq] at there
      cases lost.symm.trans (unbarred.tree.follow onward unbarred.short there)
    · obtain ⟨steps, within, here⟩ := (files.comesBy_home _).1 (paves.within _ same)
      have shorter := within.length_le
      have forth : ".." ∉ steps := fun mem => unbarred.onward (within.mem mem)
      rw [Disk.foldl_next forth, place_eq] at here
      have whole := congrArg List.length (List.append_cancel_left here)
      rw [files.steps_path valid, List.length_append, List.length_singleton] at whole
      omega
  rcases unbarred.tree.follow_made onward unbarred.short lost paves.toGrows with led | lost
  · refine Disk.readText_of_missing ((straight made).trans led) bare ?_
    rw [paves.refuses]
    change disk.refuses (.read (files.path key).place) = false
    rw [files.place_path valid]
    exact unbarred.reads
  · exact Disk.readText_of_locate ((straight made).trans lost)

/-- Once the directory is there, changes to the files of one record do not reach another. -/
theorem readText_of_touches (valid : isKey key = true) (valid' : isKey other = true)
    (different : other ≠ key) (stands : made.Stands files.home)
    (touches : made.Touches (files.Owns key) state) :
    state.readText (files.path other) = made.readText (files.path other) := by
  have untouched (place : Place) (free : ¬files.Owns key place) :
      state.node? place = made.node? place :=
    (touches.node place).resolve_right fun changed => free changed.1
  have aside : ¬files.Owns key files.directory.place := by
    rintro (same | same) <;> exact absurd same (by simp [recordPlace, temporaryPlace])
  have led : made.follow files.directory.base files.directory.steps =
      .ok files.directory.place := by
    rw [← DiskPath.steps_trimmed, ← DiskPath.place_trimmed]
    exact stands.follow
  have ledLater := Disk.follow_of_keeps (fun place => (touches.directory_iff place).2) led
  refine Disk.readText_congr (Disk.locate_of_follow ?_) fun _ => ⟨?_, congrFun touches.refuses _⟩
  · rw [files.steps_path valid']
    change state.follow files.directory.base _ = made.follow files.directory.base _
    rw [Disk.follow_append led, Disk.follow_append ledLater, Disk.follow_step, Disk.follow_step,
      Disk.kind?_of_node? (untouched _ aside)]
    rfl
  · refine untouched _ fun owns => owns.not_owns valid valid' different ?_
    exact .inl (files.place_path valid')

/-- What is made for one record does not change what is read of another, unless this was lost
for more than missing directories. -/
theorem get_of_reworks (valid : isKey key = true) (valid' : isKey other = true)
    (different : other ≠ key) (reworks : disk.Reworks (files.path key) (files.Owns key) state)
    (found : disk.locate (files.path other) ≠ .error .notFound ∨ files.Unbarred other disk) :
    files.get other state = files.get other disk := by
  obtain ⟨made, paves, later⟩ := reworks
  rw [files.parent_path valid] at paves later
  have paved : made.readText (files.path other) = disk.readText (files.path other) := by
    by_cases lost : disk.locate (files.path other) = .error .notFound
    · have unbarred := found.resolve_left (not_not_intro lost)
      rw [unbarred.readText_made valid' paves lost, Disk.readText_of_locate lost]
    · exact readText_of_paves valid' paves lost
  refine get_congr valid' (.trans ?_ paved)
  rcases later with rfl | ⟨stands, touches⟩
  · rfl
  · exact readText_of_touches valid valid' different stands touches

end FileStore

/-! ### Names beyond the limit -/

/-- A key of many letters. -/
def letters (n : Nat) : String := String.ofList (List.replicate n 'k')

theorem isKey_letters (n : Nat) : isKey (letters (n + 1)) = true := by
  rw [letters, isKey, String.toList_ofList, List.replicate_succ]
  simp [isKeyChar, List.all_replicate]

theorem length_letters (n : Nat) : (Text.utf8 (letters n)).length = n := by
  rw [letters, Text.utf8_ofList, List.length_flatMap, List.map_replicate, List.sum_replicate_nat]
  exact Nat.mul_one n

theorem Text.length_utf8_append (first second : String) : (Text.utf8 (first ++ second)).length =
    (Text.utf8 first).length + (Text.utf8 second).length := by
  rw [Text.utf8, Text.utf8, Text.utf8, Array.length_toList, Array.length_toList,
    Array.length_toList]
  exact String.utf8ByteSize_append

namespace FileStore

variable {key : String} {disk : Disk}

theorem length_fileName (key : String) :
    (Text.utf8 (fileName key)).length = (Text.utf8 key).length + 8 :=
  Text.length_utf8_append key ".kv.json"

/-- Nothing is found on a blank disk, however long the name of the file would be. -/
theorem get_blank (valid : isKey key = true)
    (fits : 3 + (Text.utf8 (fileName key)).length ≤ longestPath) :
    get ⟨⟨[], ["kv"]⟩⟩ key Disk.blank = .ok none := by
  have isName := isName_fileName valid
  have size : (path ⟨⟨[], ["kv"]⟩⟩ key).size = 3 + (Text.utf8 (fileName key)).length :=
    Text.length_utf8_append "kv/" (fileName key)
  have clean : (path ⟨⟨[], ["kv"]⟩⟩ key).parts.any (·.toList.contains '\x00') = false := by
    simpa [path, DiskPath.child] using isName.clean
  have lost : Disk.blank.locate (path ⟨⟨[], ["kv"]⟩⟩ key) = .error .notFound := by
    rw [← size] at fits
    rw [Disk.locate, clean, if_neg Bool.false_ne_true, if_neg (by omega),
      if_neg (Nat.not_lt.2 fits), steps_path _ valid]
    rfl
  rw [get, if_pos valid, readRecord, Disk.readText_of_locate lost]

/-- What has too long a name is not found in the directory, but refused. -/
theorem get_of_long {files : FileStore} (opens : disk.Opens files.directory)
    (valid : isKey key = true) (long : longestName < (Text.utf8 (fileName key)).length) :
    files.get key disk = .error (.io .nameTooLong) := by
  have lost : disk.locate (files.path key) = .error .nameTooLong :=
    opens.locate_child_of_long (isName_fileName valid) long
  rw [get, if_pos valid, readRecord, Disk.readText_of_locate lost]

end FileStore

/-- Each key has files of its own. One that is no key is refused, with nothing read or written.
The files of a key stand right in the directory; what is read under it depends on its record's
file and the way there, and a write changes nothing else but directories that were missing on
that way, in whatever state it is cut off. Different keys share no file, so a write under one,
even one that fails, does not change what is read under another, unless the path to that led
nowhere as a directory was missing, and this was not all that barred it. -/
theorem keys_have_files_of_their_own (files : FileStore) (key : String) :
    (isKey key = false → ∀ disk value version,
      files.get key disk = .error (.invalidKey key) ∧
        files.set key value version disk = (.error (.invalidKey key), disk) ∧
        (files.writing key value version disk).states = [disk]) ∧
      (isKey key = true →
        (∀ place, files.Owns key place → ∃ name,
          place = files.directory.place ++ [name] ∧ IsName name ∧ '/' ∉ name.toList) ∧
        (∀ disk later, files.SameFor key disk later → files.get key later = files.get key disk) ∧
        (∀ disk value version,
          (files.set key value version disk).2 = (files.writing key value version disk).disk ∧
            (files.writing key value version disk).Always
              (disk.Spares files.directory (files.Owns key))) ∧
        ∀ other, isKey other = true → other ≠ key →
          (∀ place, files.Owns key place → ¬files.Owns other place) ∧
            ∀ disk value version,
              disk.locate (files.path other) ≠ .error .notFound ∨ files.Unbarred other disk →
                (files.writing key value version disk).Always
                  (files.get other · = files.get other disk)) := by
  refine ⟨fun invalid disk value version => ?_, fun valid => ⟨fun place owns => ?_,
    fun disk later same => same.get valid, fun disk value version => ?_,
    fun other valid' different => ⟨fun place owns => ?_, fun disk value version found => ?_⟩⟩⟩
  · refine ⟨?_, ?_, ?_⟩
    · rw [FileStore.get, invalid, if_neg Bool.false_ne_true]
    · rw [FileStore.set, invalid, if_neg Bool.false_ne_true]
    · rw [FileStore.writing, invalid, if_neg Bool.false_ne_true]
      rfl
  · exact owns.exists_name valid
  · exact ⟨files.set_snd key value version disk, fun state mem =>
      FileStore.spares_of_reworks valid (files.always_reworks valid value version disk state mem)⟩
  · exact owns.not_owns valid valid' different
  · exact fun state mem => FileStore.get_of_reworks valid valid' different
      (files.always_reworks valid value version disk state mem) found

/-- While the directory is missing, no record is found under a key whose file would have too
long a name, past a step back, or in a file that may not be read; a write under another key
makes the directory, and then all three answers are different. -/
theorem lost_records_turn_out_otherwise :
    let files : FileStore := ⟨⟨[], ["kv"]⟩⟩
    let back : FileStore := ⟨⟨[], ["x", "..", "kv"]⟩⟩
    let written := (files.set "b" [] 0 Disk.blank).2
    let sealed : Disk := { Disk.blank with refuses := (· = .read ["kv", "b.kv.json"]) }
    (isKey "a" = true ∧ isKey "b" = true ∧ isKey (letters 248) = true ∧ letters 248 ≠ "a") ∧
      (files.get (letters 248) Disk.blank = .ok none ∧
        files.get (letters 248) (files.set "a" [] 0 Disk.blank).2 = .error (.io .nameTooLong)) ∧
      (back.get "b" written = .ok none ∧
        back.get "b" (back.set "a" [] 0 written).2 = .ok (some ⟨"b", 1, .epoch, false, []⟩)) ∧
      (files.get "b" sealed = .ok none ∧
        files.get "b" (files.set "a" [] 0 sealed).2 = .error (.io .device)) := by
  intro files back written sealed
  have valid : isKey (letters 248) = true := isKey_letters 247
  have size : (Text.utf8 (letters 248)).length = 248 := length_letters 248
  have named : (Text.utf8 (FileStore.fileName (letters 248))).length = 256 := by
    rw [FileStore.length_fileName, size]
  have opens : (files.set "a" [] 0 Disk.blank).2.Opens files.directory := by
    constructor <;> decide +kernel
  refine ⟨⟨by decide, by decide, valid, fun same => ?_⟩, ⟨?_, ?_⟩, by decide +kernel⟩
  · rw [same] at size
    exact absurd size (by decide)
  · exact FileStore.get_blank valid (by rw [named]; decide)
  · exact FileStore.get_of_long opens valid (by rw [named]; decide)

end MultiWallet
