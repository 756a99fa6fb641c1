import MultiWallet.Proofs.RecordFile
import MultiWallet.Proofs.RecordPaths

/-!
Writing a file again and again. A path takes what is written if every content can
replace the file that it leads to, whatever stands there so far; and it still does after
any of them has. What is read there is what stands there, which neither the time nor a
step that the disk refuses has a part in.
-/

namespace MultiWallet

theorem DiskPath.endsInDot_parent (path : DiskPath) : path.parent.endsInDot = false := by
  rw [parent_eq_trimmed, endsInDot_trimmed]

namespace Disk

variable {disk later : Disk} {path : DiskPath}

/-! ### Taking what is written -/

/-- Whether the file that a path leads to can be replaced, by whatever content. -/
def Takes (disk : Disk) (path : DiskPath) : Prop :=
  ∀ content, (disk.replace path content).2 = .ok ()

theorem Takes.replace_eq (takes : disk.Takes path) (content : Bytes) :
    disk.replace path content = ((disk.replace path content).1, .ok ()) :=
  Prod.ext rfl (takes content)

/-- A device that refuses nothing takes what is written, if no directory is in the way. -/
theorem takes_of_free {made : Disk} {temporary target : Place} {name : String}
    (accepts : ∀ change, disk.refuses change = false)
    (surrounded : disk.makeDirectories path.parent = (made, .ok ()))
    (named : path.fileName? = some name)
    (beside : made.locate (path.parent.child (DiskRun.temporaryName name)) = .ok temporary)
    (free : made.node? temporary ≠ some .directory)
    (located : made.locate path = .ok target) (plain : path.asksDirectory = false)
    (replaceable : made.node? target ≠ some .directory) : disk.Takes path := by
  intro content
  obtain ⟨after, replaced, -⟩ :=
    replace_of_free accepts surrounded named beside free located plain replaceable content
  rw [replaced]

/-- All contents go the same way: the same directories are made for them, and they stand at
the same places. -/
theorem Takes.exists_places (takes : disk.Takes path) :
    ∃ made name temporary target, disk.makeDirectories path.parent = (made, .ok ()) ∧
      path.fileName? = some name ∧
      made.locate (path.parent.child (DiskRun.temporaryName name)) = .ok temporary ∧
      made.locate path = .ok target ∧ path.asksDirectory = false ∧
      ∀ content, made.Accepts temporary target content ∧
        made.Installed (disk.replace path content).1 temporary target content := by
  obtain ⟨made, name, temporary, target, surrounded, named, beside, located, plain, -⟩ :=
    replace_ok (takes.replace_eq [])
  refine ⟨made, name, temporary, target, surrounded, named, beside, located, plain,
    fun content => ?_⟩
  obtain ⟨made', name', temporary', target', surrounded', named', beside', located', -, accepts,
    installed⟩ := replace_ok (takes.replace_eq content)
  obtain rfl := congrArg Prod.fst (surrounded.symm.trans surrounded')
  obtain rfl := Option.some.inj (named.symm.trans named')
  obtain rfl := Except.ok.inj (beside.symm.trans beside')
  obtain rfl := Except.ok.inj (located.symm.trans located')
  exact ⟨accepts, installed⟩

theorem Takes.refuses_replace (takes : disk.Takes path) (content : Bytes) :
    (disk.replace path content).1.refuses = disk.refuses := by
  obtain ⟨made, _, _, _, surrounded, -, -, -, -, all⟩ := takes.exists_places
  exact (all content).2.refuses.trans (makeDirectories_ok surrounded).1.refuses

/-- A file that was replaced can be replaced again. -/
theorem Takes.again (takes : disk.Takes path) (content : Bytes) :
    (disk.replace path content).1.Takes path := by
  intro other
  obtain ⟨made, name, temporary, target, surrounded, named, beside, located, plain, all⟩ :=
    takes.exists_places
  obtain ⟨-, installed⟩ := all content
  have accepts := (all other).1
  have stands := (makeDirectories_ok surrounded).2.of_keeps installed.keeps
  -- The directory is there by now; the file is one, and nothing is left of the temporary one.
  have free : (disk.replace path content).1.node? temporary ≠ some .directory := by
    rw [installed.node]
    split_ifs with isTarget isTemporary
    · nofun
    · nofun
    · exact absurd rfl isTemporary
  have replaceable : (disk.replace path content).1.node? target ≠ some .directory := by
    rw [installed.node, if_pos rfl]
    nofun
  obtain ⟨after, replaced, -⟩ := replace_of_accepts
    (makeDirectories_of_stands stands path.endsInDot_parent)
    ⟨installed.refuses ▸ accepts.truncate, installed.refuses ▸ accepts.fill,
      installed.refuses ▸ accepts.rename⟩
    named (locate_of_keeps installed.keeps beside) free
    (locate_of_keeps installed.keeps located) plain replaceable
  rw [replaced]

/-! ### What stands at a path -/

theorem nodeOf?_of_nodes (same : later.nodes = disk.nodes) :
    later.nodeOf? path = disk.nodeOf? path := by
  simp only [nodeOf?, locate_of_nodes same, node?, same]

/-- What is read is the file that stands there, unless the disk refuses to read it. -/
theorem read_eq_ok_iff {content : Bytes} : disk.read path = .ok content ↔
    (∃ modified, disk.nodeOf? path = some (.file content modified)) ∧
      disk.refuses (.read path.place) = false := by
  rw [Disk.read, nodeOf?]
  cases located : disk.locate path with
  | error fault => simp [bind, Except.bind]
  | ok place =>
      obtain rfl := eq_place_of_locate located
      cases refused : disk.refuses (.read path.place) with
      | true => simp [bind, Except.bind, contentAt, refused]
      | false =>
          rcases here : disk.node? path.place with _ | ⟨found, modified⟩ | _
          · simp [bind, Except.bind, contentAt, refused, here]
          · cases plain : path.asksDirectory <;>
              simp [bind, Except.bind, pure, Except.pure, contentAt, refused, here]
          · simp [bind, Except.bind, contentAt, refused, here]

/-- What replaced a file stands there. -/
theorem nodeOf?_of_replace {content : Bytes}
    (done : disk.replace path content = (later, .ok ())) :
    later.nodeOf? path = some (.file content disk.clock) := by
  obtain ⟨made, name, temporary, target, surrounded, -, -, located, plain, -, installed⟩ :=
    replace_ok done
  have there : later.node? target = some (.file content disk.clock) := by
    rw [installed.node, if_pos rfl, (makeDirectories_ok surrounded).1.clock]
  rw [nodeOf?, locate_of_keeps installed.keeps located]
  dsimp only
  rw [there, plain]
  rfl

end Disk

namespace FileStore

variable {files : FileStore} {disk later : Disk} {key : String}

/-- Whether a disk holds what another one holds, and lets the record under a key be read. -/
structure Shows (files : FileStore) (key : String) (disk later : Disk) : Prop where
  nodes : later.nodes = disk.nodes
  reads : later.refuses (.read (files.path key).place) = false

/-- A record that could be read is read again. -/
theorem Shows.get {raw : RawRecord} (shows : files.Shows key disk later)
    (found : files.get key disk = .ok (some raw)) : files.get key later = .ok (some raw) := by
  obtain ⟨content, read⟩ : ∃ content, disk.read (files.path key) = .ok content := by
    rw [FileStore.get, readRecord, Disk.readText] at found
    cases read : disk.read (files.path key) with
    | ok content => exact ⟨content, rfl⟩
    | error fault =>
        rw [read] at found
        cases fault <;> split_ifs at found <;> cases found
  have again : later.read (files.path key) = .ok content := by
    refine Disk.read_eq_ok_iff.2 ⟨?_, shows.reads⟩
    rw [Disk.nodeOf?_of_nodes shows.nodes]
    exact (Disk.read_eq_ok_iff.1 read).1
  rw [FileStore.get, readRecord, Disk.readText] at found ⊢
  rw [again]
  rwa [read] at found

/-- A record that was written is read, whatever stood in its file before. -/
theorem Shows.get_of_set {value : Bytes} {version : Nat} {after : Disk} {raw : RawRecord}
    (shows : files.Shows key after later)
    (done : files.set key value version disk = (.ok raw, after))
    (fits : raw.version < UInt64.size) : files.get key later = .ok (some raw) := by
  obtain ⟨valid, answer, replaced⟩ := set_ok done
  have read : later.read (files.path key) = .ok raw.fileContent := by
    refine Disk.read_eq_ok_iff.2 ⟨⟨disk.clock, ?_⟩, shows.reads⟩
    rw [Disk.nodeOf?_of_nodes shows.nodes, Disk.nodeOf?_of_replace replaced]
  exact get_of_read valid (by rw [answer]) read fits

/-- A record that can be written is written, and others can be written after it. -/
theorem exists_set (takes : disk.Takes (files.path key)) (valid : isKey key = true)
    (value : Bytes) (version : Nat) :
    ∃ raw after, files.set key value version disk = (.ok raw, after) ∧
      after.Takes (files.path key) ∧ after.refuses = disk.refuses := by
  let raw : RawRecord :=
    ⟨key, max (files.versionOf key disk) version + 1, disk.clock, false, value⟩
  refine ⟨raw, (disk.replace (files.path key) raw.fileContent).1, ?_, takes.again _,
    takes.refuses_replace _⟩
  rw [FileStore.set, if_pos valid]
  dsimp only
  rw [show disk.replace (files.path key) _ = _ from takes.replace_eq raw.fileContent]

end FileStore

end MultiWallet
