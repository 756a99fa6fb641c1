import MultiWallet.Proofs.RecordPaths

/-!
The replacement of a file, seen after each of its steps. First directories are made on
the way to the file, then a temporary file beside it is written, and only the last step
touches the file itself. So whenever the replacement is cut off, the file is the one that
was there before or has all of the new content, and nothing else has changed.
-/

namespace MultiWallet

namespace DiskPath

variable {path : DiskPath} {name : String} {temporary : Place}

/-- Whether a path comes by a place, on its way or at its end. -/
def ComesBy (path : DiskPath) (place : Place) : Prop :=
  ∃ steps, steps <+: path.steps ∧ steps.foldl Disk.next path.base = place

/-- The place of the temporary file beside the file that a path leads to. -/
def beside? (path : DiskPath) : Option Place :=
  path.fileName?.map fun name => path.place.dropLast ++ [DiskRun.temporaryName name]

/-- Whether a place is the one that a path leads to, or that of the temporary file beside it. -/
def Uses (path : DiskPath) (place : Place) : Prop := place = path.place ∨ path.beside? = some place

theorem comesBy_place (path : DiskPath) : path.ComesBy path.place := ⟨_, List.prefix_rfl, rfl⟩

/-- A file stands in the directory in which its path ends. -/
theorem place_of_fileName? (named : path.fileName? = some name) :
    path.place = path.parent.place ++ [name] := by
  obtain ⟨last, other⟩ := Option.filter_eq_some_iff.1 named
  have onward : name ≠ ".." := by simpa using other
  have steps : path.steps = path.parent.steps ++ [name] := by
    obtain ⟨way, steps⟩ := List.getLast?_eq_some_iff.1 last
    rw [steps_parent, steps, List.dropLast_concat]
  rw [place, steps, List.foldl_append, List.foldl_cons, List.foldl_nil, if_neg onward]
  rfl

theorem temporaryName_ne (name : String) : DiskRun.temporaryName name ≠ name := by
  intro same
  have lengths := congrArg String.length same
  simp only [DiskRun.temporaryName, String.length_append] at lengths
  change 1 + name.length + 4 = name.length at lengths
  omega

theorem beside?_of_locate {disk : Disk} (named : path.fileName? = some name)
    (located : disk.locate (path.parent.child (DiskRun.temporaryName name)) = .ok temporary) :
    path.beside? = some temporary := by
  have isName : IsName (DiskRun.temporaryName name) := by
    have clean := Disk.clean_of_locate located
    rw [child, List.any_append, Bool.or_eq_false_iff] at clean
    refine FileStore.isName_of_long ?_ (by simpa using clean.2)
    simp [DiskRun.temporaryName]
  rw [beside?, named, Option.map_some, place_of_fileName? named, List.dropLast_concat,
    ← path.parent.place_child isName, ← Disk.eq_place_of_locate located]

theorem ne_place_of_beside? (beside : path.beside? = some temporary) : temporary ≠ path.place := by
  obtain ⟨name, named, rfl⟩ := Option.map_eq_some_iff.1 beside
  rw [place_of_fileName? named, List.dropLast_concat]
  exact fun same => temporaryName_ne name (List.singleton_inj.1 (List.append_cancel_left same))

end DiskPath

namespace Disk

variable {disk made state : Disk} {path : DiskPath} {place temporary : Place}

/-- The file at a place: its content, and when it was changed. -/
def file? (disk : Disk) (place : Place) : Option (Bytes × Instant) :=
  match disk.node? place with
  | some (.file content modified) => some (content, modified)
  | _ => none

theorem file?_congr (same : state.node? place = disk.node? place) :
    state.file? place = disk.file? place := by
  rw [file?, file?, same]

theorem Grows.file? (grows : disk.Grows made) (place : Place) :
    made.file? place = disk.file? place := by
  rcases grows.node place with same | ⟨missing, directory⟩
  · exact file?_congr same
  · rw [Disk.file?, Disk.file?, missing, directory]

/-! ### On the way -/

/-- Whether a disk differs from another one at most by directories that a path comes by and
that were missing. -/
structure Paves (disk : Disk) (path : DiskPath) (made : Disk) : Prop extends disk.Grows made where
  within : ∀ place, made.node? place ≠ disk.node? place → path.ComesBy place

theorem Paves.refl (disk : Disk) (path : DiskPath) : disk.Paves path disk :=
  ⟨.refl disk, fun _ differs => absurd rfl differs⟩

theorem Paves.put (paves : disk.Paves path made) (comesBy : path.ComesBy place)
    (missing : made.node? place = none) : disk.Paves path (made.put place .directory) where
  toGrows := paves.toGrows.trans (grows_put missing)
  within other differs := by
    by_cases same : other = place
    · exact same ▸ comesBy
    · rw [node?_put (ne_nil_of_node? (by rw [missing]; nofun)), if_neg same] at differs
      exact paves.within other differs

/-! ### Files that change -/

/-- Whether a disk differs from another one at most by the files at some places. -/
structure Touches (disk : Disk) (only : Place → Prop) (state : Disk) : Prop where
  refuses : state.refuses = disk.refuses
  node : ∀ place, state.node? place = disk.node? place ∨
    only place ∧ disk.node? place ≠ some .directory ∧ state.node? place ≠ some .directory

variable {only wider : Place → Prop}

theorem Touches.mono (touches : disk.Touches only state)
    (more : ∀ place, only place → wider place) :
    disk.Touches wider state :=
  ⟨touches.refuses, fun place => (touches.node place).imp_right (.imp_left (more place))⟩

theorem Touches.trans {later : Disk} (first : disk.Touches only state)
    (second : state.Touches only later) : disk.Touches only later where
  refuses := second.refuses.trans first.refuses
  node place := by
    rcases first.node place with same | ⟨there, before, after⟩
    · exact same ▸ second.node place
    · refine .inr ⟨there, before, ?_⟩
      rcases second.node place with same | ⟨-, -, after⟩
      · rwa [same]
      · exact after

theorem Touches.directory_iff (touches : disk.Touches only state) (place : Place) :
    state.node? place = some .directory ↔ disk.node? place = some .directory := by
  rcases touches.node place with same | ⟨-, before, after⟩
  · rw [same]
  · simp [before, after]

theorem touches_put (free : disk.node? temporary ≠ some .directory) (content : Bytes)
    (modified : Instant) :
    disk.Touches (· = temporary) (disk.put temporary (.file content modified)) := by
  refine ⟨rfl, fun place => ?_⟩
  rw [node?_put (ne_nil_of_node? free)]
  split_ifs with same
  · exact .inr ⟨same, same ▸ free, nofun⟩
  · exact .inl rfl

theorem touches_drop (free : disk.node? temporary ≠ some .directory) :
    disk.Touches (· = temporary) (disk.drop temporary) := by
  refine ⟨rfl, fun place => ?_⟩
  rw [node?_drop (ne_nil_of_node? free)]
  split_ifs with same
  · exact .inr ⟨same, same ▸ free, nofun⟩
  · exact .inl rfl

theorem Installed.touches {target : Place} {content : Bytes}
    (installed : disk.Installed state temporary target content) :
    disk.Touches (fun place => place = target ∨ place = temporary) state := by
  refine ⟨installed.refuses, fun place => ?_⟩
  rw [installed.node]
  split_ifs with isTarget isTemporary
  · exact .inr ⟨.inl isTarget, isTarget ▸ installed.replaceable, nofun⟩
  · exact .inr ⟨.inr isTemporary, isTemporary ▸ installed.free, nofun⟩
  · exact .inl rfl

/-! ### Replacing a file -/

/-- What a disk can become while a file is replaced: directories are made on the way to it, and
once the one that it stands in is there, files change at some places. -/
def Reworks (disk : Disk) (path : DiskPath) (only : Place → Prop) (state : Disk) : Prop :=
  ∃ made, disk.Paves path.parent made ∧
    (state = made ∨ made.Stands path.parent ∧ made.Touches only state)

/-- Whether a disk was spared but for the files at some places and missing directories on a way:
other files are as before, and no directory was lost or made, except that missing ones were made
on the way. -/
structure Spares (disk : Disk) (way : DiskPath) (only : Place → Prop) (state : Disk) : Prop where
  refuses : state.refuses = disk.refuses
  files : ∀ place, ¬only place → state.file? place = disk.file? place
  kept : ∀ place, disk.node? place = some .directory → state.node? place = some .directory
  made : ∀ place, state.node? place = some .directory → disk.node? place = some .directory ∨
    disk.node? place = none ∧ way.ComesBy place

/-- Whether all is ready to replace a file, or is being made ready: the file itself is the one
that was there before. -/
structure Prepares (disk : Disk) (path : DiskPath) (state : Disk) : Prop
    extends disk.Spares path.parent path.Uses state where
  old : state.file? path.place = disk.file? path.place

/-- Whether a file has been replaced: the path leads to it, it has the new content, and the
temporary one is gone. -/
structure Renews (disk : Disk) (path : DiskPath) (content : Bytes) (state : Disk) : Prop
    extends disk.Spares path.parent path.Uses state where
  led : state.locate path = .ok path.place
  new : state.file? path.place = some (content, disk.clock)
  alone : ∃ temporary, path.beside? = some temporary ∧ state.node? temporary = none

theorem Reworks.mono (reworks : disk.Reworks path only state)
    (more : ∀ place, only place → wider place) : disk.Reworks path wider state := by
  obtain ⟨made, paves, rest⟩ := reworks
  exact ⟨made, paves, rest.imp_right (.imp_right (·.mono more))⟩

theorem Reworks.file?_of_not (reworks : disk.Reworks path only state) (other : ¬only place) :
    state.file? place = disk.file? place := by
  obtain ⟨made, paves, rfl | ⟨-, touches⟩⟩ := reworks
  · exact paves.file? place
  · have same := (touches.node place).resolve_right fun changed => other changed.1
    exact (file?_congr same).trans (paves.file? place)

theorem Reworks.spares (reworks : disk.Reworks path only state) :
    disk.Spares path.parent only state := by
  have files place (other : ¬only place) := reworks.file?_of_not other
  obtain ⟨made, paves, later⟩ := reworks
  have directory_iff place :
      state.node? place = some .directory ↔ made.node? place = some .directory := by
    rcases later with rfl | ⟨-, touches⟩
    · rfl
    · exact touches.directory_iff place
  refine ⟨?_, files, fun place there => (directory_iff place).2 (paves.keeps place there), ?_⟩
  · rcases later with rfl | ⟨-, touches⟩
    · exact paves.refuses
    · exact touches.refuses.trans paves.refuses
  · intro place there
    by_cases same : made.node? place = disk.node? place
    · exact .inl (same ▸ (directory_iff place).1 there)
    · exact .inr ⟨((paves.node place).resolve_left same).1, paves.within place same⟩

theorem Reworks.prepares (reworks : disk.Reworks path (path.beside? = some ·) state) :
    disk.Prepares path state where
  toSpares := (reworks.mono fun _ => .inr).spares
  old := reworks.file?_of_not fun beside => DiskPath.ne_place_of_beside? beside rfl

theorem Installed.renews {content : Bytes}
    (installed : made.Installed state temporary path.place content)
    (paves : disk.Paves path.parent made) (stands : made.Stands path.parent)
    (beside : path.beside? = some temporary) (located : made.locate path = .ok path.place) :
    disk.Renews path content state where
  toSpares := by
    have touches : made.Touches path.Uses state :=
      installed.touches.mono fun place => .imp_right fun same => same ▸ beside
    exact Reworks.spares ⟨made, paves, .inr ⟨stands, touches⟩⟩
  led := locate_of_keeps installed.keeps located
  new := by rw [file?, installed.node, if_pos rfl, paves.clock]
  alone := by
    refine ⟨temporary, beside, ?_⟩
    rw [installed.node, if_neg (DiskPath.ne_place_of_beside? beside), if_pos rfl]

end Disk

namespace DiskRun

variable {run : DiskRun} {disk : Disk} {P : Disk → Prop} {path : DiskPath} {place : Place}

/-! ### Runs -/

/-- Whether all states that the disk has in a run are of a kind. -/
def Always (run : DiskRun) (P : Disk → Prop) : Prop := ∀ state ∈ run.states, P state

theorem Always.now (always : run.Always P) : P run.disk := always _ List.mem_cons_self

theorem Always.next (always : run.Always P) {next : Disk} (here : P next) :
    Always ⟨next, run.disk :: run.past⟩ P :=
  List.forall_mem_cons.2 ⟨here, always⟩

theorem Always.step (always : run.Always P) (change : DiskStep)
    (keeps : ∀ next, run.disk.carryOut change = .ok next → P next) :
    (run.step change).1.Always P := by
  rcases run.step_cases change with ⟨fault, failed⟩ | ⟨next, -, carried, made⟩
  · rw [failed]
    exact always
  · rw [made]
    exact always.next (keeps next carried)

theorem Always.makeAt (always : run.Always (disk.Paves path)) (comesBy : path.ComesBy place) :
    (run.makeAt place).1.Always (disk.Paves path) := by
  rw [DiskRun.makeAt]
  cases here : run.disk.node? place with
  | some node => cases node <;> exact always
  | none =>
      have stepped := always.step (.makeDirectory place) fun next carried => by
        rw [Disk.carryOut, here] at carried
        cases carried
        exact always.now.put comesBy here
      dsimp only
      cases answered : run.step (.makeDirectory place) with
      | mk after answer =>
          rw [answered] at stepped
          cases answer <;> exact stepped

theorem Always.makeDirectory (always : run.Always (disk.Paves path)) :
    (run.makeDirectory path).1.Always (disk.Paves path) := by
  rw [DiskRun.makeDirectory]
  cases located : run.disk.locate path with
  | error fault => exact always
  | ok place =>
      dsimp only
      split_ifs
      · exact always
      · exact always.makeAt (Disk.eq_place_of_locate located ▸ path.comesBy_place)

theorem Always.makeWay (always : run.Always (disk.Paves path)) {earlier steps : List String}
    (onWay : earlier ++ steps <+: path.steps) (here : earlier.foldl Disk.next path.base = place) :
    (run.makeWay place steps).1.Always (disk.Paves path) := by
  induction steps generalizing run earlier place with
  | nil => exact always
  | cons step rest ih =>
      rw [DiskRun.makeWay]
      cases led : run.disk.follow place [step] with
      | error fault => exact always
      | ok next =>
          -- A step further is the next place that the path comes by.
          rw [List.append_cons] at onWay
          have further : (earlier ++ [step]).foldl Disk.next path.base = next := by
            rw [List.foldl_append, here]
            exact (Disk.eq_of_follow led).symm
          have tried := always.makeAt ⟨_, (List.prefix_append _ rest).trans onWay, further⟩
          obtain ⟨-, stands⟩ := run.makeAt_spec next
          dsimp only
          cases made : run.makeAt next with
          | mk after answer =>
              rw [made] at tried stands
              cases answer with
              | error fault => exact tried
              | ok there => exact ih tried onWay (further.trans (stands there rfl).1.symm)

theorem Always.makeDirectories (always : run.Always (disk.Paves path)) :
    (run.makeDirectories path).1.Always (disk.Paves path) := by
  rw [DiskRun.makeDirectories]
  split_ifs
  · exact always
  · have tried := always.makeDirectory
    cases first : run.makeDirectory path with
    | mk start answer =>
        rw [first] at tried
        cases answer with
        | ok place => exact tried
        | error fault =>
            cases fault with
            | notFound =>
                have onWay : [] ++ path.steps.dropLast <+: path.steps := List.dropLast_prefix _
                have led := tried.makeWay onWay rfl
                dsimp only
                cases way : start.makeWay path.base path.steps.dropLast with
                | mk after answer =>
                    rw [List.foldl_nil, way] at led
                    cases answer with
                    | error fault => exact led
                    | ok place => exact led.makeDirectory
            | _ => exact tried

/-- Until a file is moved to its place, only the temporary one changes. -/
theorem Always.install {temporary : Place} (always : run.Always P)
    (aside : ∀ state, run.disk.Touches (· = temporary) state → P state) (path : DiskPath)
    (content : Bytes) :
    ((run.install temporary path content).2 = .ok () ∧
        ∀ state ∈ (run.install temporary path content).1.past, P state) ∨
      (∃ fault, (run.install temporary path content).2 = .error fault) ∧
        (run.install temporary path content).1.Always P := by
  rw [DiskRun.install]
  rcases run.step_cases (.truncate temporary) with ⟨fault, failed⟩ | ⟨emptied, -, carried, made⟩
  · rw [failed]
    exact .inr ⟨⟨fault, rfl⟩, always⟩
  obtain ⟨free, rfl⟩ := Disk.carryOut_truncate_ok.1 carried
  have emptied := Disk.touches_put free [] run.disk.clock
  have first := always.next (aside _ emptied)
  rw [made]
  dsimp only
  rcases step_cases _ (.fill temporary content) with ⟨fault, failed⟩ | ⟨filled, -, carried, made⟩
  · rw [failed]
    exact .inr ⟨⟨fault, rfl⟩, first⟩
  obtain rfl := Except.ok.inj ((fill_emptied free content).symm.trans carried)
  have still := mt (emptied.directory_iff temporary).1 free
  have written := emptied.trans (Disk.touches_put still content run.disk.clock)
  have second := first.next (aside _ written)
  rw [made]
  dsimp only
  rcases moveTo_cases ⟨run.disk.written temporary content, _⟩ temporary path with
    ⟨fault, failed⟩ | ⟨target, moved, -, -, -, -, done⟩
  · rw [failed]
    refine .inr ⟨⟨fault, rfl⟩, second.step (.remove temporary) fun next carried => ?_⟩
    rw [Disk.carryOut] at carried
    split at carried <;> cases carried
    exact aside _ (written.trans (Disk.touches_drop (mt (written.directory_iff temporary).1 free)))
  · rw [done]
    exact .inl ⟨rfl, second⟩

/-- Up to the last step of a replacement only the temporary file changes, and then the file is
installed. -/
theorem replace_cases (disk : Disk) (path : DiskPath) (content : Bytes) :
    (((start disk).replace path content).2 = .ok () ∧
        (∀ state ∈ ((start disk).replace path content).1.past,
          disk.Reworks path (path.beside? = some ·) state) ∧
        ∃ made temporary, disk.Paves path.parent made ∧ made.Stands path.parent ∧
          path.beside? = some temporary ∧ made.locate path = .ok path.place ∧
          made.Installed ((start disk).replace path content).1.disk temporary path.place content) ∨
      (∃ fault, ((start disk).replace path content).2 = .error fault) ∧
        ((start disk).replace path content).1.Always
          (disk.Reworks path (path.beside? = some ·)) := by
  have begun : (start disk).Always (disk.Paves path.parent) :=
    List.forall_mem_singleton.2 (.refl disk path.parent)
  have paved := begun.makeDirectories
  obtain ⟨-, stands⟩ := (start disk).makeDirectories_spec path.parent
  rw [replace]
  cases first : (start disk).makeDirectories path.parent with
  | mk run answer =>
      rw [first] at paved stands
      have onWay : run.Always (disk.Reworks path (path.beside? = some ·)) :=
        fun state mem => ⟨state, paved state mem, .inl rfl⟩
      cases answer with
      | error fault => exact .inr ⟨⟨fault, rfl⟩, onWay⟩
      | ok _ =>
          have stands := stands rfl
          dsimp only at stands ⊢
          cases named : path.fileName? with
          | none => exact .inr ⟨⟨_, rfl⟩, onWay⟩
          | some name =>
              dsimp only
              cases located : run.disk.locate (path.parent.child (temporaryName name)) with
              | error fault => exact .inr ⟨⟨fault, rfl⟩, onWay⟩
              | ok temporary =>
                  have beside := DiskPath.beside?_of_locate named located
                  have aside state (touches : run.disk.Touches (· = temporary) state) :
                      disk.Reworks path (path.beside? = some ·) state :=
                    ⟨run.disk, paved.now, .inr ⟨stands, touches.mono fun _ same => same ▸ beside⟩⟩
                  rcases onWay.install aside path content with ⟨done, past⟩ | failed
                  · obtain ⟨target, located, -, -, installed⟩ := install_ok (Prod.ext rfl done)
                    obtain rfl := Disk.eq_place_of_locate located
                    exact .inl ⟨done, past, run.disk, temporary, paved.now, stands, beside,
                      located, installed⟩
                  · exact .inr failed

end DiskRun

/-- Wherever the replacement of a file is cut off, the file is the one that was there before or
has all of the new content; it has the new content, with no temporary file beside it, if the
replacement succeeds, and is the old one if it fails. In every state all other files are as
before, and so are all directories, but for missing ones that were made on the way. -/
theorem file_replaced_as_a_whole (disk : Disk) (path : DiskPath) (content : Bytes) :
    let done := (DiskRun.start disk).replace path content
    (∀ state ∈ done.1.states, disk.Prepares path state ∨ disk.Renews path content state) ∧
      (done.2 = .ok () → disk.Renews path content done.1.disk) ∧
      ∀ fault, done.2 = .error fault → disk.Prepares path done.1.disk := by
  intro done
  rcases DiskRun.replace_cases disk path content with
    ⟨succeeds, past, made, temporary, paves, stands, beside, located, installed⟩ |
    ⟨⟨fault, fails⟩, always⟩
  · have renews := installed.renews paves stands beside located
    refine ⟨fun state mem => ?_, fun _ => renews, fun fault fails => ?_⟩
    · rcases List.mem_cons.1 mem with rfl | earlier
      · exact .inr renews
      · exact .inl (past state earlier).prepares
    · cases succeeds.symm.trans fails
  · refine ⟨fun state mem => .inl (always state mem).prepares, fun succeeds => ?_,
      fun _ _ => always.now.prepares⟩
    cases fails.symm.trans succeeds

end MultiWallet
