import Mathlib.Tactic.SplitIfs
import MultiWallet.Disk.Replace

/-!
What replacing a file makes of a disk. A path that leads somewhere goes through
directories only, so it leads to the same place on every disk that has them too.
Making directories only adds some; installing a file changes what stands at its own
place and at the temporary one, and nothing else.
-/

namespace MultiWallet

namespace Disk

variable {disk made after : Disk} {path : DiskPath} {place target : Place} {steps : List String}

/-! ### What stands at a place -/

theorem node?_root (disk : Disk) : disk.node? [] = some .directory := if_pos rfl

theorem ne_nil_of_node? (other : disk.node? place ≠ some .directory) : place ≠ [] := by
  rintro rfl
  exact other disk.node?_root

theorem node?_put (named : target ≠ []) (node : Node) (place : Place) :
    (disk.put target node).node? place =
      if place = target then some node else disk.node? place := by
  rw [node?, node?]
  by_cases root : place = []
  · subst root
    rw [if_pos rfl, if_pos rfl, if_neg (Ne.symm named)]
  · rw [if_neg root, if_neg root, put, Std.ExtTreeMap.getElem?_insert]
    simp only [Std.LawfulEqCmp.compare_eq_iff_eq, eq_comm (a := place)]

theorem node?_drop (named : target ≠ []) (place : Place) :
    (disk.drop target).node? place = if place = target then none else disk.node? place := by
  rw [node?, node?]
  by_cases root : place = []
  · subst root
    rw [if_pos rfl, if_pos rfl, if_neg (Ne.symm named)]
  · rw [if_neg root, if_neg root, drop, Std.ExtTreeMap.getElem?_erase]
    simp only [Std.LawfulEqCmp.compare_eq_iff_eq, eq_comm (a := place)]

/-! ### Following a path -/

/-- The place that one step names. -/
def next (place : Place) (step : String) : Place :=
  if step = ".." then place.dropLast else place ++ [step]

/-- Whether a step is no longer than a name may be. -/
def IsShort (step : String) : Prop := step = ".." ∨ (Text.utf8 step).length ≤ longestName

theorem follow_cons {step : String} (here : disk.node? place = some .directory)
    (short : IsShort step) :
    disk.follow place (step :: steps) = disk.follow (next place step) steps := by
  rw [follow, here, next]
  dsimp only
  split_ifs with back long
  · rfl
  · exact absurd (short.resolve_left back) (Nat.not_le.2 long)
  · rfl

theorem follow_cons_ok {step : String} (led : disk.follow place (step :: steps) = .ok target) :
    disk.node? place = some .directory ∧ IsShort step ∧
      disk.follow (next place step) steps = .ok target := by
  rw [follow] at led
  cases here : disk.node? place with
  | none => rw [here] at led; cases led
  | some node =>
      rw [here] at led
      cases node with
      | file content modified => cases led
      | directory =>
          dsimp only at led
          rw [next]
          split_ifs at led ⊢ with back long
          · exact ⟨rfl, .inl back, led⟩
          · exact ⟨rfl, .inr (Nat.not_lt.1 long), led⟩

theorem follow_append {middle : Place} (led : disk.follow place steps = .ok middle)
    (more : List String) : disk.follow place (steps ++ more) = disk.follow middle more := by
  induction steps generalizing place with
  | nil =>
      cases led
      rfl
  | cons step rest ih =>
      obtain ⟨here, short, led⟩ := follow_cons_ok led
      rw [List.cons_append, follow_cons here short, ih led]

/-- The place that steps lead to, if they lead anywhere, is the one that they name. -/
theorem eq_of_follow (led : disk.follow place steps = .ok target) :
    target = steps.foldl next place := by
  induction steps generalizing place with
  | nil => exact (Except.ok.inj led).symm
  | cons step rest ih => exact ih (follow_cons_ok led).2.2

/-- Whether all directories of a disk are directories of another one. -/
def Keeps (disk after : Disk) : Prop :=
  ∀ place, disk.node? place = some .directory → after.node? place = some .directory

/-- Only directories are passed on the way, so other disks that have them lead there too. -/
theorem follow_of_keeps (keeps : disk.Keeps after) (led : disk.follow place steps = .ok target) :
    after.follow place steps = .ok target := by
  induction steps generalizing place with
  | nil => exact led
  | cons step rest ih =>
      obtain ⟨here, short, led⟩ := follow_cons_ok led
      rw [follow_cons (keeps _ here) short, ih led]

theorem locate_of_keeps (keeps : disk.Keeps after) (led : disk.locate path = .ok target) :
    after.locate path = .ok target := by
  rw [locate] at led ⊢
  split_ifs at led ⊢
  exact follow_of_keeps keeps led

/-- Where paths lead is a matter of what stands on the way, and of nothing else. -/
theorem follow_of_nodes (same : after.nodes = disk.nodes) (place : Place) (steps : List String) :
    after.follow place steps = disk.follow place steps := by
  induction steps generalizing place with
  | nil => rfl
  | cons step rest ih =>
      rw [follow, follow, node?, node?, same]
      simp only [ih]

theorem locate_of_nodes (same : after.nodes = disk.nodes) :
    after.locate path = disk.locate path := by
  rw [locate, locate, follow_of_nodes same]

theorem follow_of_locate (led : disk.locate path = .ok target) :
    disk.follow path.base path.steps = .ok target := by
  rw [locate] at led
  split_ifs at led
  exact led

theorem clean_of_locate (led : disk.locate path = .ok target) :
    path.parts.any (·.toList.contains '\x00') = false := by
  rw [locate] at led
  split_ifs at led with nul
  exact Bool.eq_false_iff.2 nul

theorem eq_place_of_locate (led : disk.locate path = .ok target) : target = path.place :=
  eq_of_follow (follow_of_locate led)

/-! ### Adding directories -/

/-- Whether a disk differs from another one at most by directories where nothing stood. -/
structure Grows (disk after : Disk) : Prop where
  clock : after.clock = disk.clock
  refuses : after.refuses = disk.refuses
  node : ∀ place, after.node? place = disk.node? place ∨
    disk.node? place = none ∧ after.node? place = some .directory

theorem Grows.refl (disk : Disk) : disk.Grows disk := ⟨rfl, rfl, fun _ => .inl rfl⟩

theorem Grows.trans (first : disk.Grows made) (second : made.Grows after) : disk.Grows after where
  clock := second.clock.trans first.clock
  refuses := second.refuses.trans first.refuses
  node place := by
    rcases second.node place with same | ⟨missing, made⟩
    · rw [same]
      exact first.node place
    · rcases first.node place with same | ⟨-, made'⟩
      · exact .inr ⟨same.symm.trans missing, made⟩
      · rw [missing] at made'
        cases made'

theorem Grows.node_of_isSome {node : Node} (grows : disk.Grows after)
    (there : disk.node? place = some node) : after.node? place = some node := by
  rcases grows.node place with same | ⟨missing, -⟩
  · rw [same, there]
  · rw [missing] at there
    cases there

theorem Grows.keeps (grows : disk.Grows after) : disk.Keeps after :=
  fun _ there => grows.node_of_isSome there

/-- A directory is put where nothing stood. -/
theorem grows_put (missing : disk.node? place = none) : disk.Grows (disk.put place .directory) := by
  refine ⟨rfl, rfl, fun other => ?_⟩
  rw [node?_put (ne_nil_of_node? (by rw [missing]; nofun))]
  split_ifs with same
  · exact .inr ⟨same ▸ missing, rfl⟩
  · exact .inl rfl

/-- Before directories were made, the way led to the same place or ended at a missing one. -/
theorem Grows.follow_of_ok (grows : disk.Grows after)
    (led : after.follow place steps = .ok target) :
    disk.follow place steps = .ok target ∨ disk.follow place steps = .error .notFound := by
  induction steps generalizing place with
  | nil => exact .inl led
  | cons step rest ih =>
      obtain ⟨here, short, led⟩ := follow_cons_ok led
      rcases grows.node place with same | ⟨missing, -⟩
      · rw [follow_cons (same.symm.trans here) short]
        exact ih led
      · rw [follow, missing]
        exact .inr rfl

/-! ### Steps that change files -/

theorem carryOut_truncate_ok : disk.carryOut (.truncate place) = .ok after ↔
    disk.node? place ≠ some .directory ∧ disk.put place (.file [] disk.clock) = after := by
  rcases here : disk.node? place with _ | ⟨old, modified⟩ | _ <;> simp [carryOut, here]

theorem carryOut_fill_ok {content : Bytes} : disk.carryOut (.fill place content) = .ok after ↔
    (∃ old modified, disk.node? place = some (.file old modified)) ∧
      disk.put place (.file content disk.clock) = after := by
  rcases here : disk.node? place with _ | ⟨old, modified⟩ | _ <;> simp [carryOut, here]

theorem carryOut_rename_ok {source : Place} : disk.carryOut (.rename source target) = .ok after ↔
    ∃ content modified, disk.node? source = some (.file content modified) ∧
      disk.node? target ≠ some .directory ∧
        (disk.drop source).put target (.file content modified) = after := by
  rcases here : disk.node? source with _ | ⟨content, modified⟩ | _ <;>
    rcases there : disk.node? target with _ | ⟨old, before⟩ | _ <;>
    simp [carryOut, here, there, and_assoc]

/-- The disk with a temporary file that has been filled. -/
def written (disk : Disk) (temporary : Place) (content : Bytes) : Disk :=
  (disk.put temporary (.file [] disk.clock)).put temporary (.file content disk.clock)

theorem node?_written {temporary : Place} (free : disk.node? temporary ≠ some .directory)
    (content : Bytes) (place : Place) :
    (disk.written temporary content).node? place =
      if place = temporary then some (.file content disk.clock) else disk.node? place := by
  have named := ne_nil_of_node? free
  rw [written, node?_put named, node?_put named]
  split_ifs <;> rfl

variable {temporary : Place} {content : Bytes}

/-- The temporary file does not change what directories there are. -/
theorem directory_written_iff (free : disk.node? temporary ≠ some .directory) (content : Bytes)
    (place : Place) : (disk.written temporary content).node? place = some .directory ↔
      disk.node? place = some .directory := by
  rw [node?_written free]
  split_ifs with same
  · subst same
    simp [free]
  · rfl

/-- A disk on which a file was installed: it stands at its own place, nothing at the
temporary one, and everything else is as before. -/
structure Installed (disk after : Disk) (temporary target : Place) (content : Bytes) : Prop where
  clock : after.clock = disk.clock
  refuses : after.refuses = disk.refuses
  free : disk.node? temporary ≠ some .directory
  replaceable : disk.node? target ≠ some .directory
  node : ∀ place, after.node? place =
    if place = target then some (.file content disk.clock)
    else if place = temporary then none else disk.node? place

theorem Installed.keeps (installed : disk.Installed after temporary target content) :
    disk.Keeps after := by
  intro place there
  rw [installed.node, if_neg, if_neg, there]
  · rintro rfl
    exact installed.free there
  · rintro rfl
    exact installed.replaceable there

/-- Whether a disk refuses none of the steps that install a file. -/
structure Accepts (disk : Disk) (temporary target : Place) (content : Bytes) : Prop where
  truncate : disk.refuses (.truncate temporary) = false
  fill : disk.refuses (.fill temporary content) = false
  rename : disk.refuses (.rename temporary target) = false

theorem installed_of_rename (free : disk.node? temporary ≠ some .directory)
    (renamed : (disk.written temporary content).carryOut (.rename temporary target) = .ok after) :
    disk.Installed after temporary target content := by
  obtain ⟨old, modified, there, replaceable, rfl⟩ := carryOut_rename_ok.1 renamed
  rw [node?_written free, if_pos rfl] at there
  cases there
  have replaceable' := mt (directory_written_iff free content target).2 replaceable
  refine ⟨rfl, rfl, free, replaceable', fun place => ?_⟩
  rw [node?_put (ne_nil_of_node? replaceable'), node?_drop (ne_nil_of_node? free),
    node?_written free]
  split_ifs <;> rfl

theorem exists_rename (free : disk.node? temporary ≠ some .directory) (content : Bytes)
    (replaceable : disk.node? target ≠ some .directory) :
    ∃ after, (disk.written temporary content).carryOut (.rename temporary target) = .ok after := by
  refine ⟨_, carryOut_rename_ok.2 ⟨content, disk.clock, ?_, ?_, rfl⟩⟩
  · rw [node?_written free, if_pos rfl]
  · exact mt (directory_written_iff free content target).1 replaceable

/-- Whether a path leads to a directory, where an empty path need not lead anywhere. -/
def Stands (disk : Disk) (path : DiskPath) : Prop :=
  path.size = 0 ∨ ∃ place, disk.locate path = .ok place ∧ disk.node? place = some .directory

theorem Stands.of_keeps (stands : disk.Stands path) (keeps : disk.Keeps after) :
    after.Stands path :=
  stands.imp_right fun ⟨place, located, directory⟩ =>
    ⟨place, locate_of_keeps keeps located, keeps place directory⟩

theorem Grows.locate_of_ok (grows : disk.Grows after) (led : after.locate path = .ok target) :
    disk.locate path = .ok target ∨ disk.locate path = .error .notFound := by
  rw [locate] at led ⊢
  split_ifs at led ⊢
  exact grows.follow_of_ok led

end Disk

namespace DiskRun

variable {run after : DiskRun} {path : DiskPath} {place temporary : Place}

/-! ### Steps -/

/-- A step fails and leaves the run as it was, or is carried out. -/
theorem step_cases (run : DiskRun) (change : DiskStep) :
    (∃ fault, run.step change = (run, .error fault)) ∨
      ∃ disk, run.disk.refuses change = false ∧ run.disk.carryOut change = .ok disk ∧
        run.step change = (⟨disk, run.disk :: run.past⟩, .ok ()) := by
  rw [step]
  cases performed : run.disk.perform change with
  | error fault => exact .inl ⟨fault, rfl⟩
  | ok disk =>
      rw [Disk.perform] at performed
      split_ifs at performed with refused
      exact .inr ⟨disk, Bool.eq_false_iff.2 refused, performed, rfl⟩

theorem step_of_carryOut {disk next : Disk} (past : List Disk) {change : DiskStep}
    (done : disk.carryOut change = .ok next) (accepted : disk.refuses change = false) :
    step ⟨disk, past⟩ change = (⟨next, disk :: past⟩, .ok ()) := by
  rw [step, Disk.perform, if_neg (by rw [accepted]; exact Bool.false_ne_true), done]

/-! ### Making directories -/

theorem makeAt_spec (run : DiskRun) (place : Place) :
    run.disk.Grows (run.makeAt place).1.disk ∧ ∀ there, (run.makeAt place).2 = .ok there →
      there = place ∧ (run.makeAt place).1.disk.node? place = some .directory := by
  rw [makeAt]
  cases here : run.disk.node? place with
  | some node =>
      cases node with
      | file content modified => exact ⟨.refl _, nofun⟩
      | directory => exact ⟨.refl _, fun there made => ⟨(Except.ok.inj made).symm, here⟩⟩
  | none =>
      have named : place ≠ [] := Disk.ne_nil_of_node? (by rw [here]; nofun)
      dsimp only
      rcases run.step_cases (.makeDirectory place) with ⟨fault, failed⟩ | ⟨disk, -, carried, made⟩
      · rw [failed]
        exact ⟨.refl _, nofun⟩
      · rw [made]
        rw [Disk.carryOut, here] at carried
        cases carried
        refine ⟨Disk.grows_put here, fun there made => ⟨(Except.ok.inj made).symm, ?_⟩⟩
        rw [Disk.node?_put named, if_pos rfl]

theorem makeDirectory_spec (run : DiskRun) (path : DiskPath) :
    run.disk.Grows (run.makeDirectory path).1.disk ∧
      ∀ there, (run.makeDirectory path).2 = .ok there →
        (run.makeDirectory path).1.disk.locate path = .ok there ∧
          (run.makeDirectory path).1.disk.node? there = some .directory := by
  rw [makeDirectory]
  cases located : run.disk.locate path with
  | error fault => exact ⟨.refl _, nofun⟩
  | ok place =>
      dsimp only
      split_ifs
      · exact ⟨.refl _, nofun⟩
      · obtain ⟨grows, stands⟩ := run.makeAt_spec place
        refine ⟨grows, fun there made => ?_⟩
        obtain ⟨rfl, directory⟩ := stands there made
        exact ⟨Disk.locate_of_keeps grows.keeps located, directory⟩

theorem makeWay_grows (run : DiskRun) (place : Place) (steps : List String) :
    run.disk.Grows (run.makeWay place steps).1.disk := by
  induction steps generalizing run place with
  | nil => exact .refl _
  | cons step rest ih =>
      rw [makeWay]
      cases run.disk.follow place [step] with
      | error fault => exact .refl _
      | ok next =>
          dsimp only
          have grows := (run.makeAt_spec next).1
          cases made : run.makeAt next with
          | mk after answer =>
              rw [made] at grows
              cases answer with
              | error fault => exact grows
              | ok next => exact grows.trans (ih after next)

/-- Making directories only adds some. Afterwards the path leads to one, unless it was
empty. -/
theorem makeDirectories_spec (run : DiskRun) (path : DiskPath) :
    run.disk.Grows (run.makeDirectories path).1.disk ∧
      ((run.makeDirectories path).2 = .ok () →
        (run.makeDirectories path).1.disk.Stands path) := by
  rw [makeDirectories]
  split_ifs with empty
  · exact ⟨.refl _, fun _ => .inl empty⟩
  · obtain ⟨grows, stands⟩ := run.makeDirectory_spec path
    cases first : run.makeDirectory path with
    | mk tried answer =>
        rw [first] at grows stands
        cases answer with
        | ok place => exact ⟨grows, fun _ => .inr ⟨place, stands place rfl⟩⟩
        | error fault =>
            cases fault with
            | notFound =>
                -- The answer is that of the second attempt; all before it only adds directories.
                have growsWay := tried.makeWay_grows path.base path.steps.dropLast
                dsimp only
                cases way : tried.makeWay path.base path.steps.dropLast with
                | mk led answer =>
                    rw [way] at growsWay
                    cases answer with
                    | error fault => exact ⟨grows.trans growsWay, nofun⟩
                    | ok _ =>
                        obtain ⟨growsLast, stands⟩ := led.makeDirectory_spec path
                        refine ⟨(grows.trans growsWay).trans growsLast, fun made => .inr ?_⟩
                        dsimp only at made ⊢
                        cases last : (led.makeDirectory path).2 with
                        | error fault => rw [last] at made; cases made
                        | ok place => exact ⟨place, stands place last⟩
            | _ => exact ⟨grows, nofun⟩

theorem makeDirectories_of_stands (stands : run.disk.Stands path) (plain : path.endsInDot = false) :
    run.makeDirectories path = (run, .ok ()) := by
  rw [makeDirectories]
  split_ifs with empty
  · rfl
  · obtain ⟨place, located, directory⟩ := stands.resolve_left empty
    rw [makeDirectory, located]
    dsimp only
    rw [plain, Bool.false_and, if_neg Bool.false_ne_true, makeAt, directory]

/-! ### Installing a file -/

variable {content : Bytes} {target : Place}

/-- Moving a file fails and leaves the run as it was, or takes it to where the path leads. -/
theorem moveTo_cases (run : DiskRun) (source : Place) (path : DiskPath) :
    (∃ fault, run.moveTo source path = (run, .error fault)) ∨
      ∃ target disk, run.disk.locate path = .ok target ∧ path.asksDirectory = false ∧
        run.disk.refuses (.rename source target) = false ∧
        run.disk.carryOut (.rename source target) = .ok disk ∧
        run.moveTo source path = (⟨disk, run.disk :: run.past⟩, .ok ()) := by
  rw [moveTo]
  cases located : run.disk.locate path with
  | error fault => exact .inl ⟨fault, rfl⟩
  | ok target =>
      dsimp only
      split_ifs with directory
      · exact .inl ⟨_, rfl⟩
      · exact (run.step_cases (.rename source target)).imp_right
          fun ⟨disk, accepted, carried, made⟩ =>
          ⟨target, disk, rfl, Bool.eq_false_iff.2 directory, accepted, carried, made⟩

theorem moveTo_ok {source : Place} (done : run.moveTo source path = (after, .ok ())) :
    ∃ target, run.disk.locate path = .ok target ∧ path.asksDirectory = false ∧
      run.disk.refuses (.rename source target) = false ∧
      run.disk.carryOut (.rename source target) = .ok after.disk := by
  rcases run.moveTo_cases source path with
    ⟨fault, failed⟩ | ⟨target, disk, located, plain, accepted, carried, moved⟩
  · rw [failed] at done
    cases done
  · rw [moved] at done
    cases done
    exact ⟨target, located, plain, accepted, carried⟩

theorem fill_emptied {disk : Disk} (free : disk.node? temporary ≠ some .directory)
    (content : Bytes) :
    (disk.put temporary (.file [] disk.clock)).carryOut (.fill temporary content) =
      .ok (disk.written temporary content) := by
  refine Disk.carryOut_fill_ok.2 ⟨⟨[], disk.clock, ?_⟩, rfl⟩
  rw [Disk.node?_put (Disk.ne_nil_of_node? free), if_pos rfl]

/-- A file that was installed got to where its path leads. -/
theorem install_ok (done : run.install temporary path content = (after, .ok ())) :
    ∃ target, run.disk.locate path = .ok target ∧ path.asksDirectory = false ∧
      run.disk.Accepts temporary target content ∧
      run.disk.Installed after.disk temporary target content := by
  rw [install] at done
  rcases run.step_cases (.truncate temporary) with
    ⟨fault, failed⟩ | ⟨emptied, truncates, carried, made⟩
  · rw [failed] at done
    cases done
  obtain ⟨free, rfl⟩ := Disk.carryOut_truncate_ok.1 carried
  rw [made] at done
  dsimp only at done
  rcases step_cases _ (.fill temporary content) with
    ⟨fault, failed⟩ | ⟨filled, fills, carried, made⟩
  · rw [failed] at done
    cases done
  obtain rfl := Except.ok.inj ((fill_emptied free content).symm.trans carried)
  rw [made] at done
  dsimp only at done
  cases moved : moveTo ⟨run.disk.written temporary content, _⟩ temporary path with
  | mk last answer =>
      rw [moved] at done
      cases answer with
      | error fault => cases done
      | ok _ =>
          cases done
          -- The path is followed with the temporary file in place, which is no directory.
          obtain ⟨target, located, plain, renames, renamed⟩ := moveTo_ok moved
          have keeps := fun place => (Disk.directory_written_iff free content place).1
          exact ⟨target, Disk.locate_of_keeps keeps located, plain, ⟨truncates, fills, renames⟩,
            Disk.installed_of_rename free renamed⟩

/-- A device that refuses none of the steps installs a file where a path leads, unless a
directory is in the way. -/
theorem install_of_free (accepts : run.disk.Accepts temporary target content)
    (free : run.disk.node? temporary ≠ some .directory)
    (located : run.disk.locate path = .ok target) (plain : path.asksDirectory = false)
    (replaceable : run.disk.node? target ≠ some .directory) :
    (run.install temporary path content).2 = .ok () := by
  obtain ⟨disk, carried⟩ := Disk.exists_rename free content replaceable
  have emptied := step_of_carryOut run.past (Disk.carryOut_truncate_ok.2 ⟨free, rfl⟩)
    accepts.truncate
  have filled := step_of_carryOut (run.disk :: run.past) (fill_emptied free content)
    accepts.fill
  have renamed := step_of_carryOut
    (run.disk.put temporary (.file [] run.disk.clock) :: run.disk :: run.past) carried
    accepts.rename
  have keeps := fun place => (Disk.directory_written_iff free content place).2
  rw [install, emptied]
  dsimp only
  rw [filled]
  dsimp only
  rw [moveTo, Disk.locate_of_keeps keeps located, plain]
  dsimp only
  rw [if_neg Bool.false_ne_true, renamed]

end DiskRun

namespace Disk

variable {disk made after : Disk} {path : DiskPath} {temporary target : Place} {content : Bytes}

/-- What making directories does to a disk. -/
theorem makeDirectories_ok (done : disk.makeDirectories path = (made, .ok ())) :
    disk.Grows made ∧ made.Stands path := by
  obtain ⟨grows, stands⟩ := (DiskRun.start disk).makeDirectories_spec path
  obtain ⟨rfl, made⟩ := Prod.mk.inj done
  exact ⟨grows, stands made⟩

/-- Directories that are there are not made again. -/
theorem makeDirectories_of_stands (stands : disk.Stands path) (plain : path.endsInDot = false) :
    disk.makeDirectories path = (disk, .ok ()) := by
  rw [makeDirectories, DiskRun.makeDirectories_of_stands stands plain]
  rfl

/-- A file that was replaced has been installed, once the directory around it was made. -/
theorem replace_ok (done : disk.replace path content = (after, .ok ())) :
    ∃ made name temporary target, disk.makeDirectories path.parent = (made, .ok ()) ∧
      path.fileName? = some name ∧
      made.locate (path.parent.child (DiskRun.temporaryName name)) = .ok temporary ∧
      made.locate path = .ok target ∧ path.asksDirectory = false ∧
      made.Accepts temporary target content ∧ made.Installed after temporary target content := by
  rw [replace, DiskRun.replace] at done
  cases first : (DiskRun.start disk).makeDirectories path.parent with
  | mk run answer =>
      rw [first] at done
      cases answer with
      | error fault => cases done
      | ok _ =>
          dsimp only at done
          cases named : path.fileName? with
          | none =>
              rw [named] at done
              cases done
          | some name =>
              rw [named] at done
              dsimp only at done
              cases beside : run.disk.locate (path.parent.child (DiskRun.temporaryName name)) with
              | error fault =>
                  rw [beside] at done
                  cases done
              | ok temporary =>
                  rw [beside] at done
                  obtain ⟨rfl, installed⟩ := Prod.mk.inj done
                  obtain ⟨target, located, plain, accepts, installed⟩ :=
                    DiskRun.install_ok (Prod.ext rfl installed)
                  refine ⟨run.disk, name, temporary, target, ?_, rfl, beside, located, plain,
                    accepts, installed⟩
                  rw [makeDirectories, first]

/-- A device that refuses none of the steps replaces a file, if no directory is in the way. -/
theorem replace_of_accepts {name : String}
    (surrounded : disk.makeDirectories path.parent = (made, .ok ()))
    (accepts : made.Accepts temporary target content) (named : path.fileName? = some name)
    (beside : made.locate (path.parent.child (DiskRun.temporaryName name)) = .ok temporary)
    (free : made.node? temporary ≠ some .directory)
    (located : made.locate path = .ok target) (plain : path.asksDirectory = false)
    (replaceable : made.node? target ≠ some .directory) :
    ∃ after, disk.replace path content = (after, .ok ()) ∧
      made.Installed after temporary target content := by
  have succeeds : (disk.replace path content).2 = .ok () := by
    rw [replace, DiskRun.replace]
    rw [makeDirectories] at surrounded
    cases first : (DiskRun.start disk).makeDirectories path.parent with
    | mk run answer =>
        rw [first] at surrounded
        cases surrounded
        dsimp only
        rw [named]
        dsimp only
        rw [beside]
        exact DiskRun.install_of_free accepts free located plain replaceable
  have done : disk.replace path content = ((disk.replace path content).1, .ok ()) :=
    Prod.ext rfl succeeds
  obtain ⟨made', name', temporary', target', surrounded', named', beside', located', -, -,
    installed⟩ := replace_ok done
  obtain rfl := congrArg Prod.fst (surrounded.symm.trans surrounded')
  obtain rfl := Option.some.inj (named.symm.trans named')
  obtain rfl := Except.ok.inj (beside.symm.trans beside')
  obtain rfl := Except.ok.inj (located.symm.trans located')
  exact ⟨_, done, installed⟩

/-- A device that refuses nothing replaces a file, if no directory is in the way. -/
theorem replace_of_free {name : String} (accepts : ∀ change, disk.refuses change = false)
    (surrounded : disk.makeDirectories path.parent = (made, .ok ()))
    (named : path.fileName? = some name)
    (beside : made.locate (path.parent.child (DiskRun.temporaryName name)) = .ok temporary)
    (free : made.node? temporary ≠ some .directory)
    (located : made.locate path = .ok target) (plain : path.asksDirectory = false)
    (replaceable : made.node? target ≠ some .directory) (content : Bytes) :
    ∃ after, disk.replace path content = (after, .ok ()) ∧
      made.Installed after temporary target content := by
  rw [← (makeDirectories_ok surrounded).1.refuses] at accepts
  exact replace_of_accepts surrounded ⟨accepts _, accepts _, accepts _⟩ named beside free located
    plain replaceable

/-! ### Reading -/

theorem read_of_file {modified : Instant} (located : disk.locate path = .ok target)
    (plain : path.asksDirectory = false)
    (there : disk.node? target = some (.file content modified))
    (reads : disk.refuses (.read target) = false) : disk.read path = .ok content := by
  have found : disk.contentAt target = .ok content := by
    rw [contentAt, reads, if_neg Bool.false_ne_true, there]
  rw [Disk.read, located]
  change (disk.contentAt target).bind _ = _
  rw [found, plain]
  rfl

theorem readText_of_read {text : String} (read : disk.read path = .ok (Text.utf8 text)) :
    disk.readText path = .ok text := by
  simp only [readText, read, bind, Except.bind, Text.ofUtf8?_utf8]
  rfl

theorem readText_of_locate {fault : IoError} (lost : disk.locate path = .error fault) :
    disk.readText path = .error fault := by
  rw [readText, Disk.read, lost]
  rfl

theorem readText_of_missing (located : disk.locate path = .ok target)
    (missing : disk.node? target = none) (reads : disk.refuses (.read target) = false) :
    disk.readText path = .error .notFound := by
  rw [readText, Disk.read, located]
  change (Except.bind (disk.contentAt target) _ >>= _) = _
  rw [contentAt, reads, if_neg Bool.false_ne_true, missing]
  rfl

/-- What replaced a file is what is read there. -/
theorem read_of_replace (done : disk.replace path content = (after, .ok ()))
    (reads : disk.refuses (.read path.place) = false) : after.read path = .ok content := by
  obtain ⟨made, name, temporary, target, surrounded, -, -, located, plain, -, installed⟩ :=
    replace_ok done
  have refuses := installed.refuses.trans (makeDirectories_ok surrounded).1.refuses
  rw [← eq_place_of_locate located, ← refuses] at reads
  exact read_of_file (locate_of_keeps installed.keeps located) plain
    ((installed.node target).trans (if_pos rfl)) reads

end Disk

/-! ### The time -/

namespace Disk

/-- The disk at another time. -/
def withClock (disk : Disk) (now : Instant) : Disk := { disk with clock := now }

theorem locate_withClock (disk : Disk) (now : Instant) (path : DiskPath) :
    (disk.withClock now).locate path = disk.locate path := locate_of_nodes rfl

end Disk

namespace DiskRun

/-- The run at another time. -/
def withClock (run : DiskRun) (now : Instant) : DiskRun :=
  ⟨run.disk.withClock now, run.past.map (·.withClock now)⟩

/-- What a run does, done at another time. -/
def later {α : Type} (now : Instant) (done : DiskRun × α) : DiskRun × α :=
  (done.1.withClock now, done.2)

theorem makeAt_withClock (run : DiskRun) (now : Instant) (place : Place) :
    (run.withClock now).makeAt place = later now (run.makeAt place) := by
  have same : (run.withClock now).disk.node? place = run.disk.node? place := rfl
  have refuses : (run.withClock now).disk.refuses = run.disk.refuses := rfl
  rw [makeAt, makeAt, same]
  rcases here : run.disk.node? place with _ | ⟨content, modified⟩ | _
  · have stepped : (run.withClock now).step (.makeDirectory place) =
        later now (run.step (.makeDirectory place)) := by
      rw [step, step, Disk.perform, Disk.perform, Disk.carryOut, Disk.carryOut, same, refuses, here]
      by_cases refused : run.disk.refuses (.makeDirectory place) = true
      · rw [if_pos refused, if_pos refused]
        rfl
      · rw [if_neg refused, if_neg refused]
        rfl
    dsimp only
    rw [stepped]
    rcases run.step (.makeDirectory place) with ⟨after, _ | _⟩ <;> rfl
  · rfl
  · rfl

theorem makeDirectory_withClock (run : DiskRun) (now : Instant) (path : DiskPath) :
    (run.withClock now).makeDirectory path = later now (run.makeDirectory path) := by
  have located : (run.withClock now).disk.locate path = run.disk.locate path :=
    run.disk.locate_withClock now path
  rw [makeDirectory, makeDirectory, located]
  cases run.disk.locate path with
  | error fault => rfl
  | ok place =>
      dsimp only
      rw [makeAt_withClock]
      change (if (path.endsInDot && (run.disk.node? place).isNone) = true then _ else _) = _
      split_ifs <;> rfl

theorem makeWay_withClock (run : DiskRun) (now : Instant) (place : Place) (steps : List String) :
    (run.withClock now).makeWay place steps = later now (run.makeWay place steps) := by
  induction steps generalizing run place with
  | nil => rfl
  | cons step rest ih =>
      have led : (run.withClock now).disk.follow place [step] = run.disk.follow place [step] :=
        Disk.follow_of_nodes rfl place [step]
      rw [makeWay, makeWay, led]
      cases run.disk.follow place [step] with
      | error fault => rfl
      | ok next =>
          dsimp only
          rw [makeAt_withClock]
          rcases run.makeAt next with ⟨after, fault | next⟩
          · rfl
          · exact ih after next

/-- Directories are made alike at all times. -/
theorem makeDirectories_withClock (run : DiskRun) (now : Instant) (path : DiskPath) :
    (run.withClock now).makeDirectories path = later now (run.makeDirectories path) := by
  rw [makeDirectories, makeDirectories, makeDirectory_withClock]
  split_ifs
  · rfl
  · rcases run.makeDirectory path with ⟨tried, fault | place⟩
    · cases fault with
      | notFound =>
          dsimp only [later]
          rw [makeWay_withClock]
          rcases tried.makeWay path.base path.steps.dropLast with ⟨led, fault | place⟩
          · rfl
          · dsimp only [later]
            rw [makeDirectory_withClock]
            rfl
      | _ => rfl
    · rfl

end DiskRun

theorem Disk.makeDirectories_withClock (disk : Disk) (now : Instant) (path : DiskPath) :
    (disk.withClock now).makeDirectories path =
      ((disk.makeDirectories path).1.withClock now, (disk.makeDirectories path).2) := by
  have same := (DiskRun.start disk).makeDirectories_withClock now path
  change (DiskRun.start (disk.withClock now)).makeDirectories path = _ at same
  rw [makeDirectories, same]
  rfl

end MultiWallet
