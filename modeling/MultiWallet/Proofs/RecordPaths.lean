import Mathlib.Data.List.TakeWhile
import MultiWallet.Proofs.Replacing
import MultiWallet.Replica.FileStore

/-!
Where the files of a store in a directory stand. A record's file and the temporary one
beside it are direct children of the directory, whatever idle parts its path ends with,
and different keys have different files.
-/

namespace MultiWallet

/-- Whether a text can be the name of a file: it leads somewhere, but not back, and can be
written in a path. -/
structure IsName (name : String) : Prop where
  solid : DiskPath.isIdle name = false
  onward : name ≠ ".."
  clean : name.toList.contains '\x00' = false

namespace DiskPath

variable {name : String}

/-- The path without the parts at its end that lead nowhere. -/
def trimmed (path : DiskPath) : DiskPath :=
  ⟨path.base, (path.parts.reverse.dropWhile isIdle).reverse⟩

/-- A path only has idle parts behind its trimmed form. -/
theorem exists_idle (path : DiskPath) :
    ∃ idle, path.parts = path.trimmed.parts ++ idle ∧ ∀ part ∈ idle, isIdle part = true := by
  refine ⟨(path.parts.reverse.takeWhile isIdle).reverse, ?_, fun part mem => ?_⟩
  · rw [trimmed, ← List.reverse_append, List.takeWhile_append_dropWhile, List.reverse_reverse]
  · exact List.mem_takeWhile_imp (List.mem_reverse.1 mem)

theorem steps_trimmed (path : DiskPath) : path.trimmed.steps = path.steps := by
  obtain ⟨idle, parts, all⟩ := path.exists_idle
  have none : idle.filter (!isIdle ·) = [] :=
    List.filter_eq_nil_iff.2 fun part mem => by simp [all part mem]
  rw [steps, steps, parts, List.filter_append, none, List.append_nil]

theorem place_trimmed (path : DiskPath) : path.trimmed.place = path.place := by
  rw [place, place, steps_trimmed]
  rfl

theorem isIdle_of_dropWhile {parts more : List String} {part : String}
    (rest : parts.dropWhile isIdle = part :: more) : isIdle part = false := by
  have first := List.head?_dropWhile_not isIdle parts
  rw [rest] at first
  simpa using first

/-- The directory in which a path ends is found by leaving out its last part. -/
theorem parent_eq_trimmed (path : DiskPath) :
    path.parent = trimmed ⟨path.base, (path.parts.reverse.dropWhile isIdle).tail.reverse⟩ := by
  rw [parent, trimmed, List.reverse_reverse]

theorem steps_parent (path : DiskPath) : path.parent.steps = path.steps.dropLast := by
  rw [parent_eq_trimmed, steps_trimmed, ← path.steps_trimmed, steps, steps, trimmed]
  cases rest : path.parts.reverse.dropWhile isIdle with
  | nil => rfl
  | cons part more => simp [isIdle_of_dropWhile rest]

theorem endsInDot_trimmed (path : DiskPath) : path.trimmed.endsInDot = false := by
  rw [endsInDot, trimmed, List.filter_reverse, List.getLast?_reverse]
  cases rest : path.parts.reverse.dropWhile isIdle with
  | nil => rfl
  | cons part more =>
      obtain ⟨named, other⟩ : part ≠ "" ∧ part ≠ "." := by
        simpa [isIdle] using isIdle_of_dropWhile rest
      simp [named, other]

theorem parent_child (path : DiskPath) (solid : isIdle name = false) :
    (path.child name).parent = path.trimmed := by
  simp [parent, child, trimmed, solid]

theorem asksDirectory_child (path : DiskPath) (solid : isIdle name = false) :
    (path.child name).asksDirectory = false := by
  simp [asksDirectory, child, solid]

theorem steps_child (path : DiskPath) (solid : isIdle name = false) :
    (path.child name).steps = path.steps ++ [name] := by
  simp [steps, child, solid]

theorem fileName?_child (path : DiskPath) (isName : IsName name) :
    (path.child name).fileName? = some name := by
  simp [fileName?, path.steps_child isName.solid, isName.onward]

theorem place_child (path : DiskPath) (isName : IsName name) :
    (path.child name).place = path.place ++ [name] := by
  rw [place, path.steps_child isName.solid, List.foldl_append, List.foldl_cons, List.foldl_nil,
    if_neg isName.onward]
  rfl

/-- Only empty parts make an empty path. -/
theorem eq_empty_of_size {path : DiskPath} (empty : path.size = 0) {part : String}
    (mem : part ∈ path.parts) : part = "" := by
  have blank : Text.joined "/" path.parts = "" := by
    rw [size, Text.utf8, Array.length_toList] at empty
    exact String.utf8ByteSize_eq_zero_iff.1 empty
  rw [Text.joined] at blank
  cases parts : path.parts with
  | nil => rw [parts] at mem; cases mem
  | cons first rest =>
      rw [parts] at mem blank
      cases rest with
      | nil =>
          rw [String.intercalate_singleton] at blank
          rw [List.mem_singleton.1 mem, blank]
      | cons second rest =>
          rw [String.intercalate_cons_cons] at blank
          have none := congrArg String.toList blank
          simp at none

theorem steps_of_size {path : DiskPath} (empty : path.size = 0) : path.steps = [] :=
  List.filter_eq_nil_iff.2 fun part mem => by simp [eq_empty_of_size empty mem, isIdle]

theorem size_child_ne_zero (path : DiskPath) (isName : IsName name) :
    (path.child name).size ≠ 0 := by
  intro empty
  have last : name ∈ (path.child name).parts :=
    List.mem_append_right _ (List.mem_singleton_self name)
  have blank := eq_empty_of_size empty last
  exact absurd isName.solid (by rw [blank]; decide)

end DiskPath

namespace Disk

variable {disk : Disk} {path : DiskPath} {name : String}

/-- Whether a path leads to a directory whose files can be reached through it. -/
structure Opens (disk : Disk) (path : DiskPath) : Prop where
  clean : path.parts.any (·.toList.contains '\x00') = false
  led : disk.follow path.base path.steps = .ok path.place
  directory : disk.node? path.place = some .directory

theorem Stands.follow (stands : disk.Stands path) :
    disk.follow path.base path.steps = .ok path.place := by
  rcases stands with empty | ⟨place, located, -⟩
  · rw [DiskPath.place, DiskPath.steps_of_size empty]
    rfl
  · rw [← eq_place_of_locate located]
    exact follow_of_locate located

/-- The empty path opens the directory that it sets out from. -/
theorem opens_of_stands (stands : disk.Stands path)
    (base : disk.node? path.base = some .directory) : disk.Opens path := by
  have led := stands.follow
  rcases stands with empty | ⟨place, located, directory⟩
  · have here : path.place = path.base := by
      rw [DiskPath.place, DiskPath.steps_of_size empty]
      rfl
    refine ⟨List.any_eq_false.2 fun part mem => ?_, led, here ▸ base⟩
    simp [DiskPath.eq_empty_of_size empty mem]
  · exact ⟨clean_of_locate located, led, eq_place_of_locate located ▸ directory⟩

/-- Idle parts at its end do not change what a path opens. -/
theorem Opens.of_trimmed (opens : disk.Opens path.trimmed) : disk.Opens path where
  clean := by
    obtain ⟨idle, parts, all⟩ := path.exists_idle
    have none : idle.any (·.toList.contains '\x00') = false := by
      refine List.any_eq_false.2 fun part mem => ?_
      have isIdle := all part mem
      simp only [DiskPath.isIdle, Bool.or_eq_true, beq_iff_eq] at isIdle
      rcases isIdle with rfl | rfl <;> decide
    rw [parts, List.any_append, opens.clean, none, Bool.or_false]
  led := by
    rw [← path.steps_trimmed, ← path.place_trimmed]
    exact opens.led
  directory := path.place_trimmed ▸ opens.directory

theorem Opens.clean_child (opens : disk.Opens path) (isName : IsName name) :
    (path.child name).parts.any (·.toList.contains '\x00') = false := by
  simp only [DiskPath.child, List.any_append, opens.clean, List.any_cons, isName.clean,
    List.any_nil, Bool.or_false]

/-- A name within the limits leads to its place in the directory. -/
theorem Opens.locate_child (opens : disk.Opens path) (isName : IsName name)
    (short : (Text.utf8 name).length ≤ longestName) (fits : (path.child name).size ≤ longestPath) :
    disk.locate (path.child name) = .ok (path.child name).place := by
  rw [locate, opens.clean_child isName, if_neg Bool.false_ne_true,
    if_neg (path.size_child_ne_zero isName), if_neg (Nat.not_lt.2 fits),
    path.steps_child isName.solid, path.place_child isName]
  change disk.follow path.base _ = _
  rw [follow_append opens.led, follow_cons opens.directory (.inr short), next,
    if_neg isName.onward]
  rfl

/-- A name beyond the limit leads nowhere. -/
theorem Opens.locate_child_of_long (opens : disk.Opens path) (isName : IsName name)
    (long : longestName < (Text.utf8 name).length) :
    disk.locate (path.child name) = .error .nameTooLong := by
  rw [locate, opens.clean_child isName, if_neg Bool.false_ne_true,
    if_neg (path.size_child_ne_zero isName)]
  split_ifs
  · rfl
  · rw [path.steps_child isName.solid]
    change disk.follow path.base _ = _
    rw [follow_append opens.led, follow, opens.directory]
    dsimp only
    rw [if_neg isName.onward, if_pos long]

end Disk

/-! ### Names of records -/

theorem exists_of_isKey {key : String} (valid : isKey key = true) :
    ∃ first rest, key.toList = first :: rest ∧ first ≠ '.' ∧ ∀ c ∈ first :: rest, isKeyChar c := by
  rw [isKey] at valid
  cases chars : key.toList with
  | nil => rw [chars] at valid; cases valid
  | cons first rest =>
      rw [chars] at valid
      obtain ⟨other, all⟩ := Bool.and_eq_true_iff.1 valid
      exact ⟨first, rest, rfl, by simpa using other, List.all_eq_true.1 all⟩

namespace FileStore

/-- The directory of the files as the replacement of a file makes it. -/
def home (files : FileStore) : DiskPath := files.directory.trimmed

/-- The path of the temporary file for a record. -/
def temporaryPath (files : FileStore) (key : String) : DiskPath :=
  files.home.child (DiskRun.temporaryName (fileName key))

theorem isName_of_long {name : String} (long : 2 < name.toList.length)
    (clean : '\x00' ∉ name.toList) : IsName name where
  solid := by
    rw [DiskPath.isIdle, Bool.or_eq_false_iff, beq_eq_false_iff_ne, beq_eq_false_iff_ne]
    constructor <;> rintro rfl <;> exact absurd long (by decide)
  onward := by
    rintro rfl
    exact absurd long (by decide)
  clean := by simpa using clean

theorem isName_fileName {key : String} (valid : isKey key = true) : IsName (fileName key) := by
  obtain ⟨first, rest, chars, -, all⟩ := exists_of_isKey valid
  refine isName_of_long ?_ ?_
  · simp [fileName]
  · rw [fileName, String.toList_append, List.mem_append, chars]
    rintro (inKey | inEnd)
    · exact absurd (all _ inKey) (by decide)
    · exact absurd inEnd (by decide)

theorem isName_temporaryName {key : String} (valid : isKey key = true) :
    IsName (DiskRun.temporaryName (fileName key)) := by
  have clean : '\x00' ∉ (fileName key).toList := by simpa using (isName_fileName valid).clean
  refine isName_of_long ?_ ?_
  · simp [DiskRun.temporaryName]
  · rw [DiskRun.temporaryName, String.toList_append, String.toList_append, List.mem_append,
      List.mem_append]
    rintro ((inLead | inName) | inEnd)
    · exact absurd inLead (by decide)
    · exact clean inName
    · exact absurd inEnd (by decide)

theorem fileName_injective {key other : String} (same : fileName key = fileName other) :
    key = other := by
  have chars := congrArg String.toList same
  rw [fileName, fileName, String.toList_append, String.toList_append] at chars
  exact String.toList_inj.1 (List.append_cancel_right chars)

/-- No record's file has the name of a temporary one. -/
theorem fileName_ne_temporaryName {key : String} (valid : isKey key = true) (name : String) :
    fileName key ≠ DiskRun.temporaryName name := by
  obtain ⟨first, rest, chars, other, -⟩ := exists_of_isKey valid
  intro same
  have heads := congrArg (·.toList.head?) same
  simp [fileName, DiskRun.temporaryName, chars] at heads
  exact other heads

/-! ### Places of records -/

variable {files : FileStore} {key other : String}

theorem place_path (files : FileStore) (valid : isKey key = true) :
    (files.path key).place = files.directory.place ++ [fileName key] :=
  files.directory.place_child (isName_fileName valid)

theorem place_temporaryPath (files : FileStore) (valid : isKey key = true) :
    (files.temporaryPath key).place =
      files.directory.place ++ [DiskRun.temporaryName (fileName key)] := by
  rw [temporaryPath, DiskPath.place_child _ (isName_temporaryName valid), home,
    DiskPath.place_trimmed]

theorem parent_path (files : FileStore) (valid : isKey key = true) :
    (files.path key).parent = files.home :=
  files.directory.parent_child (isName_fileName valid).solid

/-- Different records have different files. -/
theorem place_path_inj (valid : isKey key = true) (valid' : isKey other = true)
    (same : (files.path key).place = (files.path other).place) : key = other := by
  rw [place_path files valid, place_path files valid'] at same
  exact fileName_injective (List.singleton_inj.1 (List.append_cancel_left same))

/-- No record's file stands where a temporary one does. -/
theorem place_path_ne_temporaryPath (valid : isKey key = true) (valid' : isKey other = true) :
    (files.path key).place ≠ (files.temporaryPath other).place := by
  rw [place_path files valid, place_temporaryPath files valid']
  exact fun same => fileName_ne_temporaryName valid _
    (List.singleton_inj.1 (List.append_cancel_left same))

end FileStore

end MultiWallet
