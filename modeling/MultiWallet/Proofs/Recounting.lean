import Mathlib.Data.List.DropRight
import MultiWallet.Registry.Progress

/-!
The statistics of a network, counted anew from what was recorded of it. The tracker keeps only what
it needs to go on: a start sets some of it back, an end another part, and the rest stays until all
is given up. Looked at from the end of the history, each figure has a meaning of its own. It tells
of all that was recorded of the network since the tracker was last cleared, or of what came after
the last start, or after the last end. What was recorded of other networks does not enter.
-/

namespace MultiWallet

/-! ### Looking back on a row -/

namespace History

variable {α β : Type}

/-- What comes after the last item of a kind; the whole row, if there is none. -/
def sinceLast (isOne : α → Bool) (row : List α) : List α :=
  row.rtakeWhile fun item => !isOne item

/-- The last of what there is to be found in the items of a row. -/
def latest? (part? : α → Option β) (row : List α) : Option β := (row.filterMap part?).getLast?

/-- The largest of the numbers that are found in the items of a row, or zero. -/
def highest (part? : α → Option Nat) (row : List α) : Nat := (row.filterMap part?).max?.getD 0

variable {isOne : α → Bool} {row rest : List α} {item : α}

@[simp] theorem latest?_nil {part? : α → Option β} : latest? part? [] = none := rfl

@[simp] theorem sinceLast_concat : sinceLast isOne (row ++ [item]) =
    if isOne item then [] else sinceLast isOne row ++ [item] := by
  rw [sinceLast, List.rtakeWhile_concat]
  cases isOne item <;> rfl

theorem sinceLast_append (others : ∀ item ∈ rest, isOne item = false) :
    sinceLast isOne (row ++ rest) = sinceLast isOne row ++ rest := by
  have taken : ∀ item ∈ rest.reverse, (!isOne item) = true := fun item mem => by
    rw [others item (List.mem_reverse.1 mem), Bool.not_false]
  rw [sinceLast, List.rtakeWhile, List.reverse_append, List.takeWhile_append_of_pos taken,
    List.reverse_append, List.reverse_reverse]
  rfl

theorem exists_append_sinceLast (isOne : α → Bool) (row : List α) :
    ∃ earlier, row = earlier ++ sinceLast isOne row :=
  ⟨_, List.rdropWhile_append_rtakeWhile.symm⟩

theorem of_mem_sinceLast (mem : item ∈ sinceLast isOne row) : isOne item = false := by
  simpa using List.mem_rtakeWhile_imp mem

/-- To be found after the last item of a kind is to be followed by none of them. -/
theorem mem_sinceLast_iff : item ∈ sinceLast isOne row ↔
    ∃ earlier later, row = earlier ++ item :: later ∧
      ∀ other ∈ item :: later, isOne other = false := by
  constructor
  · intro mem
    obtain ⟨before, whole⟩ := exists_append_sinceLast isOne row
    obtain ⟨between, later, split⟩ := List.append_of_mem mem
    refine ⟨before ++ between, later, ?_, fun other isLater => ?_⟩
    · rw [List.append_assoc, ← split]
      exact whole
    · have isSince : other ∈ sinceLast isOne row := by
        rw [split]
        exact List.mem_append_right between isLater
      exact of_mem_sinceLast isSince
  · rintro ⟨earlier, later, rfl, others⟩
    rw [sinceLast_append others]
    exact List.mem_append_right _ List.mem_cons_self

@[simp] theorem latest?_concat {part? : α → Option β} :
    latest? part? (row ++ [item]) = (part? item).or (latest? part? row) := by
  rw [latest?, List.filterMap_append, List.getLast?_append, latest?]
  cases found : part? item <;> simp [found]

theorem isSome_latest?_iff {part? : α → Option β} :
    (latest? part? row).isSome ↔ ∃ item ∈ row, (part? item).isSome := by
  rw [latest?, List.getLast?_isSome, ne_eq, List.filterMap_eq_nil_iff]
  simp [Option.isSome_iff_ne_none]

@[simp] theorem highest_concat {part? : α → Option Nat} :
    highest part? (row ++ [item]) = max (highest part? row) ((part? item).getD 0) := by
  have asFold (row : List α) : highest part? row = (row.filterMap part?).foldl max 0 := by
    rw [List.foldl_max, Nat.zero_max, highest]
  rw [asFold, asFold, List.filterMap_append, List.foldl_append]
  cases found : part? item <;> simp [found]

end History

/-! ### What is recorded -/

/-- What is recorded of one network. -/
inductive SyncNote where
  | started (now : Instant)
  | reached (percent : Float) (timestamp : Option Instant)
  | sawBlock (height : Nat)
  | ended (error : Option String) (now : Instant)

namespace SyncNote

@[simp] def isStart : SyncNote → Bool
  | started _ => true
  | reached _ _ | sawBlock _ | ended _ _ => false

@[simp] def isReport : SyncNote → Bool
  | reached _ _ => true
  | started _ | sawBlock _ | ended _ _ => false

@[simp] def isEnd : SyncNote → Bool
  | ended _ _ => true
  | started _ | reached _ _ | sawBlock _ => false

@[simp] def isSuccess : SyncNote → Bool
  | ended error _ => error.isNone
  | started _ | reached _ _ | sawBlock _ => false

@[simp] def isFailure : SyncNote → Bool
  | ended error _ => error.isSome
  | started _ | reached _ _ | sawBlock _ => false

/-- When a sync started. -/
@[simp] def start? : SyncNote → Option Instant
  | started now => some now
  | reached _ _ | sawBlock _ | ended _ _ => none

/-- The percentage of a report, no less than nothing and no more than all. -/
@[simp] def reported? : SyncNote → Option Float
  | reached percent _ =>
    some (if percent < 0 then 0 else if 100 < percent then 100 else percent)
  | started _ | sawBlock _ | ended _ _ => none

/-- The percentage that is settled: a start leaves nothing, a success all. A failure and a block
settle none. -/
@[simp] def percent? : SyncNote → Option Float
  | started _ => some 0
  | reached percent timestamp => (reached percent timestamp).reported?
  | ended none _ => some 100
  | ended (some _) _ | sawBlock _ => none

/-- The time of a block that came with a report. -/
@[simp] def timestamp? : SyncNote → Option Instant
  | reached _ timestamp => timestamp
  | started _ | sawBlock _ | ended _ _ => none

@[simp] def height? : SyncNote → Option Nat
  | sawBlock height => some height
  | started _ | reached _ _ | ended _ _ => none

end SyncNote

/-- One call of the tracker: something is recorded of a network, or all is given up. -/
inductive SyncEntry where
  | noted (network : String) (note : SyncNote)
  | cleared

namespace SyncEntry

def isCleared : SyncEntry → Bool
  | noted _ _ => false
  | cleared => true

/-- What is recorded of a network. -/
def noteOn? (network : String) : SyncEntry → Option SyncNote
  | noted other note => if other = network then some note else none
  | cleared => none

end SyncEntry

/-- What was recorded of a network since the tracker was last cleared. -/
def notesOn (network : String) (entries : List SyncEntry) : List SyncNote :=
  (History.sinceLast SyncEntry.isCleared entries).filterMap (·.noteOn? network)

section

variable (network : String) (entries : List SyncEntry)

theorem notesOn_cleared : notesOn network (entries ++ [.cleared]) = [] := by
  rw [notesOn, History.sinceLast_concat]
  rfl

theorem notesOn_noted (other : String) (note : SyncNote) :
    notesOn network (entries ++ [.noted other note]) =
      notesOn network entries ++ if other = network then [note] else [] := by
  rw [notesOn, History.sinceLast_concat, notesOn]
  by_cases same : other = network <;> simp [SyncEntry.isCleared, SyncEntry.noteOn?, same]

end

/-! ### The tracker going on -/

namespace SyncProgress

/-- What the tracker does with an entry. -/
def after (progress : SyncProgress) : SyncEntry → SyncProgress
  | .noted network (.started now) => (progress.recordStart network now).1
  | .noted network (.reached percent timestamp) =>
    (progress.recordReport network percent timestamp).1
  | .noted network (.sawBlock height) => progress.recordBlock network height
  | .noted network (.ended error now) => (progress.recordEnd network error now).1
  | .cleared => .empty

/-- The tracker after some entries, beginning with a new one. -/
def ofEntries (entries : List SyncEntry) : SyncProgress := entries.foldl after .empty

theorem ofEntries_concat (entries : List SyncEntry) (entry : SyncEntry) :
    ofEntries (entries ++ [entry]) = (ofEntries entries).after entry :=
  List.foldl_concat ..

end SyncProgress

namespace NetworkProgress

open History

/-- The progress of a network after one more note. -/
def after (progress : NetworkProgress) : SyncNote → NetworkProgress
  | .started now => progress.start now
  | .reached percent timestamp => (progress.report percent timestamp).2
  | .sawBlock height => progress.see height
  | .ended error _ => { progress.conclude error with startedAt := none }

/-- The percentage that is logged last, if one is reported: it stays unless it is ten behind. -/
def logged (last percent : Float) : Float := if 10 ≤ percent - last then percent else last

theorem report_snd (progress : NetworkProgress) (percent : Float) (timestamp : Option Instant) :
    (progress.report percent timestamp).2 =
      { progress with
        percent := clampPercent percent
        updates := progress.updates + 1
        lastBlock := timestamp.or progress.lastBlock
        loggedPercent := logged progress.loggedPercent (clampPercent percent) } := by
  simp only [report, logged, decide_eq_true_eq]

/-- The progress of a network, counted from all that was recorded of it: the start of the sync that
did not end, the percentage that was settled last, the time that was reported last, the highest
block, the reports since the last start or else all, the successes, the failures, and the percentage
that was logged last since that start. -/
def ofNotes (notes : List SyncNote) : NetworkProgress where
  startedAt := latest? SyncNote.start? (sinceLast SyncNote.isEnd notes)
  percent := (latest? SyncNote.percent? notes).getD 0
  lastBlock := latest? SyncNote.timestamp? notes
  highestBlock := highest SyncNote.height? notes
  updates := (sinceLast SyncNote.isStart notes).countP SyncNote.isReport
  completed := notes.countP SyncNote.isSuccess
  failed := notes.countP SyncNote.isFailure
  loggedPercent :=
    ((sinceLast SyncNote.isStart notes).filterMap SyncNote.reported?).foldl logged 0

/-- To count with one more note is to go on from what was counted without it. -/
theorem ofNotes_concat (notes : List SyncNote) (note : SyncNote) :
    ofNotes (notes ++ [note]) = (ofNotes notes).after note := by
  cases note with
  | started now => simp [ofNotes, after, start]
  | reached percent timestamp => simp [ofNotes, after, report_snd, clampPercent]
  | sawBlock height => simp [ofNotes, after, see, List.filterMap_cons]
  | ended error now =>
      cases error with
      | none => simp [ofNotes, after, conclude, List.filterMap_cons]
      | some error => simp [ofNotes, after, conclude, List.filterMap_cons]

/-- A network of which nothing was recorded counts like a fresh one. -/
theorem getD_ofNotes (notes : List SyncNote) :
    (if notes = [] then none else some (ofNotes notes)).getD .fresh = ofNotes notes := by
  cases notes <;> rfl

end NetworkProgress

namespace SyncProgress

theorem after_noted (progress : SyncProgress) (network : String) (note : SyncNote) :
    progress.after (.noted network note) =
      progress.set network ((progress.get network).after note) := by
  cases note <;> rfl

/-- What the tracker has of a network after some entries. -/
theorem get?_ofEntries (entries : List SyncEntry) (network : String) :
    (ofEntries entries).get? network =
      if notesOn network entries = [] then none else some (.ofNotes (notesOn network entries)) := by
  induction entries using List.reverseRecOn with
  | nil => rfl
  | append_singleton entries entry ih =>
      rw [ofEntries_concat]
      cases entry with
      | cleared =>
          rw [notesOn_cleared, if_pos rfl]
          rfl
      | noted other note =>
          rw [after_noted, get?_set, notesOn_noted]
          split
          · rename_i same
            rw [same, get, ih, NetworkProgress.getD_ofNotes, ← NetworkProgress.ofNotes_concat,
              if_neg (by simp)]
          · rw [List.append_nil]
            exact ih

theorem isSyncing_eq (progress : SyncProgress) (network : String) :
    progress.isSyncing network = (progress.get network).startedAt.isSome := by
  rw [isSyncing, get]
  cases progress.get? network <;> rfl

/-- A sync is running if one started that did not end. -/
theorem isSyncing_ofEntries_iff (entries : List SyncEntry) (network : String) :
    (ofEntries entries).isSyncing network ↔ ∃ earlier now later,
      notesOn network entries = earlier ++ .started now :: later ∧
        ∀ note ∈ later, note.isEnd = false := by
  rw [isSyncing_eq, get, get?_ofEntries, NetworkProgress.getD_ofNotes, NetworkProgress.ofNotes,
    History.isSome_latest?_iff]
  constructor
  · rintro ⟨note, mem, isStart⟩
    obtain ⟨earlier, later, split, others⟩ := History.mem_sinceLast_iff.1 mem
    cases note with
    | started now => exact ⟨earlier, now, later, split, (List.forall_mem_cons.1 others).2⟩
    | reached | sawBlock | ended => cases isStart
  · rintro ⟨earlier, now, later, split, others⟩
    refine ⟨.started now, History.mem_sinceLast_iff.2 ⟨earlier, later, split, ?_⟩, rfl⟩
    exact List.forall_mem_cons.2 ⟨rfl, others⟩

end SyncProgress

/-- The statistics of a network after any entries: there are some exactly if something was recorded
of it since the tracker was last cleared, and they are counted from that alone. A sync is running
exactly if a start was recorded that no end came after. -/
theorem statistics_recounted (entries : List SyncEntry) (network : String) :
    let progress := SyncProgress.ofEntries entries
    let notes := notesOn network entries
    progress.get? network = (if notes = [] then none else some (.ofNotes notes)) ∧
      (progress.isSyncing network ↔ ∃ earlier now later,
        notes = earlier ++ .started now :: later ∧ ∀ note ∈ later, note.isEnd = false) :=
  ⟨SyncProgress.get?_ofEntries entries network,
    SyncProgress.isSyncing_ofEntries_iff entries network⟩

-- A report counts without a start; what was cleared and what concerns others does not.
example :
    let entries : List SyncEntry :=
      [.noted "bitcoin-mainnet" (.sawBlock 600000), .cleared,
        .noted "bitcoin-mainnet" (.reached 150 none), .noted "ethereum-mainnet" (.started .epoch),
        .noted "bitcoin-mainnet" (.ended (some "timeout") .epoch)]
    ((SyncProgress.ofEntries entries).get? "bitcoin-mainnet").map (fun bitcoin =>
      (bitcoin.percent, bitcoin.highestBlock, bitcoin.updates, bitcoin.failed)) =
      some (100, 0, 1, 1) := by
  decide +kernel

end MultiWallet
