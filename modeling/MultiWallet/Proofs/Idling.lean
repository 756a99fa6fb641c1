import MultiWallet.Proofs.Agreement

/-!
Operations of a collection that come to nothing, on any store and in any state of it. One
that fails, or finds nothing to do, leaves the collection as it is in all respects, even
where the store has changed meanwhile. And a look at the store comes to nothing in all
cases but one: it answers with a living record of an index that is newer than the baseline.
-/

namespace MultiWallet.AssetCollection

/-- What an operation of a collection answers. -/
inductive Reply where
  /-- The edit makes no sense. -/
  | refused (error : AssetError)
  /-- The store fails, or what it answers is no index. -/
  | failed (fault : ReplicaError)
  | saved (written : Bool)
  | synced (outcome : SyncOutcome)
  | done
deriving DecidableEq

namespace Reply

variable {α : Type}

/-- What an edit answers. -/
def ofEdit : Except AssetError α → Reply
  | .ok _ => .done
  | .error error => .refused error

/-- What an operation on the store answers. -/
def ofStore (reply : α → Reply) : Except ReplicaError α → Reply
  | .ok answer => reply answer
  | .error fault => .failed fault

/-- Whether an operation failed or had nothing to do. -/
def isIdle : Reply → Bool
  | .refused _ | .failed _ | .saved false | .synced .unchanged => true
  | _ => false

end Reply

/-- What a collection answers to an edit. -/
def editReply (collection : AssetCollection) : Edit → Reply
  | .add uid => .ofEdit (collection.add uid).1
  | .remove uid => .ofEdit (collection.remove uid).1
  | .removeAt index => .ofEdit (collection.removeAt index).1
  | .move source target => .ofEdit (collection.move source target).1
  | .resetToStandard => .done
  | .revert => .done

variable {σ : Type}

/-- What a collection answers to what happens. -/
def reply (store : Store σ) (kept : AssetCollection × σ) : Act σ → Reply
  | .edit edit => kept.1.editReply edit
  | .save => .ofStore .saved (kept.1.save store kept.2).1
  | .sync => .ofStore .synced (kept.1.reconcile store kept.2).1
  | .heed notice => .ofStore .synced (kept.1.heed store notice kept.2).1
  | .drift _ => .done

variable {store later : Store σ} {collection : AssetCollection} {s s' : σ}

/-! ### Looking at the store -/

/-- Whether a record that is read takes the place of the baseline: it was not deleted, it holds
an index, and it is newer. -/
structure Supersedes (raw : RawRecord) (collection : AssetCollection) : Prop where
  alive : raw.deleted = false
  decodes : ∃ index : AssetIndex, Persisted.decode? raw.value = some index
  newer : collection.baseline.version < raw.version

theorem load_fst (store : Store σ) (s : σ) : (store.load (α := AssetIndex) s).1 =
    (store.get (Persisted.key AssetIndex) s).1.bind Record.present := by
  rw [Store.load]
  rcases store.get (Persisted.key AssetIndex) s with ⟨fault | raw, after⟩ <;> rfl

/-- There is a newer index exactly if there is a record that supersedes the baseline. -/
theorem exists_newer_iff :
    (∃ record, (store.load (α := AssetIndex) s).1 = .ok (some record) ∧
        collection.baseline.version < record.version) ↔
      ∃ raw, (store.get (Persisted.key AssetIndex) s).1 = .ok (some raw) ∧
        Supersedes raw collection := by
  simp only [Store.load_eq_some_iff, Store.found?_eq_some_iff, Record.decoded_eq_ok_iff]
  constructor
  · rintro ⟨_, ⟨raw, read, alive, index, decodes, rfl⟩, newer⟩
    exact ⟨raw, read, alive, ⟨index, decodes⟩, newer⟩
  · rintro ⟨raw, read, alive, ⟨index, decodes⟩, newer⟩
    exact ⟨raw.withValue index, ⟨raw, read, alive, index, decodes, rfl⟩, newer⟩

/-- All that a look at the store comes to depends on what is read. -/
theorem reconcile_of_load (store : Store σ) (collection : AssetCollection) (s : σ) :
    (collection.reconcile store s).1 =
        (store.load s).1.map (fun remote => (collection.adopt remote).1) ∧
      (collection.reconcile store s).2.1 =
        ((store.load s).1.map (fun remote => (collection.adopt remote).2)).toOption.getD
          collection := by
  rw [reconcile]
  rcases store.load (α := AssetIndex) s with ⟨fault | remote, after⟩ <;> exact ⟨rfl, rfl⟩

theorem adopt_cases (collection : AssetCollection) (remote : Option (Record AssetIndex)) :
    (collection.adopt remote = (.unchanged, collection) ∧
        ∀ record, remote = some record → record.version ≤ collection.baseline.version) ∨
      ∃ record, remote = some record ∧ collection.baseline.version < record.version ∧
        collection.adopt remote =
          (.replaced collection.hasUnsavedChanges, collection.adopted record) := by
  rcases remote with _ | record
  · exact .inl ⟨rfl, fun _ found => nomatch found⟩
  · rcases Nat.lt_or_ge collection.baseline.version record.version with newer | older
    · refine .inr ⟨record, rfl, newer, ?_⟩
      rw [adopt, if_neg (Nat.not_le.2 newer)]
      rfl
    · refine .inl ⟨if_pos older, ?_⟩
      rintro _ ⟨⟩
      exact older

theorem adopt_eq_replaced_iff {remote : Option (Record AssetIndex)} {discarded : Bool} :
    (collection.adopt remote).1 = .replaced discarded ↔
      (∃ record, remote = some record ∧ collection.baseline.version < record.version) ∧
        discarded = collection.hasUnsavedChanges := by
  rcases collection.adopt_cases remote with ⟨same, older⟩ | ⟨record, rfl, newer, replaced⟩
  · rw [same]
    refine ⟨nofun, ?_⟩
    rintro ⟨⟨record, found, newer⟩, -⟩
    exact absurd (older record found) (Nat.not_le.2 newer)
  · rw [replaced]
    constructor
    · rintro ⟨⟩
      exact ⟨⟨record, rfl, newer⟩, rfl⟩
    · rintro ⟨-, rfl⟩
      rfl

/-- What was taken over is not newer than itself. -/
theorem adopt_again (collection : AssetCollection) (remote : Option (Record AssetIndex)) :
    ((collection.adopt remote).2.adopt remote).1 = .unchanged := by
  rcases collection.adopt_cases remote with ⟨same, -⟩ | ⟨record, rfl, -, replaced⟩
  · rw [same, same]
  · rw [replaced, adopt, if_pos]
    exact Nat.le_refl record.version

theorem reconcile_eq_replaced_iff {discarded : Bool} :
    (collection.reconcile store s).1 = .ok (.replaced discarded) ↔
      (∃ raw, (store.get (Persisted.key AssetIndex) s).1 = .ok (some raw) ∧
          Supersedes raw collection) ∧
        discarded = collection.hasUnsavedChanges := by
  rw [(reconcile_of_load store collection s).1, ← exists_newer_iff]
  cases read : (store.load (α := AssetIndex) s).1 with
  | error fault => simp [Except.map]
  | ok remote => simp [Except.map, adopt_eq_replaced_iff]

/-- A look that is answered as the one before finds nothing new. -/
theorem reconcile_again {outcome : SyncOutcome}
    (looked : (collection.reconcile store s).1 = .ok outcome)
    (same : (later.get (Persisted.key AssetIndex) s').1 =
      (store.get (Persisted.key AssetIndex) s).1) :
    ((collection.reconcile store s).2.1.reconcile later s').1 = .ok .unchanged := by
  have read : (later.load (α := AssetIndex) s').1 = (store.load (α := AssetIndex) s).1 := by
    rw [load_fst, load_fst, same]
  rw [(reconcile_of_load store collection s).1] at looked
  rw [(reconcile_of_load later _ s').1, (reconcile_of_load store collection s).2, read]
  cases answered : (store.load (α := AssetIndex) s).1 with
  | error fault =>
      rw [answered] at looked
      cases looked
  | ok remote => exact congrArg Except.ok (collection.adopt_again remote)

/-! ### Operations that come to nothing -/

theorem Edited.of_idle {α : Type} {turn : Except AssetError α × AssetCollection}
    (edited : Edited collection turn) (idle : (Reply.ofEdit turn.1).isIdle = true) :
    turn.2 = collection := by
  cases answered : turn.1 with
  | error fault => exact edited.of_error answered
  | ok answer =>
      rw [answered] at idle
      cases idle

theorem edit_of_idle {edit : Edit} (idle : (collection.editReply edit).isIdle = true) :
    collection.edit edit = collection := by
  cases edit with
  | add uid => exact (collection.edited_add uid).of_idle idle
  | remove uid => exact (collection.edited_remove uid).of_idle idle
  | removeAt index => exact (collection.edited_removeAt index).of_idle idle
  | move source target => exact (collection.edited_move source target).of_idle idle
  | resetToStandard => cases idle
  | revert => cases idle

theorem save_of_idle (idle : (Reply.ofStore .saved (collection.save store s).1).isIdle = true) :
    (collection.save store s).2.1 = collection := by
  rw [save] at idle ⊢
  split_ifs at idle ⊢
  · rcases written : store.save (AssetIndex.ofIds collection.enabledIds)
      collection.baseline.version s with ⟨fault | record, after⟩
    · rfl
    · rw [written] at idle
      cases idle
  · rfl

theorem reconcile_of_idle
    (idle : (Reply.ofStore .synced (collection.reconcile store s).1).isIdle = true) :
    (collection.reconcile store s).2.1 = collection := by
  obtain ⟨answered, left⟩ := reconcile_of_load store collection s
  rw [answered] at idle
  rw [left]
  cases read : (store.load (α := AssetIndex) s).1 with
  | error fault => rfl
  | ok remote =>
      rw [read] at idle
      rcases collection.adopt_cases remote with ⟨same, -⟩ | ⟨record, -, -, replaced⟩
      · exact congrArg Prod.snd same
      · rw [Except.map, replaced] at idle
        cases idle

theorem after_of_idle {kept : AssetCollection × σ} {act : Act σ}
    (idle : (reply store kept act).isIdle = true) : (after store kept act).1 = kept.1 := by
  cases act with
  | edit edit => exact edit_of_idle idle
  | save => exact save_of_idle idle
  | sync => exact reconcile_of_idle idle
  | heed notice =>
      simp only [reply, heed] at idle
      simp only [after, heed]
      split_ifs at idle ⊢
      · exact reconcile_of_idle idle
      · rfl
  | drift state => cases idle

/-- However many operations come to nothing, and whatever becomes of the store between them,
the collection is as it was before them. -/
theorem run_of_idle {kept : AssetCollection × σ} {acts : List (Act σ)}
    (idle : ∀ earlier act later, acts = earlier ++ act :: later →
      (∃ state, act = .drift state) ∨
        (reply store (run store kept earlier) act).isIdle = true) :
    (run store kept acts).1 = kept.1 := by
  induction acts generalizing kept with
  | nil => rfl
  | cons act rest ih =>
      have first : (after store kept act).1 = kept.1 := by
        rcases idle [] act rest rfl with ⟨state, rfl⟩ | comesToNothing
        · rfl
        · exact after_of_idle comesToNothing
      refine (ih fun earlier other later split => ?_).trans first
      exact idle (act :: earlier) other later (congrArg (act :: ·) split)

theorem save_of_saved (saved : collection.hasUnsavedChanges = false) :
    collection.save store s = (.ok false, collection, s) := by
  rw [save, saved, if_neg Bool.false_ne_true]

theorem save_eq_false_iff :
    (collection.save store s).1 = .ok false ↔ collection.hasUnsavedChanges = false := by
  refine ⟨fun answered => ?_, fun saved => by rw [save_of_saved saved]⟩
  by_contra unsaved
  rw [save, if_pos (Bool.not_eq_false _ ▸ unsaved)] at answered
  rcases written : store.save (AssetIndex.ofIds collection.enabledIds)
    collection.baseline.version s with ⟨fault | record, after⟩ <;>
    rw [written] at answered <;> cases answered

/-- A save fails if the store writes the index and answers with something else. -/
theorem save_of_undecodable {raw : RawRecord} (unsaved : collection.hasUnsavedChanges = true)
    (written : store.set (Persisted.key AssetIndex)
      (Persisted.encode (AssetIndex.ofIds collection.enabledIds)) collection.baseline.version s =
        (.ok raw, s'))
    (other : Persisted.decode? (α := AssetIndex) raw.value = none) :
    collection.save store s = (.error .serialization, collection, s') := by
  rw [save, if_pos unsaved, Store.save, written]
  dsimp only
  rw [Record.decoded, other]

theorem heed_eq_replaced_iff {notice : Notice} {discarded : Bool} :
    (collection.heed store notice s).1 = .ok (.replaced discarded) ↔
      notice.touches (Persisted.key AssetIndex) = true ∧
        (collection.reconcile store s).1 = .ok (.replaced discarded) := by
  rw [heed]
  split_ifs with touches
  · simp [touches]
  · simp [touches]

/-- An operation that fails or has nothing to do leaves a collection as it is: what is enabled,
whether anything is unsaved, the baseline, and what was announced; and so do any number of them
in a row, whatever becomes of the store between them. Saving has nothing to do
exactly if nothing is unsaved, and then it leaves the store alone; it fails if the store
accepts the write but what it answers is no index. A look at the store replaces the index
exactly if a record supersedes the baseline, and tells whether edits were lost; a look that is
answered as the one before it finds nothing new. -/
theorem nothing_done_by_halves (store : Store σ) (collection : AssetCollection) (s : σ) :
    (∀ act, (reply store (collection, s) act).isIdle = true →
        (after store (collection, s) act).1 = collection) ∧
      (∀ acts, (∀ earlier act later, acts = earlier ++ act :: later →
          (∃ state, act = .drift state) ∨
            (reply store (run store (collection, s) earlier) act).isIdle = true) →
        (run store (collection, s) acts).1 = collection) ∧
      ((collection.save store s).1 = .ok false ↔ collection.hasUnsavedChanges = false) ∧
      ((collection.save store s).1 = .ok false → (collection.save store s).2.2 = s) ∧
      (∀ raw written, collection.hasUnsavedChanges = true →
        store.set (Persisted.key AssetIndex)
          (Persisted.encode (AssetIndex.ofIds collection.enabledIds)) collection.baseline.version
          s = (.ok raw, written) →
        Persisted.decode? (α := AssetIndex) raw.value = none →
          collection.save store s = (.error .serialization, collection, written)) ∧
      (∀ discarded, (collection.reconcile store s).1 = .ok (.replaced discarded) ↔
        (∃ raw, (store.get (Persisted.key AssetIndex) s).1 = .ok (some raw) ∧
            Supersedes raw collection) ∧
          discarded = collection.hasUnsavedChanges) ∧
      (∀ notice discarded, (collection.heed store notice s).1 = .ok (.replaced discarded) ↔
        notice.touches (Persisted.key AssetIndex) = true ∧
          (∃ raw, (store.get (Persisted.key AssetIndex) s).1 = .ok (some raw) ∧
            Supersedes raw collection) ∧
          discarded = collection.hasUnsavedChanges) ∧
      ∀ (later : Store σ) (s' : σ) (outcome : SyncOutcome),
        (collection.reconcile store s).1 = .ok outcome →
        (later.get (Persisted.key AssetIndex) s').1 = (store.get (Persisted.key AssetIndex) s).1 →
          ((collection.reconcile store s).2.1.reconcile later s').1 = .ok .unchanged := by
  refine ⟨fun act idle => after_of_idle idle, fun acts idle => run_of_idle idle,
    save_eq_false_iff, fun idle => ?_,
    fun raw written unsaved accepted other => save_of_undecodable unsaved accepted other,
    fun discarded => reconcile_eq_replaced_iff, fun notice discarded => ?_,
    fun later s' outcome looked same => reconcile_again looked same⟩
  · rw [save_of_saved (save_eq_false_iff.1 idle)]
  · rw [heed_eq_replaced_iff, reconcile_eq_replaced_iff]

end MultiWallet.AssetCollection
