import MultiWallet.Proofs.Baseline
import MultiWallet.Proofs.Rewriting
import MultiWallet.Proofs.TypedRecords

/-!
What stores in memory and in files have in common: a record that was written is read
from then on. Of files this holds whenever they let themselves be read, which need not
be so from the start, as a file that cannot be read is replaced.
-/

namespace MultiWallet

theorem Record.decoded_eq_ok_iff {α : Type} [Persisted α] {raw : RawRecord} {record : Record α} :
    raw.decoded = .ok record ↔
      ∃ value, Persisted.decode? raw.value = some value ∧ record = raw.withValue value := by
  rw [Record.decoded]
  cases Persisted.decode? (α := α) raw.value <;> simp [eq_comm]

namespace Store

variable {σ : Type} {store : Store σ}

variable {α : Type} [Persisted α] {Counts : Nat → Prop} {Shows : σ → σ → Prop}

/-- To read an object is to read its bytes. -/
theorem load_snd (store : Store σ) (α : Type) [Persisted α] (s : σ) :
    (store.load (α := α) s).2 = (store.get (Persisted.key α) s).2 := by
  rw [load]
  rcases store.get (Persisted.key α) s with ⟨fault | raw, after⟩ <;> rfl

theorem load_eq_some_iff {s : σ} {record : Record α} :
    (store.load s).1 = .ok (some record) ↔ store.found? α s = some record := by
  rw [found?]
  rcases (store.load (α := α) s).1 with fault | _ | found <;> simp [Except.toOption]

/-- An object is found by its bytes. -/
theorem found?_eq_some_iff {s : σ} {record : Record α} : store.found? α s = some record ↔
    ∃ raw, (store.get (Persisted.key α) s).1 = .ok (some raw) ∧ raw.deleted = false ∧
      raw.decoded = .ok record := by
  rw [found?, load]
  rcases store.get (Persisted.key α) s with ⟨fault | _ | raw, after⟩
  · simp [Except.toOption]
  · simp [Record.present, Except.toOption]
  · cases deleted : raw.deleted with
    | true => simp [Record.present, deleted, Except.toOption]
    | false =>
        cases decoded : raw.decoded (α := α) <;>
          simp [Record.present, deleted, decoded, Except.toOption, Except.map]

/-- How a store keeps the objects of a type. Reading leaves it alone, a write is answered
with a record of what was written, and every state that shows what the store holds lets it
be read, if its version counts. -/
structure Retains (store : Store σ) (α : Type) [Persisted α] (Counts : Nat → Prop)
    (Shows : σ → σ → Prop) : Prop where
  still : ∀ key s, (store.get key s).2 = s
  lasts : ∀ {s later : σ} {record : Record α}, Shows s later →
    store.found? α s = some record → store.found? α later = some record
  answers : ∀ {value : α} {version : Nat} {s after : σ} {record : Record α},
    store.save value version s = (.ok record, after) → record.value = value
  returns : ∀ {value : α} {version : Nat} {s after later : σ} {record : Record α},
    store.save value version s = (.ok record, after) → Counts record.version →
      Shows after later → store.found? α later = some record

/-- Whether objects of a type can be saved in a state, again and again. -/
def Saves (store : Store σ) (α : Type) [Persisted α] (Ready : σ → Prop) : Prop :=
  ∀ (value : α) (version : Nat) (s : σ), Ready s →
    ∃ record after, store.save value version s = (.ok record, after) ∧ Ready after

theorem save_ok {value : α} {version : Nat} {s after : σ} {record : Record α}
    (saved : store.save value version s = (.ok record, after)) : ∃ raw,
      store.set (Persisted.key α) (Persisted.encode value) version s = (.ok raw, after) ∧
        raw.decoded = .ok record := by
  rw [save] at saved
  rcases written : store.set (Persisted.key α) (Persisted.encode value) version s with
    ⟨fault | raw, next⟩
  · rw [written] at saved
    cases saved
  · rw [written] at saved
    obtain ⟨decoded, rfl⟩ := Prod.mk.inj saved
    exact ⟨raw, rfl, decoded⟩

/-- A store keeps objects if it keeps bytes, and the bytes of an object are read back. -/
theorem retains_of_get
    (decodes : ∀ value : α, Persisted.decode? (Persisted.encode value) = some value)
    (still : ∀ key s, (store.get key s).2 = s)
    (lasts : ∀ {s later : σ} {raw : RawRecord}, Shows s later →
      (store.get (Persisted.key α) s).1 = .ok (some raw) →
        (store.get (Persisted.key α) later).1 = .ok (some raw))
    (answers : ∀ {value : Bytes} {version : Nat} {s after : σ} {raw : RawRecord},
      store.set (Persisted.key α) value version s = (.ok raw, after) →
        raw.value = value ∧ raw.deleted = false)
    (returns : ∀ {value : Bytes} {version : Nat} {s after later : σ} {raw : RawRecord},
      store.set (Persisted.key α) value version s = (.ok raw, after) → Counts raw.version →
        Shows after later → (store.get (Persisted.key α) later).1 = .ok (some raw)) :
    store.Retains α Counts Shows := by
  constructor
  case still => exact still
  case lasts =>
    intro s later record shows found
    obtain ⟨raw, read, rest⟩ := found?_eq_some_iff.1 found
    exact found?_eq_some_iff.2 ⟨raw, lasts shows read, rest⟩
  case answers =>
    intro value version s after record saved
    obtain ⟨raw, written, holds⟩ := save_ok saved
    rw [Record.decoded_eq (decodes value) (answers written).1] at holds
    cases holds
    rfl
  case returns =>
    intro value version s after later record saved counts shows
    obtain ⟨raw, written, holds⟩ := save_ok saved
    obtain ⟨bytes, live⟩ := answers written
    have counts : Counts raw.version := by
      rw [Record.decoded_eq (decodes value) bytes] at holds
      cases holds
      exact counts
    exact found?_eq_some_iff.2 ⟨raw, returns written counts shows, live, holds⟩

/-- Objects can be saved if bytes can be written. -/
theorem saves_of_set {Ready : σ → Prop}
    (decodes : ∀ value : α, Persisted.decode? (Persisted.encode value) = some value)
    (writes : ∀ (value : Bytes) (version : Nat) (s : σ), Ready s → ∃ raw after,
      store.set (Persisted.key α) value version s = (.ok raw, after) ∧ raw.value = value ∧
        Ready after) : store.Saves α Ready := by
  intro value version s ready
  obtain ⟨raw, after, written, bytes, ready⟩ := writes (Persisted.encode value) version s ready
  have decoded := Record.decoded_eq (decodes value) bytes
  exact ⟨raw.withValue value, after, by rw [save, written, ← decoded], ready⟩

end Store

/-- What a write that succeeds answers is what is read afterwards. -/
theorem Memory.set_ok {memory after : Memory} {key : String} {value : Bytes} {version : Nat}
    {raw : RawRecord} (done : memory.set key value version = (.ok raw, after)) :
    raw.value = value ∧ raw.deleted = false ∧ after.get key = .ok (some raw) := by
  rw [Memory.set] at done
  split_ifs at done with valid
  · cases done
    refine ⟨rfl, rfl, ?_⟩
    rw [Memory.get, if_pos valid, Std.ExtTreeMap.getElem?_insert_self]
  · cases done

section

variable {α : Type} [Persisted α] (valid : isKey (Persisted.key α) = true)
  (decodes : ∀ value : α, Persisted.decode? (Persisted.encode value) = some value)

include decodes

/-- Memory keeps whatever it is given, as long as it is left alone. -/
theorem Memory.retains : Memory.store.Retains α (fun _ => True) fun s later => later = s := by
  refine Store.retains_of_get decodes (fun _ _ => rfl) ?_ (fun done => ?_) ?_
  · rintro s later raw rfl found
    exact found
  · exact ⟨(Memory.set_ok done).1, (Memory.set_ok done).2.1⟩
  · rintro value version s after later raw done - rfl
    exact (Memory.set_ok done).2.2

include valid in
theorem Memory.saves : Memory.store.Saves α fun _ => True :=
  Store.saves_of_set decodes fun _ _ _ _ => ⟨_, _, if_pos valid, rfl, trivial⟩

/-- Files keep what was written to them on every disk that holds them and lets them be read. -/
theorem FileStore.retains (files : FileStore) :
    files.store.Retains α (· < UInt64.size) (files.Shows (Persisted.key α)) := by
  refine Store.retains_of_get decodes (fun _ _ => rfl) (fun shows found => shows.get found)
    (fun done => ?_) fun done fits shows => shows.get_of_set done fits
  obtain ⟨-, answer, -⟩ := FileStore.set_ok done
  rw [answer]
  exact ⟨rfl, rfl⟩

include valid in
/-- What was written to a disk can be replaced again, and the disk refuses what it refused. -/
theorem FileStore.saves (files : FileStore) (refuses : DiskStep → Bool) :
    files.store.Saves α fun disk =>
      disk.Takes (files.path (Persisted.key α)) ∧ disk.refuses = refuses := by
  refine Store.saves_of_set decodes fun value version disk ⟨takes, same⟩ => ?_
  obtain ⟨raw, after, done, takes, kept⟩ := exists_set takes valid value version
  obtain ⟨-, answer, -⟩ := FileStore.set_ok done
  exact ⟨raw, after, done, by rw [answer], takes, kept.trans same⟩

end

end MultiWallet
