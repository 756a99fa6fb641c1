import MultiWallet.Proofs.Refreshing

/-!
How a refresh decides, whatever becomes of the file, the device and the source. A file that is
fresh and holds a catalog settles the matter. Otherwise the source is asked until it answers
with something other than a passing error, or for as long as there is time; then a listing is
taken into what the file holds by now, and without one the file counts, or the shipped catalog.
-/

namespace MultiWallet

/-! ### Asking a source -/

theorem CatalogError.isTransient_iff {fault : CatalogError} : fault.isTransient = true ↔
    fault = .http ∨ ∃ code, fault = .status code ∧ (code = 429 ∨ 500 ≤ code) := by
  cases fault <;> simp [isTransient, or_comm]

namespace CatalogSource

variable {σ : Type} {source : CatalogSource σ} {retries times n : Nat} {s : σ}

/-- The state of a source that was asked some times. -/
def after (source : CatalogSource σ) : Nat → σ → σ
  | 0, s => s
  | times + 1, s => source.after times (source.fetch s).2

/-- What a source answers that was asked some times before. -/
def answer (source : CatalogSource σ) (times : Nat) (s : σ) :
    Except CatalogError (List CatalogEntry) :=
  (source.fetch (source.after times s)).1

/-- Whether a source is asked just so many times again: it answered with a passing error each
time before the last, and the last answer is one only if no more repetitions are allowed. -/
structure Repeats (source : CatalogSource σ) (retries times : Nat) (s : σ) : Prop where
  within : times ≤ retries
  passing : ∀ earlier < times, ∃ fault, source.answer earlier s = .error fault ∧
    fault.isTransient = true
  settled : ∀ fault, source.answer times s = .error fault → fault.isTransient = true →
    times = retries

theorem Repeats.succ {fault : CatalogError} (first : source.answer 0 s = .error fault)
    (isTransient : fault.isTransient = true)
    (repeats : source.Repeats retries times (source.fetch s).2) :
    source.Repeats (retries + 1) (times + 1) s where
  within := Nat.succ_le_succ repeats.within
  passing
    | 0, _ => ⟨fault, first, isTransient⟩
    | earlier + 1, before => repeats.passing earlier (Nat.lt_of_succ_lt_succ before)
  settled fault last passes := congrArg (· + 1) (repeats.settled fault last passes)

theorem repeats_zero
    (settled : ∀ fault, source.answer 0 s = .error fault → fault.isTransient = true → retries = 0) :
    source.Repeats retries 0 s :=
  ⟨Nat.zero_le _, nofun, fun fault last passes => (settled fault last passes).symm⟩

/-- Asking with patience ends with the answer after the repetitions that there are. -/
theorem fetchPatiently_spec (source : CatalogSource σ) (retries : Nat) (s : σ) :
    ∃ times, source.Repeats retries times s ∧
      source.fetchPatiently retries s = (source.answer times s, source.after (times + 1) s) := by
  induction retries generalizing s with
  | zero => exact ⟨0, repeats_zero fun _ _ _ => rfl, rfl⟩
  | succ retries ih =>
      obtain ⟨times, repeats, later⟩ := ih (source.fetch s).2
      rw [fetchPatiently]
      rcases asked : source.fetch s with ⟨fault | listed, next⟩
      · have first : source.answer 0 s = .error fault := congrArg Prod.fst asked
        have further : (source.fetch s).2 = next := congrArg Prod.snd asked
        dsimp only
        split_ifs with passes
        · exact ⟨times + 1, repeats.succ first passes, further ▸ later⟩
        · refine ⟨0, repeats_zero fun other last passes' => ?_, Prod.ext first.symm further.symm⟩
          cases first.symm.trans last
          exact absurd passes' passes
      · have first : source.answer 0 s = .ok listed := congrArg Prod.fst asked
        have further : (source.fetch s).2 = next := congrArg Prod.snd asked
        refine ⟨0, repeats_zero fun fault last _ => ?_, Prod.ext first.symm further.symm⟩
        cases first.symm.trans last

end CatalogSource

namespace CatalogCache

open CatalogEntry (lastFor?)

variable {σ : Type} {cache : CatalogCache} {source : CatalogSource σ} {disk : Disk} {s : σ}
  {catalog : Catalog} {listed : List CatalogEntry}

/-! ### The file -/

/-- Whether the file holds a catalog, and was changed at some time. -/
def Holds (cache : CatalogCache) (disk : Disk) (modified : Instant) (catalog : Catalog) : Prop :=
  ∃ content, disk.nodeOf? cache.path = some (.file content modified) ∧
    Catalog.ofBytes? content = some catalog

theorem stored?_eq_some_iff : cache.stored? disk = some catalog ↔
    (∃ modified, cache.Holds disk modified catalog) ∧
      disk.refuses (.read cache.path.place) = false := by
  rw [stored?]
  constructor
  · intro found
    cases read : disk.read cache.path with
    | error fault =>
        rw [read] at found
        cases found
    | ok content =>
        rw [read] at found
        obtain ⟨⟨modified, there⟩, reads⟩ := Disk.read_eq_ok_iff.1 read
        exact ⟨⟨modified, content, there, found⟩, reads⟩
  · rintro ⟨⟨modified, content, there, decodes⟩, reads⟩
    rw [Disk.read_eq_ok_iff.2 ⟨⟨modified, there⟩, reads⟩]
    exact decodes

theorem holds_of_replace {content : Bytes}
    (done : (disk.replace cache.path content).2 = .ok ())
    (decodes : Catalog.ofBytes? content = some catalog) :
    cache.Holds (disk.replace cache.path content).1 disk.clock catalog :=
  ⟨content, Disk.nodeOf?_of_replace (Prod.ext rfl done), decodes⟩

/-- Whether a file settles what the catalog is: it holds it, lets itself be read, and was
changed before now, but less than the greatest age ago. -/
def Current (cache : CatalogCache) (disk : Disk) (catalog : Catalog) : Prop :=
  ∃ maxAge modified, cache.maxAge = some maxAge ∧ cache.Holds disk modified catalog ∧
    disk.refuses (.read cache.path.place) = false ∧
    0 ≤ disk.clock.toUnixNanos - modified.toUnixNanos ∧
    disk.clock.toUnixNanos - modified.toUnixNanos < maxAge

theorem isFresh_iff : cache.isFresh disk = true ↔
    ∃ maxAge content modified, cache.maxAge = some maxAge ∧
      disk.nodeOf? cache.path = some (.file content modified) ∧
      0 ≤ disk.clock.toUnixNanos - modified.toUnixNanos ∧
      disk.clock.toUnixNanos - modified.toUnixNanos < maxAge := by
  rw [isFresh]
  cases cache.maxAge with
  | none => simp
  | some maxAge => rcases disk.nodeOf? cache.path with _ | ⟨content, modified⟩ | _ <;> simp

theorem current_iff :
    cache.Current disk catalog ↔ cache.isFresh disk = true ∧ cache.stored? disk = some catalog := by
  rw [isFresh_iff, stored?_eq_some_iff]
  constructor
  · rintro ⟨maxAge, modified, lasts, ⟨content, there, decodes⟩, reads, before, recent⟩
    exact ⟨⟨maxAge, content, modified, lasts, there, before, recent⟩,
      ⟨modified, content, there, decodes⟩, reads⟩
  · rintro ⟨⟨maxAge, content, modified, lasts, there, before, recent⟩,
      ⟨_, _, there', decodes⟩, reads⟩
    cases there.symm.trans there'
    exact ⟨maxAge, modified, lasts, ⟨content, there, decodes⟩, reads, before, recent⟩

/-- The disk when the source is asked: the shipped catalog is installed where there is no
file. -/
def seeded (cache : CatalogCache) (disk : Disk) : Disk :=
  if disk.pathExists cache.path then disk else (disk.replace cache.path Catalog.bundledFile).1

/-! ### Deciding -/

theorem refresh_of_current (current : cache.Current disk catalog) (source : CatalogSource σ)
    (s : σ) : cache.refresh source disk s = (.ok catalog, disk, s) := by
  obtain ⟨isFresh, stored⟩ := current_iff.1 current
  rw [refresh, if_pos (pathExists_of_stored? stored), isFresh, stored]

theorem refresh_of_not_current (other : ∀ catalog, ¬cache.Current disk catalog)
    (source : CatalogSource σ) (s : σ) :
    cache.refresh source disk s = cache.fetchInto source (cache.seeded disk) s := by
  rw [refresh, seeded]
  split_ifs
  · split
    · rename_i catalog isFresh stored
      exact absurd (current_iff.2 ⟨isFresh, stored⟩) (other catalog)
    · rfl
  · rfl

theorem fallback_eq (cache : CatalogCache) (disk : Disk) :
    cache.fallback disk = .ok ((cache.stored? disk).getD .bundled) := by
  rw [fallback, Catalog.ofBytes?_bundledFile]
  cases cache.stored? disk <;> rfl

/-- What a listing makes of the catalog in a file: each entry is as it was listed last, else as
it was, but unsupported. The file has the result, if it could be written. -/
structure Merges (cache : CatalogCache) (disk : Disk) (listed : List CatalogEntry)
    (catalog : Catalog) (after : Disk) : Prop where
  describes : ∀ uid, catalog.get? uid = (lastFor? listed uid).or
    ((((cache.stored? disk).getD .empty).get? uid).map fun entry =>
      { entry with isSupported := false })
  written : after = (disk.replace cache.path catalog.toBytes).1
  holds : (disk.replace cache.path catalog.toBytes).2 = .ok () →
    cache.Holds after disk.clock catalog

theorem merges_absorb (cache : CatalogCache) (disk : Disk) (listed : List CatalogEntry) :
    let catalog := ((cache.stored? disk).getD .empty).absorb listed
    cache.Merges disk listed catalog (disk.replace cache.path catalog.toBytes).1 where
  describes := Catalog.get?_absorb _ listed
  written := rfl
  holds done := holds_of_replace done (Catalog.ofBytes?_toBytes _)

theorem fetchInto_cases (cache : CatalogCache) (source : CatalogSource σ) (disk : Disk) (s : σ) :
    ∃ times catalog after, source.Repeats cache.retries times s ∧
      cache.fetchInto source disk s = (.ok catalog, after, source.after (times + 1) s) ∧
      (∀ listed, source.answer times s = .ok listed → cache.Merges disk listed catalog after) ∧
      ∀ fault, source.answer times s = .error fault →
        catalog = (cache.stored? disk).getD .bundled ∧ after = disk := by
  obtain ⟨times, repeats, asked⟩ := source.fetchPatiently_spec cache.retries s
  rw [fetchInto, asked]
  cases answered : source.answer times s with
  | ok listed =>
      refine ⟨times, _, _, repeats, rfl, fun other same => ?_, fun fault failed => ?_⟩
      · cases answered.symm.trans same
        exact cache.merges_absorb disk listed
      · cases answered.symm.trans failed
  | error fault =>
      refine ⟨times, (cache.stored? disk).getD .bundled, disk, repeats, ?_, fun listed same => ?_,
        fun _ _ => ⟨rfl, rfl⟩⟩
      · dsimp only
        rw [fallback_eq]
      · cases answered.symm.trans same

/-- A refresh never fails. A current file is used as it is, without a look at the source.
Otherwise the shipped catalog is installed if there is no file, and the source is asked until
it answers with a listing or a lasting error, or the repetitions are used up. A listing is
taken into what can be read of the file by then, or into nothing, and the file has the result
if it could be written; without a listing what can be read of the file counts, or the shipped
catalog, and the file stays. -/
theorem refresh_decides (cache : CatalogCache) (source : CatalogSource σ) (disk : Disk) (s : σ) :
    (∃ catalog, (cache.refresh source disk s).1 = .ok catalog) ∧
      (∀ catalog, cache.Current disk catalog →
        cache.refresh source disk s = (.ok catalog, disk, s)) ∧
      ((∀ catalog, ¬cache.Current disk catalog) →
        ∃ times catalog after, source.Repeats cache.retries times s ∧
          cache.refresh source disk s = (.ok catalog, after, source.after (times + 1) s) ∧
          (∀ listed, source.answer times s = .ok listed →
            cache.Merges (cache.seeded disk) listed catalog after) ∧
          ∀ fault, source.answer times s = .error fault →
            catalog = (cache.stored? (cache.seeded disk)).getD .bundled ∧
              after = cache.seeded disk) ∧
      (disk.pathExists cache.path = true → cache.seeded disk = disk) ∧
      (disk.pathExists cache.path = false →
        (disk.replace cache.path Catalog.bundledFile).2 = .ok () →
          cache.Holds (cache.seeded disk) disk.clock .bundled) ∧
      (∀ later catalog, cache.stored? later = some catalog ↔
        (∃ modified, cache.Holds later modified catalog) ∧
          later.refuses (.read cache.path.place) = false) ∧
      ∀ fault : CatalogError, fault.isTransient = true ↔
        fault = .http ∨ ∃ code, fault = .status code ∧ (code = 429 ∨ 500 ≤ code) := by
  have asks (other : ∀ catalog, ¬cache.Current disk catalog) :=
    cache.fetchInto_cases source (cache.seeded disk) s
  refine ⟨?_, fun catalog current => refresh_of_current current source s, fun other => ?_,
    fun there => if_pos there, fun missing installed => ?_,
    fun later catalog => stored?_eq_some_iff, fun fault => CatalogError.isTransient_iff⟩
  · by_cases settled : ∃ catalog, cache.Current disk catalog
    · obtain ⟨catalog, current⟩ := settled
      exact ⟨catalog, by rw [refresh_of_current current]⟩
    · rw [not_exists] at settled
      obtain ⟨times, catalog, after, -, done, -⟩ := asks settled
      exact ⟨catalog, by rw [refresh_of_not_current settled, done]⟩
  · rw [refresh_of_not_current other]
    exact asks other
  · rw [seeded, if_neg (by rw [missing]; decide)]
    exact holds_of_replace installed Catalog.ofBytes?_bundledFile

end CatalogCache

end MultiWallet
