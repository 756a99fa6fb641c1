import Mathlib.Data.List.Chain
import MultiWallet.Catalog.Cache
import MultiWallet.Proofs.CatalogFile
import MultiWallet.Proofs.Rewriting

/-!
The catalog file over many refreshes. Each listing that is fetched is taken into what the
file held, so that the catalog of the moment is made of all listings so far: no entry is
lost, each is as it was listed last, and the latest listing tells which are supported.
-/

namespace MultiWallet

namespace Catalog

open CatalogEntry (lastFor?)

/-! ### Many listings -/

/-- What is known about an id after some listings: what the latest one that has it says last,
or else what was known before all of them. It counts as supported if the latest listing of all
says so. -/
def described (initial : Catalog) (listings : List (List CatalogEntry)) (uid : CurrencyId) :
    Option CatalogEntry :=
  match listings.getLast? with
  | none => initial.get? uid
  | some latest =>
    ((listings.reverse.findSome? (lastFor? · uid)).or (initial.get? uid)).map fun entry =>
      { entry with isSupported := (lastFor? latest uid).any (·.isSupported) }

theorem described_concat (initial : Catalog) (listings : List (List CatalogEntry))
    (latest : List CatalogEntry) (uid : CurrencyId) :
    initial.described (listings ++ [latest]) uid = (lastFor? latest uid).or
      ((initial.described listings uid).map fun entry => { entry with isSupported := false }) := by
  have first : initial.described (listings ++ [latest]) uid =
      (((lastFor? latest uid).or (listings.reverse.findSome? (lastFor? · uid))).or
        (initial.get? uid)).map fun entry =>
          { entry with isSupported := (lastFor? latest uid).any (·.isSupported) } := by
    rw [described, List.getLast?_concat, List.reverse_append, List.reverse_singleton,
      List.singleton_append, List.findSome?_cons]
    dsimp only
    cases lastFor? latest uid <;> rfl
  rw [first]
  cases lastFor? latest uid with
  | some entry => rfl
  | none =>
      rw [described]
      cases formerly : listings.getLast? with
      | none =>
          obtain rfl := List.getLast?_eq_none_iff.1 formerly
          rfl
      | some former =>
          simp only [Option.none_or, Option.map_map]
          rfl

/-- Listings that are taken in one after another leave what they say together. -/
theorem get?_foldl_absorb (initial : Catalog) (listings : List (List CatalogEntry))
    (uid : CurrencyId) :
    (listings.foldl absorb initial).get? uid = initial.described listings uid := by
  -- The induction goes from the end, as the latest listing is what the others are measured by.
  induction listings using List.reverseRecOn with
  | nil => rfl
  | append_singleton listings latest ih =>
      rw [List.foldl_append, List.foldl_cons, List.foldl_nil, get?_absorb, ih, described_concat]

theorem contains_absorb {catalog : Catalog} {uid : CurrencyId} (known : catalog.contains uid)
    (listed : List CatalogEntry) : (catalog.absorb listed).contains uid := by
  rw [contains, get?_absorb, Option.isSome_or, Option.isSome_map, Bool.or_eq_true]
  exact .inr known

theorem contains_foldl_absorb {catalog : Catalog} {uid : CurrencyId} (known : catalog.contains uid)
    (listings : List (List CatalogEntry)) : (listings.foldl absorb catalog).contains uid := by
  induction listings generalizing catalog with
  | nil => exact known
  | cons listed rest ih => exact ih (contains_absorb known listed)

end Catalog

namespace CatalogCache

variable {σ : Type} {cache : CatalogCache} {source : CatalogSource σ} {disk : Disk} {s : σ}

/-! ### One refresh -/

/-- Whether the catalog file can be written and read. -/
structure Works (cache : CatalogCache) (disk : Disk) : Prop where
  takes : disk.Takes cache.path
  reads : disk.refuses (.read cache.path.place) = false

/-- What a refresh begins with: the catalog in the file, or the shipped one where there is
no file. -/
def Begins (cache : CatalogCache) (disk : Disk) (catalog : Catalog) : Prop :=
  cache.stored? disk = some catalog ∨ (disk.pathExists cache.path = false ∧ catalog = .bundled)

/-- The listing that a refresh fetches, if it asks for one and gets it. -/
def fetched? (cache : CatalogCache) (source : CatalogSource σ) (disk : Disk) (s : σ) :
    Option (List CatalogEntry) :=
  if cache.isFresh disk then none else (source.fetchPatiently cache.retries s).1.toOption

/-- What a refresh that begins with a catalog ends with. -/
def taken (cache : CatalogCache) (source : CatalogSource σ) (disk : Disk) (s : σ)
    (catalog : Catalog) : Catalog :=
  (cache.fetched? source disk s).elim catalog catalog.absorb

theorem Works.replace (works : cache.Works disk) (content : Bytes) :
    cache.Works (disk.replace cache.path content).1 :=
  ⟨works.takes.again content, by rw [works.takes.refuses_replace]; exact works.reads⟩

theorem stored?_replace (works : cache.Works disk) (content : Bytes) :
    cache.stored? (disk.replace cache.path content).1 = Catalog.ofBytes? content := by
  rw [stored?, Disk.read_of_replace (works.takes.replace_eq content) works.reads]

theorem pathExists_of_stored? {catalog : Catalog} (stored : cache.stored? disk = some catalog) :
    disk.pathExists cache.path = true := by
  rw [stored?] at stored
  cases read : disk.read cache.path with
  | error fault =>
      rw [read] at stored
      cases stored
  | ok content =>
      obtain ⟨⟨modified, there⟩, -⟩ := Disk.read_eq_ok_iff.1 read
      rw [Disk.pathExists, there]
      rfl

theorem isFresh_of_missing (missing : disk.pathExists cache.path = false) :
    cache.isFresh disk = false := by
  have nothing : disk.nodeOf? cache.path = none := by simpa [Disk.pathExists] using missing
  rw [isFresh, nothing]
  cases cache.maxAge <;> rfl

theorem fetchInto_spec (works : cache.Works disk) {catalog : Catalog}
    (stored : cache.stored? disk = some catalog) (source : CatalogSource σ) (s : σ) :
    let listed? := (source.fetchPatiently cache.retries s).1.toOption
    (cache.fetchInto source disk s).1 = .ok (listed?.elim catalog catalog.absorb) ∧
      cache.stored? (cache.fetchInto source disk s).2.1 =
        some (listed?.elim catalog catalog.absorb) := by
  rw [fetchInto]
  rcases source.fetchPatiently cache.retries s with ⟨fault | listed, after⟩
  · dsimp only [Except.toOption, Option.elim]
    rw [fallback, stored]
    exact ⟨rfl, rfl⟩
  · dsimp only [Except.toOption, Option.elim]
    rw [stored, stored?_replace works, Catalog.ofBytes?_toBytes]
    exact ⟨rfl, rfl⟩

/-- A refresh answers with what the file holds afterwards: the catalog that it began with, and
taken into it the listing that was fetched. -/
theorem refresh_spec (works : cache.Works disk) {catalog : Catalog}
    (begins : cache.Begins disk catalog) (source : CatalogSource σ) (s : σ) :
    (cache.refresh source disk s).1 = .ok (cache.taken source disk s catalog) ∧
      cache.stored? (cache.refresh source disk s).2.1 =
        some (cache.taken source disk s catalog) := by
  rw [refresh, taken, fetched?]
  rcases begins with stored | ⟨missing, rfl⟩
  · rw [if_pos (pathExists_of_stored? stored)]
    cases cache.isFresh disk with
    | true =>
        simp only [stored]
        exact ⟨rfl, rfl⟩
    | false => exact fetchInto_spec works stored source s
  · rw [isFresh_of_missing missing, if_neg (by rw [missing]; decide)]
    have seeded : cache.stored? (disk.replace cache.path Catalog.bundledFile).1 = some .bundled :=
      (stored?_replace works _).trans Catalog.ofBytes?_bundledFile
    exact fetchInto_spec (works.replace _) seeded source s

/-- A file that works goes on working. -/
theorem Works.refresh (works : cache.Works disk) (source : CatalogSource σ) (s : σ) :
    cache.Works (cache.refresh source disk s).2.1 := by
  have fetched {disk : Disk} (works : cache.Works disk) :
      cache.Works (cache.fetchInto source disk s).2.1 := by
    rw [fetchInto]
    rcases source.fetchPatiently cache.retries s with ⟨fault | listed, after⟩
    · exact works
    · exact works.replace _
  rw [CatalogCache.refresh]
  split_ifs
  · split
    · exact works
    · exact fetched works
  · exact fetched (works.replace _)

/-! ### Many refreshes -/

/-- A refresh: the disk as it finds it, and the state of the source. -/
structure Visit (σ : Type) where
  disk : Disk
  state : σ

/-- What a refresh gives. -/
def visit (cache : CatalogCache) (source : CatalogSource σ) (visit : Visit σ) :
    Except CatalogError Catalog × Disk × σ :=
  cache.refresh source visit.disk visit.state

/-- The listings that some refreshes fetch. -/
def fetches (cache : CatalogCache) (source : CatalogSource σ) (visits : List (Visit σ)) :
    List (List CatalogEntry) :=
  visits.filterMap fun visit => cache.fetched? source visit.disk visit.state

/-- A row of refreshes of a file that can be written and read and that nobody else writes: the
first begins with a catalog, and each later one finds the content that the one before left
there, however long ago. -/
structure Row (cache : CatalogCache) (source : CatalogSource σ) (initial : Catalog)
    (visits : List (Visit σ)) : Prop where
  works : ∀ visit ∈ visits, cache.Works visit.disk
  begins : ∀ visit ∈ visits.head?, cache.Begins visit.disk initial
  alone : visits.IsChain fun earlier later =>
    later.disk.read cache.path = (cache.visit source earlier).2.1.read cache.path

/-- What the first refresh ends with, the others begin with. -/
theorem Row.tail {initial : Catalog} {first : Visit σ} {rest : List (Visit σ)}
    (row : cache.Row source initial (first :: rest)) :
    cache.Row source (cache.taken source first.disk first.state initial) rest where
  works := (List.forall_mem_cons.1 row.works).2
  begins next mem := by
    obtain ⟨-, stored⟩ := refresh_spec (row.works first List.mem_cons_self)
      (row.begins first rfl) source first.state
    have same := (List.isChain_cons.1 row.alone).1 next mem
    left
    rw [← stored, stored?, stored?, same]
    rfl
  alone := (List.isChain_cons.1 row.alone).2

theorem foldl_fetches_cons (initial : Catalog) (first : Visit σ) (rest : List (Visit σ)) :
    (cache.fetches source (first :: rest)).foldl Catalog.absorb initial =
      (cache.fetches source rest).foldl Catalog.absorb
        (cache.taken source first.disk first.state initial) := by
  rw [fetches, taken, List.filterMap_cons]
  cases cache.fetched? source first.disk first.state <;> rfl

/-- After each refresh the file holds what was answered, namely what all listings so far have
made of the catalog that the row began with. -/
theorem Row.answers {initial : Catalog} {earlier later : List (Visit σ)} {visit : Visit σ}
    (row : cache.Row source initial (earlier ++ visit :: later)) :
    (cache.visit source visit).1 =
        .ok ((cache.fetches source (earlier ++ [visit])).foldl Catalog.absorb initial) ∧
      cache.stored? (cache.visit source visit).2.1 =
        some ((cache.fetches source (earlier ++ [visit])).foldl Catalog.absorb initial) := by
  induction earlier generalizing initial with
  | nil =>
      rw [List.nil_append, foldl_fetches_cons]
      exact refresh_spec (row.works visit List.mem_cons_self) (row.begins visit rfl) source
        visit.state
  | cons first earlier ih =>
      rw [List.cons_append, foldl_fetches_cons]
      exact ih row.tail

/-- The catalog only grows from refresh to refresh, the file always holds the catalog that was
answered last, and this describes everything as the listings so far do. -/
theorem refreshes_accumulate (cache : CatalogCache) (source : CatalogSource σ) (initial : Catalog)
    (visits : List (Visit σ)) (row : cache.Row source initial visits) :
    ∀ earlier visit later, visits = earlier ++ visit :: later →
      ∃ catalog, (cache.visit source visit).1 = .ok catalog ∧
        cache.stored? (cache.visit source visit).2.1 = some catalog ∧
        (∀ uid, catalog.get? uid =
          initial.described (cache.fetches source (earlier ++ [visit])) uid) ∧
        ∀ former ∈ earlier, ∃ before, (cache.visit source former).1 = .ok before ∧
          ∀ uid, before.contains uid → catalog.contains uid := by
  rintro earlier visit later rfl
  obtain ⟨answered, stored⟩ := row.answers
  refine ⟨_, answered, stored, Catalog.get?_foldl_absorb initial _, fun former mem => ?_⟩
  obtain ⟨start, middle, rfl⟩ := List.append_of_mem mem
  have formerly : cache.Row source initial (start ++ former :: (middle ++ visit :: later)) := by
    rwa [List.append_assoc] at row
  refine ⟨_, formerly.answers.1, fun uid known => ?_⟩
  have more : cache.fetches source (start ++ former :: middle ++ [visit]) =
      cache.fetches source (start ++ [former]) ++ cache.fetches source (middle ++ [visit]) := by
    rw [fetches, fetches, fetches, ← List.filterMap_append]
    simp
  rw [more, List.foldl_append]
  exact Catalog.contains_foldl_absorb known _

/-- An entry that is listed once and then left out stays, as an unsupported one. -/
theorem withdrawn_entry_stays :
    let cache : CatalogCache := ⟨⟨[], ["catalog.json"]⟩, none, 0⟩
    let source : CatalogSource (List CatalogEntry) := ⟨fun listed => (.ok listed, listed)⟩
    let entry := Catalog.listing "ethereum-mainnet:0x1" "one" "One" [] (some "0x1") 18
    let first : Visit (List CatalogEntry) := ⟨.blank, [entry]⟩
    let second : Visit (List CatalogEntry) := ⟨(cache.visit source first).2.1, []⟩
    ∃ catalog, (cache.visit source second).1 = .ok catalog ∧
      catalog.get? entry.uid = some { entry with isSupported := false } := by
  intro cache source entry first second
  have works : cache.Works .blank := by
    have surrounded : Disk.blank.makeDirectories cache.path.parent = (.blank, .ok ()) := rfl
    have temporary : Disk.blank.node? [".catalog.json.tmp"] ≠ some .directory := by decide
    have target : Disk.blank.node? ["catalog.json"] ≠ some .directory := by decide
    exact ⟨Disk.takes_of_free (fun _ => rfl) surrounded rfl rfl temporary rfl rfl target, rfl⟩
  have row : cache.Row source .bundled [first, second] := by
    constructor
    case works =>
      exact List.forall_mem_cons.2 ⟨works, List.forall_mem_singleton.2 (works.refresh source _)⟩
    case begins =>
      rintro _ ⟨⟩
      exact .inr ⟨rfl, rfl⟩
    case alone => exact List.isChain_pair.2 rfl
  obtain ⟨catalog, answered, -, described, -⟩ :=
    refreshes_accumulate cache source .bundled _ row [first] second [] rfl
  exact ⟨catalog, answered, (described entry.uid).trans rfl⟩

end CatalogCache

end MultiWallet
