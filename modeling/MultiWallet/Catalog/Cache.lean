import MultiWallet.Catalog.Bundled
import MultiWallet.Catalog.Source
import MultiWallet.Disk.Replace

/-!
The catalog file in front of a source of listings. A fresh file is used as it
is. Otherwise the source is asked, and what it lists is taken into the catalog
of the file. When the source fails the file counts however old it is, and
without a readable file the shipped catalog.
-/

namespace MultiWallet

/-- A catalog file and how long it lasts. -/
structure CatalogCache where
  path : DiskPath
  /-- The age in nanoseconds from which on a file is not fresh, if it can be
  fresh at all. -/
  maxAge : Option Nat
  /-- How often a failed fetch is repeated at most. -/
  retries : Nat

namespace CatalogCache

/-- How many repetitions fit into a time. Pauses between them last at least a
tenth of a second. -/
def retriesWithin (seconds : Nat) : Nat := 10 * seconds

/-- The catalog in the file, if it can be read. -/
def stored? (cache : CatalogCache) (disk : Disk) : Option Catalog :=
  match disk.read cache.path with
  | .ok content => Catalog.ofBytes? content
  | .error _ => none

/-- Whether the file was changed so recently that it counts as fresh. A file from
the future is not fresh. -/
def isFresh (cache : CatalogCache) (disk : Disk) : Bool :=
  match cache.maxAge, disk.nodeOf? cache.path with
  | some maxAge, some (.file _ modified) =>
    let age := disk.clock.toUnixNanos - modified.toUnixNanos
    0 ≤ age && age < maxAge
  | _, _ => false

def fallback (cache : CatalogCache) (disk : Disk) : Except CatalogError Catalog :=
  match cache.stored? disk with
  | some catalog => .ok catalog
  | none =>
    match Catalog.ofBytes? Catalog.bundledFile with
    | some catalog => .ok catalog
    | none => .error (.noCatalog "bundled catalog invalid")

/-- Asks the source, and writes what becomes of the file's catalog. A file that
cannot be written stays as it is. -/
def fetchInto {σ : Type} (cache : CatalogCache) (source : CatalogSource σ) (disk : Disk) (s : σ) :
    Except CatalogError Catalog × Disk × σ :=
  match source.fetchPatiently cache.retries s with
  | (.ok listed, s) =>
    let catalog := ((cache.stored? disk).getD .empty).absorb listed
    (.ok catalog, (disk.replace cache.path catalog.toBytes).1, s)
  | (.error _, s) => (cache.fallback disk, disk, s)

/-- The current catalog. A missing file is first installed from the shipped
one. -/
def refresh {σ : Type} (cache : CatalogCache) (source : CatalogSource σ) (disk : Disk) (s : σ) :
    Except CatalogError Catalog × Disk × σ :=
  if disk.pathExists cache.path then
    match cache.isFresh disk, cache.stored? disk with
    | true, some catalog => (.ok catalog, disk, s)
    | _, _ => cache.fetchInto source disk s
  else cache.fetchInto source (disk.replace cache.path Catalog.bundledFile).1 s

end CatalogCache

end MultiWallet
