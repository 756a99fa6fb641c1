import MultiWallet.Catalog.Basic

/-!
Where fresh catalog listings come from: some source that answers with entries or
an error, in particular a web service that serves a JSON array.
-/

namespace MultiWallet

/-- Why there is no listing, or no catalog. -/
inductive CatalogError where
  /-- The service could not be reached, or its answer not be understood. -/
  | http
  /-- The service answered with another status than success. -/
  | status (code : Nat)
  | json
  | io
  | noCatalog (reason : String)
deriving DecidableEq

namespace CatalogError

/-- The wording of an error, where it is this program's own. -/
def message? : CatalogError → Option String
  | status code => some ("Unexpected HTTP status: " ++ toString code)
  | noCatalog reason => some ("No currency catalog available: " ++ reason)
  | http | json | io => none

/-- Whether another attempt may succeed: after a failed connection, too many
requests or a fault of the server. -/
def isTransient : CatalogError → Bool
  | http => true
  | status code => 500 ≤ code || code == 429
  | json | io | noCatalog _ => false

end CatalogError

/-- A source of listings with states `σ`. -/
structure CatalogSource (σ : Type) where
  fetch : σ → Except CatalogError (List CatalogEntry) × σ

namespace CatalogSource

/-- Asks a source until it gives entries or an error that another attempt would
not mend, at most `retries` times after the first. -/
def fetchPatiently {σ : Type} (source : CatalogSource σ) :
    Nat → σ → Except CatalogError (List CatalogEntry) × σ
  | 0, s => source.fetch s
  | retries + 1, s =>
    match source.fetch s with
    | (.error fault, s) =>
      if fault.isTransient then source.fetchPatiently retries s else (.error fault, s)
    | answer => answer

end CatalogSource

structure WebResponse where
  status : Nat
  body : Bytes

/-- The address of the listing below the base address of a service. -/
def listingAddress (base : String) : String :=
  Text.dropTrailing '/' base ++ "/currency-metadata"

/-- The web service at a base address, reached through some connection, which
gives no response for an address that it cannot reach. -/
def webService (σ : Type) (base : String) (connect : String → σ → Option WebResponse × σ) :
    CatalogSource σ where
  fetch s :=
    match connect (listingAddress base) s with
    | (none, s) => (.error .http, s)
    | (some response, s) =>
      if response.status < 200 ∨ 300 ≤ response.status then (.error (.status response.status), s)
      else
        match CatalogEntry.listOfBytes? response.body with
        | none => (.error .http, s)
        | some entries => (.ok entries, s)

end MultiWallet
