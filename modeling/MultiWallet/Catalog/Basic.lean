import MultiWallet.Catalog.Entry
import MultiWallet.Text.Case

/-!
Catalogs: the entries that are known, by currency id. A catalog only ever grows;
what a newer listing leaves out stays, but counts as unsupported.
-/

namespace MultiWallet

/-- The known entries, each under its own id. -/
structure Catalog where
  entries : Table CurrencyId CatalogEntry
  keyed : ∀ (uid : CurrencyId) (entry : CatalogEntry), entries[uid]? = some entry → entry.uid = uid

namespace Catalog

def empty : Catalog := ⟨∅, by simp⟩

instance : Inhabited Catalog := ⟨empty⟩

/-- Adds an entry in place of any other with its id. -/
def insert (catalog : Catalog) (entry : CatalogEntry) : Catalog where
  entries := catalog.entries.insert entry.uid entry
  keyed uid other h := by
    rw [Std.ExtTreeMap.getElem?_insert] at h
    split at h
    · rename_i same
      cases h
      exact Std.LawfulEqOrd.eq_of_compare same
    · exact catalog.keyed uid other h

def insertAll (catalog : Catalog) (entries : List CatalogEntry) : Catalog :=
  entries.foldl insert catalog

/-- The catalog of some entries; of two with one id the later counts. -/
def ofEntries (entries : List CatalogEntry) : Catalog := empty.insertAll entries

def get? (catalog : Catalog) (uid : CurrencyId) : Option CatalogEntry := catalog.entries[uid]?

def contains (catalog : Catalog) (uid : CurrencyId) : Bool := (catalog.get? uid).isSome

def size (catalog : Catalog) : Nat := catalog.entries.size

def isEmpty (catalog : Catalog) : Bool := catalog.entries.isEmpty

/-- All entries in the order of their ids. -/
def toList (catalog : Catalog) : List CatalogEntry := catalog.entries.toList.map (·.2)

/-- The entries with a code, in any case. -/
def withCode (catalog : Catalog) (code : String) : List CatalogEntry :=
  catalog.toList.filter fun entry => Text.lower entry.code == Text.lower code

/-- The token with a contract address, in any case. -/
def withAddress? (catalog : Catalog) (address : String) : Option CatalogEntry :=
  catalog.toList.find? (·.hasAddress address)

/-- The catalog with every entry unsupported that a listing leaves out. -/
def withdraw (catalog : Catalog) (listed : List CatalogEntry) : Catalog where
  entries := catalog.entries.map fun uid entry =>
    if listed.any (·.uid == uid) then entry else { entry with isSupported := false }
  keyed uid entry h := by
    rw [Std.ExtTreeMap.getElem?_map] at h
    obtain ⟨old, found, rfl⟩ := Option.map_eq_some_iff.1 h
    have := catalog.keyed uid old found
    split <;> exact this

/-- Takes in a fresh listing: its entries replace those known before, and the
others stay as unsupported ones. -/
def absorb (catalog : Catalog) (listed : List CatalogEntry) : Catalog :=
  (catalog.withdraw listed).insertAll listed

/-- The entries that live on networks of one family. -/
def restrict (catalog : Catalog) (networkClass : NetworkClass) : Catalog where
  entries := catalog.entries.filter fun uid _ => networkClass.admits uid.networkId
  keyed uid entry h := by
    rw [Std.ExtTreeMap.getElem?_filter] at h
    exact catalog.keyed uid entry (Option.pfilter_eq_some_iff.1 h).1

def ofBytes? (bytes : Bytes) : Option Catalog :=
  (CatalogEntry.listOfBytes? bytes).map ofEntries

def toBytes (catalog : Catalog) : Bytes := CatalogEntry.listToBytes .indented catalog.toList

end Catalog

end MultiWallet
