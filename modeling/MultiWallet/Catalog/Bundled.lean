import MultiWallet.Catalog.Basic

/-!
The catalog that comes with the program. It seeds the catalog file of a fresh
installation and is what remains when everything else is unreadable.
-/

namespace MultiWallet.Catalog

/-- An entry for a supported currency. -/
def listing (uid code name : String) (colors : List String) (address : Option String)
    (decimals : UInt8) : CatalogEntry :=
  { uid := ⟨uid⟩, code, name, isSupported := true, colors, tokenAddress := address, decimals,
    alternateNames := none }

/-- The entries in the order of the shipped file. -/
def bundledEntries : List CatalogEntry := [
  listing "bitcoin-mainnet:__native__" "btc" "Bitcoin" ["#f29500", "#f09a12"] none 8,
  listing "bitcoincash-mainnet:__native__" "bch" "Bitcoin Cash" ["#478559", "#478559"] none 8,
  listing "ethereum-mainnet:__native__" "eth" "Ethereum" ["#5e6fa5", "#5e70a6"] none 18,
  listing "ethereum-mainnet:0x558ec3152e2eb2174905cd19aea4e34a23de9ad6" "brd" "BRD Token"
    ["#ff5193", "#f9a43a"] (some "0x558ec3152e2eb2174905cd19aea4e34a23de9ad6") 18,
  listing "ethereum-mainnet:0x0000000000085d4780B73119b644AE5ecd22b376" "tusd" "TrueUSD"
    ["#2b2e7f", "#2b2e7f"] (some "0x0000000000085d4780B73119b644AE5ecd22b376") 18,
  { listing "ethereum-mainnet:0x89d24a6b4ccb1b6faa2625fe562bdd9a23260359" "dai" "Dai"
      ["#fdc134", "#fdc134"] (some "0x89d24a6b4ccb1b6faa2625fe562bdd9a23260359") 18 with
    alternateNames := some (Table.ofPairs [("cryptocompare", "SAI")]) },
  listing "bitcoin-testnet:__native__" "btc" "Bitcoin Testnet" ["#f29500", "#f09a12"] none 8,
  listing "bitcoincash-testnet:__native__" "bch" "Bitcoin Cash Testnet"
    ["#478559", "#478559"] none 8,
  listing "ethereum-ropsten:__native__" "eth" "Ethereum Ropsten" ["#5e6fa5", "#5e70a6"] none 18,
  listing "ethereum-ropsten:0x7108ca7c4718efa810457f228305c9c71390931a" "brd"
    "BRD Token Ropsten" ["#ff5193", "#f9a43a"]
    (some "0x7108ca7c4718efa810457f228305c9c71390931a") 18]

/-- The shipped file. Every field of an entry has a line, and the last line ends. -/
def bundledFile : Bytes := CatalogEntry.listToBytes (.indentedTo 2) bundledEntries ++ [0x0a]

def bundled : Catalog := ofEntries bundledEntries

end MultiWallet.Catalog
