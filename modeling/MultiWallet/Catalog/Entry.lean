import MultiWallet.Currency.Native
import MultiWallet.Json.Fields
import MultiWallet.Json.Reader
import MultiWallet.Json.Writer

/-!
Catalog entries: what is known about a currency apart from its network. An entry
is identified by its currency id; everything else describes it and may change
from one catalog to the next.
-/

namespace MultiWallet

structure CatalogEntry where
  uid : CurrencyId
  code : String
  name : String
  isSupported : Bool
  /-- The ends of a gradient. -/
  colors : List String
  /-- The contract of a token. -/
  tokenAddress : Option String
  decimals : UInt8
  /-- Codes that other services use, by service. -/
  alternateNames : Option (Table String String)

namespace CatalogEntry

/-- Whether the currency is listed before all others. -/
def isPreferred (entry : CatalogEntry) : Bool := NativeCurrency.includes entry.uid

def tokenType (entry : CatalogEntry) : TokenType :=
  if entry.uid.isNative then .native
  else if entry.tokenAddress.isSome then .erc20
  else .unknown

/-- The code that price services use, when they use one of their own. -/
def alternateCode? (entry : CatalogEntry) : Option String :=
  entry.alternateNames.bind (·["cryptocompare"]?)

/-- Whether an address is that of the entry's contract, in any case. -/
def hasAddress (entry : CatalogEntry) (address : String) : Bool :=
  entry.tokenAddress.any (Text.sameIgnoringAsciiCase · address)

/-! ### Stored form -/

/-- An entry as JSON. Alternate names are left out when there are none. -/
def toJson (entry : CatalogEntry) : Json.Value :=
  .record <| [
    ("currency_id", .text entry.uid.text),
    ("code", .text entry.code),
    ("name", .text entry.name),
    ("is_supported", .bool entry.isSupported),
    ("colors", .texts entry.colors),
    ("contract_address", entry.tokenAddress.elim .null .text),
    ("scale", .natural entry.decimals.toNat)]
    ++ (entry.alternateNames.map fun names =>
      ("alternate_names", .record (names.toList.map fun (key, name) => (key, .text name)))).toList

def fieldNames : List String :=
  ["currency_id", "code", "name", "is_supported", "colors", "contract_address", "scale",
    "alternate_names"]

def ofJson? (value : Json.Value) : Option CatalogEntry := do
  let fields ← value.fields fieldNames
  return {
    uid := ⟨← fields.required "currency_id" (·.asText)⟩
    code := ← fields.required "code" (·.asText)
    name := ← fields.required "name" (·.asText)
    isSupported := ← fields.required "is_supported" (·.asBool)
    colors := ← fields.optional "colors" (·.asList (·.asText)) []
    tokenAddress := ← fields.optional "contract_address" (·.asOption (·.asText)) none
    decimals := ← fields.required "scale" (·.asUInt8)
    alternateNames :=
      (← fields.optional "alternate_names" (·.asOption (·.asEntries (·.asText))) none).map
        Table.ofPairs }

def listOfBytes? (bytes : Bytes) : Option (List CatalogEntry) :=
  (Json.parse bytes).bind (·.asList ofJson?)

def listToBytes (layout : Json.Layout) (entries : List CatalogEntry) : Bytes :=
  (Json.Value.array (entries.map toJson)).write layout 0

end CatalogEntry

end MultiWallet
