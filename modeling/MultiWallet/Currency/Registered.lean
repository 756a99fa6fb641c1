import MultiWallet.Catalog.Entry
import MultiWallet.Engine.Network
import MultiWallet.Text.Case

/-!
Currencies as they are registered: the engine's view of a currency on one
network together with its catalog entry. They are made once, when their network
is added, and do not change.
-/

namespace MultiWallet

structure Currency where
  uid : CurrencyId
  code : String
  name : String
  tokenType : TokenType
  baseUnit : CurrencyUnit
  defaultUnit : CurrencyUnit
  /-- All units by their names in lower case. -/
  units : Table String CurrencyUnit
  entry : CatalogEntry
  networkId : String

namespace Currency

/-- Currencies are told apart by their ids. -/
instance : BEq Currency := ⟨fun a b => a.uid == b.uid⟩

/-- The currency that an engine currency makes with a catalog entry. The ids have
to agree, and the network has to know the units. -/
def make? (core : EngineCurrency) (network : Network) (entry : CatalogEntry) :
    Option Currency :=
  if core.uid ≠ entry.uid then none
  else
    network.units[core.uid]?.map fun units =>
      { uid := core.uid
        code := Text.upper core.code
        name := entry.name
        tokenType := core.tokenType
        baseUnit := units.base
        defaultUnit := units.default
        units := Table.ofPairs (units.all.map fun unit => (Text.lower unit.name, unit))
        entry
        networkId := network.id }

/-- The unit with a name, in any case. -/
def unitNamed? (currency : Currency) (name : String) : Option CurrencyUnit :=
  currency.units[Text.lower name]?

def unitWithDecimals? (currency : Currency) (decimals : UInt8) : Option CurrencyUnit :=
  (currency.units.toList.map (·.2)).find? (·.decimals == decimals)

/-- What a unit is called: the default one goes by the ticker code. -/
def unitLabel (currency : Currency) (unit : CurrencyUnit) : String :=
  if unit.decimals == currency.defaultUnit.decimals then currency.code else unit.name

def isSupported (currency : Currency) : Bool := currency.entry.isSupported

def isNative (currency : Currency) : Bool := currency.tokenType == .native

end Currency

end MultiWallet
