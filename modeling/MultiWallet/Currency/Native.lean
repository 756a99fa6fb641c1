import MultiWallet.Currency.Id
import MultiWallet.NetworkClass

/-!
The currencies that are supported from the start.
-/

namespace MultiWallet

/-- A currency that is supported from the start. -/
inductive NativeCurrency where
  | btc
  | bch
  | eth
  | brd
  | tusd
deriving DecidableEq

namespace NativeCurrency

/-- All of them, in the order of their rank. -/
def all : List NativeCurrency := [btc, bch, eth, brd, tusd]

def code : NativeCurrency → String
  | btc => "btc"
  | bch => "bch"
  | eth => "eth"
  | brd => "brd"
  | tusd => "tusd"

/-- The id within a family of networks. The last one exists on one network
only. -/
def uid (currency : NativeCurrency) (networkClass : NetworkClass) : CurrencyId :=
  match currency, networkClass with
  | btc, .mainnet => ⟨"bitcoin-mainnet:__native__"⟩
  | btc, .testnet => ⟨"bitcoin-testnet:__native__"⟩
  | bch, .mainnet => ⟨"bitcoincash-mainnet:__native__"⟩
  | bch, .testnet => ⟨"bitcoincash-testnet:__native__"⟩
  | eth, .mainnet => ⟨"ethereum-mainnet:__native__"⟩
  | eth, .testnet => ⟨"ethereum-ropsten:__native__"⟩
  | brd, .mainnet => ⟨"ethereum-mainnet:0x558ec3152e2eb2174905cd19aea4e34a23de9ad6"⟩
  | brd, .testnet => ⟨"ethereum-ropsten:0x7108ca7c4718efa810457f228305c9c71390931a"⟩
  | tusd, _ => ⟨"ethereum-mainnet:0x0000000000085d4780B73119b644AE5ecd22b376"⟩

/-- Whether an id is that of one of them in either family. -/
def includes (uid : CurrencyId) : Bool :=
  all.any fun currency => currency.uid .mainnet == uid || currency.uid .testnet == uid

/-- The currencies a fresh wallet has enabled. -/
def defaultIds (networkClass : NetworkClass) : List CurrencyId :=
  [btc, eth, brd].map (uid · networkClass)

end NativeCurrency

end MultiWallet
