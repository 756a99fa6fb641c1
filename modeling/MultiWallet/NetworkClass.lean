import MultiWallet.Text.Bytes

/-!
The two families of networks, and which network belongs to which.
-/

namespace MultiWallet

/-- A family of networks. -/
inductive NetworkClass where
  | mainnet
  | testnet
deriving DecidableEq

namespace NetworkClass

/-- Whether the networks of the family hold currency of value. -/
def isMainnet : NetworkClass → Bool
  | mainnet => true
  | testnet => false

/-- The ends of the ids of the family's networks. -/
def suffixes : NetworkClass → List String
  | mainnet => ["-mainnet"]
  | testnet => ["-testnet", "-ropsten"]

/-- Whether the id of a network, such as `ethereum-ropsten`, belongs to the
family. -/
def admits (networkClass : NetworkClass) (networkId : String) : Bool :=
  networkClass.suffixes.any (Text.endsWith networkId)

def title : NetworkClass → String
  | mainnet => "Mainnet"
  | testnet => "Testnet"

end NetworkClass

end MultiWallet
