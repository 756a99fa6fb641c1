/-!
How wallet managers reach their networks.
-/

namespace MultiWallet

/-- How a manager talks to its network. -/
inductive ManagerMode where
  | apiOnly
  | apiWithP2pSubmit
  | p2pWithApiSync
  | p2pOnly
deriving DecidableEq

namespace ManagerMode

/-- All modes, by their numbers. -/
def all : List ManagerMode := [apiOnly, apiWithP2pSubmit, p2pWithApiSync, p2pOnly]

/-- The number under which a mode is stored. -/
def number : ManagerMode → UInt8
  | apiOnly => 0
  | apiWithP2pSubmit => 1
  | p2pWithApiSync => 2
  | p2pOnly => 3

def ofNumber? (number : UInt8) : Option ManagerMode := all.find? (·.number == number)

@[simp] theorem ofNumber?_number (mode : ManagerMode) : ofNumber? mode.number = some mode := by
  cases mode <;> rfl

def text : ManagerMode → String
  | apiOnly => "api_only"
  | apiWithP2pSubmit => "api_with_p2p_submit"
  | p2pWithApiSync => "p2p_with_api_sync"
  | p2pOnly => "p2p_only"

end ManagerMode

/-- How far back a rescan reaches. -/
inductive SyncDepth where
  | lastConfirmedSend
  | lastTrustedBlock
  | creation
deriving DecidableEq

inductive ManagerState where
  | created
  | disconnected (reason : Option String)
  | connected
  | syncing
  | deleted
deriving DecidableEq

end MultiWallet
