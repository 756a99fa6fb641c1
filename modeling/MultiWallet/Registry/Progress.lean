import MultiWallet.Decimal.Fixed
import MultiWallet.Log
import MultiWallet.Table
import MultiWallet.Time.Instant

/-!
The progress of synchronization, network by network: when the running sync
began, how far it is, which blocks were seen and how earlier syncs ended.
Progress is logged whenever it has grown by ten percent.
-/

namespace MultiWallet

/-- The progress of one network. Its counters are words of 64 bits; that none
overflows is assumed. -/
structure NetworkProgress where
  /-- When the running sync began, if one is running. -/
  startedAt : Option Instant
  percent : Float
  /-- The time of the last block that was reported. -/
  lastBlock : Option Instant
  highestBlock : Nat
  /-- Reports since the sync began. -/
  updates : Nat
  completed : Nat
  failed : Nat
  /-- The percentage that was logged last. -/
  loggedPercent : Float

namespace NetworkProgress

def fresh : NetworkProgress := ⟨none, 0, none, 0, 0, 0, 0, 0⟩

/-- A percentage between nothing and all. What is no number stays so. -/
def clampPercent (percent : Float) : Float :=
  if percent < 0 then 0 else if 100 < percent then 100 else percent

def percentText (progress : NetworkProgress) : String := Decimal.oneDecimal progress.percent ++ "%"

def secondsBetween (first second : Instant) : Int :=
  (second.toUnixNanos - first.toUnixNanos).tdiv 1000000000

def summary (network : String) (progress : NetworkProgress) (now : Instant) : String :=
  let elapsed := progress.startedAt.elim "" fun start =>
    " in " ++ toString (secondsBetween start now) ++ "s"
  "Sync " ++ network ++ " at " ++ progress.percentText ++ elapsed ++ ": block "
    ++ toString progress.highestBlock ++ ", " ++ toString progress.updates ++ " progress updates, "
    ++ toString progress.completed ++ " completed, " ++ toString progress.failed ++ " failed"

def start (now : Instant) (progress : NetworkProgress) : NetworkProgress :=
  { progress with startedAt := some now, percent := 0, updates := 0, loggedPercent := 0 }

/-- Progress is reported. The flag tells whether it is to be logged. -/
def report (percent : Float) (timestamp : Option Instant) (progress : NetworkProgress) :
    Bool × NetworkProgress :=
  let percent := clampPercent percent
  let isNotable := decide (10 ≤ percent - progress.loggedPercent)
  (isNotable,
    { progress with
      percent
      updates := progress.updates + 1
      lastBlock := timestamp.or progress.lastBlock
      loggedPercent := if isNotable then percent else progress.loggedPercent })

def see (height : Nat) (progress : NetworkProgress) : NetworkProgress :=
  { progress with highestBlock := max progress.highestBlock height }

/-- A sync is over, because of an error or not. The sync still counts as running. -/
def conclude (error : Option String) (progress : NetworkProgress) : NetworkProgress :=
  match error with
  | none => { progress with completed := progress.completed + 1, percent := 100 }
  | some _ => { progress with failed := progress.failed + 1 }

end NetworkProgress

structure SyncProgress where
  networks : Table String NetworkProgress

namespace SyncProgress

def empty : SyncProgress := ⟨∅⟩

def get? (progress : SyncProgress) (network : String) : Option NetworkProgress :=
  progress.networks[network]?

def get (progress : SyncProgress) (network : String) : NetworkProgress :=
  (progress.get? network).getD .fresh

def set (progress : SyncProgress) (network : String) (value : NetworkProgress) : SyncProgress :=
  ⟨progress.networks.insert network value⟩

theorem get?_set (progress : SyncProgress) (network other : String) (value : NetworkProgress) :
    (progress.set network value).get? other =
      if network = other then some value else progress.get? other := by
  rw [get?, set, Std.ExtTreeMap.getElem?_insert]
  simp only [Std.LawfulEqOrd.compare_eq_iff_eq]
  rfl

theorem get_set (progress : SyncProgress) (network other : String) (value : NetworkProgress) :
    (progress.set network value).get other =
      if network = other then value else progress.get other := by
  rw [get, get?_set]
  split <;> rfl

def isSyncing (progress : SyncProgress) (network : String) : Bool :=
  (progress.get? network).any (·.startedAt.isSome)

def recordStart (progress : SyncProgress) (network : String) (now : Instant) :
    SyncProgress × List LogLine :=
  (progress.set network ((progress.get network).start now),
    [⟨.info, "Sync started for " ++ network⟩])

def recordReport (progress : SyncProgress) (network : String) (percent : Float)
    (timestamp : Option Instant) : SyncProgress × List LogLine :=
  let (isNotable, entry) := (progress.get network).report percent timestamp
  (progress.set network entry,
    if isNotable then [⟨.info, "Sync progress for " ++ network ++ ": " ++ entry.percentText⟩]
    else [])

def recordBlock (progress : SyncProgress) (network : String) (height : Nat) : SyncProgress :=
  progress.set network ((progress.get network).see height)

def recordEnd (progress : SyncProgress) (network : String) (error : Option String)
    (now : Instant) : SyncProgress × List LogLine :=
  let entry := (progress.get network).conclude error
  let complaint : List LogLine := match error with
    | none => []
    | some error => [⟨.warn, "Sync for " ++ network ++ " ended with error: " ++ error⟩]
  (progress.set network { entry with startedAt := none },
    complaint ++ [⟨.info, entry.summary network now⟩])

end SyncProgress

end MultiWallet
