/-!
Notifications that a remote replica changed a record. A store announces keys; a
listener remembers how many announcements it has taken. When it falls behind by
more than the announcements that are kept, it learns how many it missed and
goes on with those that are left. Announcements are listed with the latest one
first.
-/

namespace MultiWallet

inductive Notice where
  /-- The record under a key changed. -/
  | key (key : String)
  /-- A number of notifications was missed. -/
  | lagged (missed : Nat)
deriving DecidableEq

/-- Whether the record under a key may have changed. -/
def Notice.touches (notice : Notice) (key : String) : Bool :=
  match notice with
  | .key changed => changed == key
  | .lagged _ => true

/-- The number of announcements that are kept for slow listeners. No law of listeners depends
on which it is, and so it does not unfold. -/
@[irreducible] def announcementsKept : Nat := 64

/-- A listener, by the number of announcements it is done with. -/
structure Listener where
  position : Nat
deriving DecidableEq

namespace Listener

/-- A listener that hears only what comes after some announcements. -/
def attach (announced : List String) : Listener := ⟨announced.length⟩

def next? (listener : Listener) (announced : List String) : Option (Notice × Listener) :=
  let oldest := announced.length - announcementsKept
  if listener.position < oldest then
    some (.lagged (oldest - listener.position), ⟨oldest⟩)
  else
    announced.reverse[listener.position]?.map fun key => (.key key, ⟨listener.position + 1⟩)

/-- All notifications that are due, with a bound on their number. -/
def drainUpTo : Nat → Listener → List String → List Notice × Listener
  | 0, listener, _ => ([], listener)
  | bound + 1, listener, announced =>
    match listener.next? announced with
    | none => ([], listener)
    | some (notice, listener) =>
      let (notices, listener) := drainUpTo bound listener announced
      (notice :: notices, listener)

/-- All notifications that are due. -/
def drain (listener : Listener) (announced : List String) : List Notice × Listener :=
  drainUpTo (announcementsKept + 1) listener announced

end Listener

end MultiWallet
