import Leasehold.Backend
import Leasehold.Duration.OneUnit
import Leasehold.Settings
/-!
A backend in memory. Leases live until their deadline, and a key that is locked by a lease that has
gone is unlocked.

1. Leases that are overdue stay in the store until the next request is served, which prunes them
   first. Each lease that goes takes an index of its own, in an order that a `Sweep` gives.
2. An unreachable store serves nothing and prunes nothing, except that its operator may count and
   wipe the leases.
3. A new lease is made under an id that the caller supplies, and which no other lease has.
-/
namespace Leasehold

namespace Store

/-- A lease in the store. -/
structure Lease where
  /-- Its id. -/
  id : String
  /-- The name that it is labelled with. -/
  name : String
  /-- How long it lives after each renewal. -/
  ttl : Duration
  /-- When it is overdue. -/
  deadline : Instant
  /-- The index at which it was created. -/
  createIndex : Nat

/-- The order in which leases that go together are removed. -/
structure Sweep where
  /-- Arranges the ids of the leases that go. -/
  arrange : List String → List String
  /-- No id is lost, and none is added. -/
  perm : ∀ ids, (arrange ids).Perm ids

/-- Removes leases in the order in which they were created. -/
def Sweep.oldestFirst : Sweep := ⟨id, fun _ => List.Perm.refl _⟩

instance : Inhabited Sweep := ⟨.oldestFirst⟩

end Store

/-- A backend in memory. -/
structure Store where
  /-- The leases in the order in which they were created, with those that are overdue but not pruned. -/
  leases : List Store.Lease := []
  /-- The keys that were ever written. -/
  keys : List KeyEntry := []
  /-- The last index that was given out. -/
  index : Nat := 0
  /-- Whether requests are served. -/
  reachable : Bool := true

namespace Store

/-- The name of the node that all leases belong to. -/
def nodeName : String := "in-memory"

/-- Whether there is a lease with this id. -/
def hasLease (store : Store) (id : String) : Bool := store.leases.any (·.id == id)

/-- The entry of a key. -/
def entry? (store : Store) (key : String) : Option KeyEntry := store.keys.find? (·.key == key)

/-- A key after a lease has gone. -/
def unlockFrom (id : String) (index : Nat) (entry : KeyEntry) : KeyEntry :=
  if entry.holder = some id then { entry with holder := none, modifyIndex := index } else entry

/-- Removes a lease, if it is there, and unlocks the keys that it holds (`remove_lease`). -/
def removeLease (store : Store) (id : String) : Store :=
  if store.hasLease id then
    { store with
      leases := store.leases.filter (·.id != id)
      keys := store.keys.map (unlockFrom id (store.index + 1))
      index := store.index + 1 }
  else store

/-- The ids of the leases that are overdue. -/
def overdue (now : Instant) (store : Store) : List String :=
  (store.leases.filter (·.deadline ≤ now)).map (·.id)

/-- Removes the leases that are overdue (`expire`). -/
def prune (sweep : Sweep) (now : Instant) (store : Store) : Store :=
  (sweep.arrange (store.overdue now)).foldl removeLease store

/-- Puts an entry in place of the one for the same key, or at the end. -/
def putEntry (entry : KeyEntry) : List KeyEntry → List KeyEntry
  | [] => [entry]
  | found :: rest => if found.key = entry.key then entry :: rest else found :: putEntry entry rest

/-- What is reported of a lease. -/
def Lease.descriptor (lease : Lease) : Descriptor where
  id := lease.id
  name := lease.name
  node := nodeName
  ttl := Nat.repr lease.ttl.secs ++ "s"
  behavior := Behavior.release.name
  lockDelay := 0
  createIndex := lease.createIndex

/-- A lease that lives on from now. -/
def Lease.renewAt (now : Instant) (lease : Lease) : Lease :=
  { lease with deadline := now + lease.ttl.nanos }

/-- Serves a request on a store that is pruned (`create_session`, `renew_session`, `destroy_session`,
`list_sessions`, `put_if_session_owns`, `release_if_session_owns` and `get_key`, each behind `live_state`).
`fresh` is the id of a lease that is made. -/
def serveLive (store : Store) (now : Instant) (fresh : String) :
    (request : Backend.Request) → request.Outcome × Store
  | .create name ttl =>
    (.ok fresh,
      { store with
        leases := store.leases ++ [⟨fresh, name, ttl, now + ttl.nanos, store.index + 1⟩]
        index := store.index + 1 })
  | .renew id =>
    if store.hasLease id then
      (.ok (),
        { store with
          leases := store.leases.map fun lease =>
            if lease.id = id then lease.renewAt now else lease })
    else (.error (.sessionNotFound id), store)
  | .destroy id => (.ok (), store.removeLease id)
  | .list => (.ok (store.leases.map Lease.descriptor), store)
  | .put key value id =>
    if store.hasLease id then
      let locked := match store.entry? key with
        | some entry => entry.holder.isSome && entry.holder != some id
        | none => false
      if locked then (.ok false, store)
      else
        (.ok true,
          { store with
            keys := putEntry ⟨key, value, some id, store.index + 1⟩ store.keys
            index := store.index + 1 })
    else (.error (.sessionNotFound id), store)
  | .release key id =>
    if store.hasLease id then
      match store.entry? key with
      | some entry =>
        if entry.holder = some id then
          (.ok true,
            { store with
              keys := putEntry { entry with holder := none, modifyIndex := store.index + 1 }
                store.keys
              index := store.index + 1 })
        else (.ok false, { store with index := store.index + 1 })
      | none => (.ok false, { store with index := store.index + 1 })
    else (.error (.sessionNotFound id), store)
  | .get key => (.ok (store.entry? key), store)

/-- Why a request is refused whatever the store holds: a lease needs a TTL that is positive and at
most a day, which `create_session` looks at first. -/
def refusal? : Backend.Request → Option Error
  | .create _ ttl =>
    if ttl.isZero ∨ maxSessionTtl.nanos < ttl.nanos then
      some (.backendRejected 400
        ("invalid session TTL " ++ ttl.inOneUnit ++ ", must be between 0s and "
          ++ maxSessionTtl.inOneUnit))
    else none
  | _ => none

/-- Serves a request, on a store that is within reach and pruned (`live_state`). -/
def serve (sweep : Sweep) (store : Store) (now : Instant) (fresh : String)
    (request : Backend.Request) : request.Outcome × Store :=
  match refusal? request with
  | some error => (.error error, store)
  | none =>
    if store.reachable then (store.prune sweep now).serveLive now fresh request
    else (.error (.backendUnavailable "in-memory backend is unreachable"), store)

/-- Makes the store reachable or not (`set_reachable`). Leases age while it is not. -/
def setReachable (store : Store) (reachable : Bool) : Store := { store with reachable }

/-- Counts the live leases (`session_count`). -/
def count (sweep : Sweep) (store : Store) (now : Instant) : Nat × Store :=
  let store := store.prune sweep now
  (store.leases.length, store)

/-- Removes all leases (`destroy_all_sessions`), and says how many there were, with those that are overdue
but not pruned. -/
def wipe (sweep : Sweep) (store : Store) : Nat × Store :=
  (store.leases.length, (sweep.arrange (store.leases.map (·.id))).foldl removeLease store)

end Store

end Leasehold
