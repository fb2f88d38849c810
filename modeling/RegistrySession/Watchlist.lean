import RegistrySession.Pool
import RegistrySession.Resource
import RegistrySession.Subscriptions.Basic

/-!
# Watchlists

The records of one kind that a session keeps at hand. A key is watched while it has a listener:
a repeating task fetches its record and feeds it to the watchlist, which stores it and calls the
listeners if connecting to the resource would go elsewhere than before.
-/

namespace RegistrySession

structure Delivery (ℓ : Type) (ρ : Type) where
  handle : Handle ℓ
  record : ρ
  /-- It is the record current at the time of subscription. -/
  isInitial : Bool

structure Watchlist (ρ : Type) (ℓ : Type) where
  records : Table Key ρ := .empty
  /-- The repeating task of each watched key. -/
  refreshes : Table Key Nat := .empty
  subscriptions : Subscriptions ℓ := .empty
  pool : Pool Key
  interval : Millis

namespace Watchlist

variable {ρ : Type} {ℓ : Type}

def ofPool (pool : Pool Key) (interval : Millis) : Watchlist ρ ℓ := { pool, interval }

/-- The record at hand, without asking the server. -/
def find? (list : Watchlist ρ ℓ) (key : Key) : Option ρ :=
  list.records.find? key

def isRefreshing (list : Watchlist ρ ℓ) (key : Key) : Bool :=
  list.refreshes.contains key

/-- Calls every listener of a key. A listener that breaks down does not keep the record from the
others. -/
def dispatch (list : Watchlist ρ ℓ) (key : Key) (record : ρ) :
    Watchlist ρ ℓ × List (Delivery ℓ ρ) :=
  let handles := list.subscriptions.handlesOf key
  ({ list with subscriptions := handles.foldl Subscriptions.markReached list.subscriptions },
    handles.map fun handle => ⟨handle, record, false⟩)

section Resource

variable [Resource ρ]

/-- Stores a fetched record in its own slot and, unless it is marked as not the latest, in the
latest slot of its name. Listeners are called if the record differs from the one that its own slot
held, and those of the latest slot also if that slot held another version. -/
def absorb (list : Watchlist ρ ℓ) (record : ρ) : Watchlist ρ ℓ × List (Delivery ℓ ρ) :=
  let key := Resource.key record
  let isLatest := Resource.isLatest record
  let changed := Resource.changed record (list.records.find? key)
  let records := list.records.insert key record
  let moved := isLatest && (records.find? key.asLatest).any fun held => Resource.key held ≠ key
  let records := if isLatest then records.insert key.asLatest record else records
  let list := { list with records }
  let (list, own) := if changed then list.dispatch key record else (list, [])
  let (list, latest) :=
    if isLatest && (changed || moved) then list.dispatch key.asLatest record else (list, [])
  (list, own ++ latest)

end Resource

/-- Lets a task refresh a key, unless one does already. Nothing if the pool is shut down. -/
def addRefresh? (list : Watchlist ρ ℓ) (now : Nat) (key : Key) : Option (Watchlist ρ ℓ) :=
  if list.refreshes.contains key then some list
  else do
    let (pool, task) ← list.pool.schedule? now list.interval list.interval key
    some { list with pool, refreshes := list.refreshes.insert key task }

/-- A refresh in progress is let finish. -/
def removeRefresh (list : Watchlist ρ ℓ) (key : Key) : Watchlist ρ ℓ :=
  match list.refreshes.find? key with
  | some task =>
    { list with refreshes := list.refreshes.erase key, pool := list.pool.cancel task }
  | none => list

variable [DecidableEq ℓ]

/-- Registers a listener on a key and watches the key. The refresh comes first, so that nothing is
registered where it cannot be had. -/
def subscribe? (list : Watchlist ρ ℓ) (now : Nat) (key : Key) (listener : ℓ) :
    Option (Watchlist ρ ℓ × Handle ℓ) := do
  let list ← list.addRefresh? now key
  let (subscriptions, handle) := list.subscriptions.register key listener
  some ({ list with subscriptions }, handle)

/-- Takes a listener off a key and stops watching the key with its last listener. The record at
hand stays. -/
def unsubscribe (list : Watchlist ρ ℓ) (key : Key) (listener : ℓ) : Watchlist ρ ℓ :=
  let (subscriptions, departure) := list.subscriptions.deregister key listener
  let list := { list with subscriptions }
  if departure.isLast then list.removeRefresh key else list

/-- Delivers the current record, unless something was delivered through the handle before. -/
def deliverInitial (list : Watchlist ρ ℓ) (handle : Handle ℓ) (record : ρ) :
    Watchlist ρ ℓ × List (Delivery ℓ ρ) :=
  if list.subscriptions.isReached handle then (list, [])
  else
    ({ list with subscriptions := list.subscriptions.markReached handle },
      [⟨handle, record, true⟩])

end Watchlist

end RegistrySession
