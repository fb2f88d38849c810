import RegistrySession.Watchlist

/-!
# Threads on a watchlist

A watchlist as several threads use it at the same time.  To store a record and to tell the listeners
takes a thread many steps, and no lock is held from one to the next, so that those of other threads
may come between any two of them.  A single step fills one slot, reads one slot or the listeners of
one key, marks one handle, or calls one listener.
-/

namespace RegistrySession

namespace Thread

/-- What a thread does next. -/
inductive Point (ρ ℓ : Type)
  /-- A subscription looks for a record at hand. -/
  | look (key : Key)
  /-- There was none, and the first fetch is under way. -/
  | wait (key : Key)
  /-- A fetched record goes into its own slot. -/
  | store (record : ρ)
  /-- It goes into the latest slot next, unless it is marked as not the latest. -/
  | storeLatest (record : ρ) (previous : Option ρ)
  /-- The listeners of some keys are told, one key after the other. -/
  | tell (record : ρ) (keys : List Key)
  /-- The next of the listeners that are left of a key is marked, and then called. -/
  | mark (record : ρ) (handles : List (Handle ℓ)) (keys : List Key)
  | call (record : ρ) (handle : Handle ℓ) (handles : List (Handle ℓ)) (keys : List Key)
  /-- A subscription marks its handle, unless that was done before, and then calls its listener. -/
  | offer (handle : Handle ℓ) (record : ρ)
  | hand (handle : Handle ℓ) (record : ρ)
  /-- The thread is through, with the record that a subscription returns. -/
  | done (found : Option ρ)

end Thread

structure Thread (ρ ℓ : Type) where
  subscriber : Option (Handle ℓ)
  point : Thread.Point ρ ℓ

/-- What a step of a thread leads to: the watchlist after it, the listener that it called, and where
the thread is then. -/
structure Thread.Stride (ρ ℓ : Type) where
  list : Watchlist ρ ℓ
  call : Option (Delivery ℓ ρ) := none
  point : Thread.Point ρ ℓ

/-- A watchlist with the calls of its listeners so far, the newest first, and the threads that are
at work on it. -/
structure Shared (ρ ℓ : Type) where
  list : Watchlist ρ ℓ
  deliveries : List (Delivery ℓ ρ) := []
  threads : List (Thread ρ ℓ) := []

variable {ρ ℓ : Type}

namespace Thread

/-- A subscription hands its record over in the end. -/
def last (subscriber : Option (Handle ℓ)) (record : ρ) : Point ρ ℓ :=
  match subscriber with
  | some handle => .offer handle record
  | none => .done none

/-- The keys whose listeners hear of a record that is in its slots, by what these held before. -/
def audience [Resource ρ] (record : ρ) (previous latest : Option ρ) : List Key :=
  let key := Resource.key record
  let changed := Resource.changed record previous
  let moved := latest.any fun held => Resource.key held ≠ key
  (if changed then [key] else []) ++
    if Resource.isLatest record && (changed || moved) then [key.asLatest] else []

/-- A thread that waits for a fetch, or that is through, stays where it is. -/
def step [Resource ρ] (thread : Thread ρ ℓ) (list : Watchlist ρ ℓ) : Stride ρ ℓ :=
  match thread.point with
  | .look key =>
    match list.find? key with
    | some record => { list, point := last thread.subscriber record }
    | none => { list, point := .wait key }
  | .wait key => { list, point := .wait key }
  | .store record =>
    let key := Resource.key record
    { list := { list with records := list.records.insert key record }
      point := .storeLatest record (list.find? key) }
  | .storeLatest record previous =>
    let key := (Resource.key record).asLatest
    if Resource.isLatest record then
      { list := { list with records := list.records.insert key record }
        point := .tell record (audience record previous (list.find? key)) }
    else { list, point := .tell record (audience record previous none) }
  | .tell record [] => { list, point := last thread.subscriber record }
  | .tell record (key :: keys) =>
    { list, point := .mark record (list.subscriptions.handlesOf key) keys }
  | .mark record [] keys => { list, point := .tell record keys }
  | .mark record (handle :: handles) keys =>
    { list := { list with subscriptions := list.subscriptions.markReached handle }
      point := .call record handle handles keys }
  | .call record handle handles keys =>
    { list, call := some ⟨handle, record, false⟩, point := .mark record handles keys }
  | .offer handle record =>
    if list.subscriptions.isReached handle then { list, point := .done (some record) }
    else
      { list := { list with subscriptions := list.subscriptions.markReached handle }
        point := .hand handle record }
  | .hand handle record =>
    { list, call := some ⟨handle, record, true⟩, point := .done (some record) }
  | .done found => { list, point := .done found }

end Thread

namespace Shared

inductive Act (ρ ℓ : Type)
  | subscribe (now : Nat) (key : Key) (listener : ℓ)
  | unsubscribe (key : Key) (listener : ℓ)
  /-- A refresh has fetched a record, and goes on with it. -/
  | refresh (record : ρ)
  /-- The first fetch of a subscription is over, with a record or without one. -/
  | fetch (thread : Nat) (found : Option ρ)
  /-- A thread makes a step. -/
  | step (thread : Nat)

def Act.fetched? : Act ρ ℓ → Option ρ
  | .refresh record => some record
  | .fetch _ found => found
  | _ => none

def isIdle (shared : Shared ρ ℓ) : Bool :=
  shared.threads.all fun thread =>
    match thread.point with
    | .done _ => true
    | _ => false

/-- A thread has made a stride. -/
def advance (shared : Shared ρ ℓ) (index : Nat) (subscriber : Option (Handle ℓ))
    (stride : Thread.Stride ρ ℓ) : Shared ρ ℓ where
  list := stride.list
  deliveries := stride.call.toList ++ shared.deliveries
  threads := shared.threads.set index { subscriber, point := stride.point }

/-- A fetch comes to those that wait for it. -/
def fetch (shared : Shared ρ ℓ) (index : Nat) (found : Option ρ) : Shared ρ ℓ :=
  match shared.threads[index]? with
  | some { subscriber, point := .wait _ } =>
    match found with
    | some record => shared.advance index subscriber { list := shared.list, point := .store record }
    | none => shared.advance index subscriber { list := shared.list, point := .done none }
  | _ => shared

variable [Resource ρ]

/-- A thread makes a step, if there is such a thread. -/
def step (shared : Shared ρ ℓ) (index : Nat) : Shared ρ ℓ :=
  match shared.threads[index]? with
  | some thread => shared.advance index thread.subscriber (thread.step shared.list)
  | none => shared

variable [DecidableEq ℓ]

def act (shared : Shared ρ ℓ) : Act ρ ℓ → Shared ρ ℓ
  | .subscribe now key listener =>
    match shared.list.subscribe? now key listener with
    | none => shared
    | some (list, handle) =>
      { shared with list, threads := shared.threads ++ [⟨some handle, .look key⟩] }
  | .unsubscribe key listener => { shared with list := shared.list.unsubscribe key listener }
  | .refresh record => { shared with threads := shared.threads ++ [⟨none, .store record⟩] }
  | .fetch index found => shared.fetch index found
  | .step index => shared.step index

def run (shared : Shared ρ ℓ) (acts : List (Act ρ ℓ)) : Shared ρ ℓ :=
  acts.foldl act shared

end Shared

end RegistrySession
