import RegistrySession.Key
import RegistrySession.Table

/-!
# Subscriptions

The listeners of each key. A listener that is registered on a key gets a handle, and a handle
remembers whether anything was delivered through it. A key has at most one handle for each
listener, in order of registration, and is dropped with its last one.
-/

namespace RegistrySession

universe u v w

structure Handle (ℓ : Type u) where
  id : Nat
  listener : ℓ
  deriving DecidableEq

structure Subscriptions (ℓ : Type u) where
  handles : Table Key (List (Handle ℓ)) := .empty
  /-- The handles through which something was delivered. -/
  reached : List Nat := []
  /-- No handle has this number or a greater one. -/
  next : Nat := 0

namespace Subscriptions

variable {ℓ : Type u}

def empty : Subscriptions ℓ := {}

def handlesOf (subscriptions : Subscriptions ℓ) (key : Key) : List (Handle ℓ) :=
  (subscriptions.handles.find? key).getD []

def count (subscriptions : Subscriptions ℓ) (key : Key) : Nat :=
  (subscriptions.handlesOf key).length

def isSubscribed (subscriptions : Subscriptions ℓ) (key : Key) : Bool :=
  !(subscriptions.handlesOf key).isEmpty

def isReached (subscriptions : Subscriptions ℓ) (handle : Handle ℓ) : Bool :=
  subscriptions.reached.contains handle.id

def markReached (subscriptions : Subscriptions ℓ) (handle : Handle ℓ) : Subscriptions ℓ :=
  if subscriptions.isReached handle then subscriptions
  else { subscriptions with reached := handle.id :: subscriptions.reached }

variable [DecidableEq ℓ]

def handle? (subscriptions : Subscriptions ℓ) (key : Key) (listener : ℓ) : Option (Handle ℓ) :=
  (subscriptions.handlesOf key).find? fun handle => handle.listener = listener

/-- A listener that is registered on the key already keeps its handle. -/
def register (subscriptions : Subscriptions ℓ) (key : Key) (listener : ℓ) :
    Subscriptions ℓ × Handle ℓ :=
  match subscriptions.handle? key listener with
  | some handle => (subscriptions, handle)
  | none =>
    let handle := ⟨subscriptions.next, listener⟩
    ({ subscriptions with
        handles := subscriptions.handles.insert key (subscriptions.handlesOf key ++ [handle])
        next := subscriptions.next + 1 }, handle)

/-- Lists a key, with nobody under it if it is new. -/
def enter (subscriptions : Subscriptions ℓ) (key : Key) : Subscriptions ℓ :=
  match subscriptions.handles.find? key with
  | some _ => subscriptions
  | none => { subscriptions with handles := subscriptions.handles.insert key [] }

/-- Drops a key that is listed with nobody under it. -/
def vacate (subscriptions : Subscriptions ℓ) (key : Key) : Subscriptions ℓ :=
  match subscriptions.handles.find? key with
  | some [] => { subscriptions with handles := subscriptions.handles.erase key }
  | _ => subscriptions

/-- Registers only after a preparation that may fail. The key is listed while the preparation goes
on, and dropped again if it fails and the key was new. -/
def attempt {ε : Type v} {σ : Type w} (subscriptions : Subscriptions ℓ) (key : Key) (listener : ℓ)
    (preparation : Except ε σ) : Subscriptions ℓ × Except ε (σ × Handle ℓ) :=
  let entered := subscriptions.enter key
  match preparation with
  | .error error => (entered.vacate key, .error error)
  | .ok made =>
    let (registered, handle) := entered.register key listener
    (registered, .ok (made, handle))

/-- Hands on what the preparation made, with the subscriptions if there are new ones. -/
def tryRegister {ε : Type v} {σ : Type w} (subscriptions : Subscriptions ℓ) (key : Key)
    (listener : ℓ) (preparation : Except ε σ) : Except ε (σ × Subscriptions ℓ × Handle ℓ) :=
  match subscriptions.attempt key listener preparation with
  | (_, .error error) => .error error
  | (registered, .ok (made, handle)) => .ok (made, registered, handle)

/-- What taking a listener off a key leads to. -/
structure Departure where
  /-- The key has no listener afterwards. -/
  isVacant : Bool
  /-- It was this departure that took the last listener. -/
  isLast : Bool
  deriving DecidableEq

def deregister (subscriptions : Subscriptions ℓ) (key : Key) (listener : ℓ) :
    Subscriptions ℓ × Departure :=
  match subscriptions.handles.find? key with
  | none => (subscriptions, ⟨true, false⟩)
  | some handles =>
    let remaining := handles.filter fun handle => handle.listener ≠ listener
    if remaining.isEmpty then
      ({ subscriptions with handles := subscriptions.handles.erase key }, ⟨true, true⟩)
    else
      ({ subscriptions with handles := subscriptions.handles.insert key remaining },
        ⟨false, false⟩)

end Subscriptions

end RegistrySession
