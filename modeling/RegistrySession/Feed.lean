/-!
# The feed of session events

A feed holds the events that its reader has not taken yet, but no more than its capacity. A reader
that falls behind loses the oldest ones, is told so once, and goes on with those still held.
-/

namespace RegistrySession

inductive SessionEvent
  | connected
  | disconnected
  deriving DecidableEq

def SessionEvent.ofName? : String → Option SessionEvent
  | "connected" => some .connected
  | "disconnected" => some .disconnected
  | _ => none

structure Feed where
  capacity : Nat
  held : List SessionEvent := []
  /-- Events were lost and the reader has not been told. -/
  hasLost : Bool := false
  isClosed : Bool := false

inductive Received
  | event (event : SessionEvent)
  /-- Events were lost. -/
  | lagged
  /-- No more events will come. -/
  | closed
  deriving DecidableEq

namespace Feed

def ofCapacity (capacity : Nat) : Feed := { capacity }

/-- Nothing is sent on a feed that is closed. -/
def send (feed : Feed) (event : SessionEvent) : Feed :=
  if feed.isClosed then feed
  else
    let held := feed.held ++ [event]
    if feed.capacity < held.length then
      { feed with held := held.drop (held.length - feed.capacity), hasLost := true }
    else { feed with held }

def close (feed : Feed) : Feed :=
  { feed with isClosed := true }

/-- Nothing if the reader has to wait. -/
def receive? (feed : Feed) : Option (Received × Feed) :=
  if feed.hasLost then some (.lagged, { feed with hasLost := false })
  else match feed.held with
    | event :: rest => some (.event event, { feed with held := rest })
    | [] => if feed.isClosed then some (.closed, feed) else none

end Feed

end RegistrySession
