import RegistrySession.Feed
import RegistrySession.Intent.Log
import RegistrySession.Resource

/-!
# The ledger of a session

The intent logs of both kinds, and what is known of the connection from the events received.
-/

namespace RegistrySession.Intent

structure Ledger where
  isConnected : Bool
  logs : PerKind (fun kind => Log kind.Registration)

namespace Ledger

def ofConnected (isConnected : Bool) : Ledger :=
  ⟨isConnected, .ofFn fun _ => .empty⟩

def log (ledger : Ledger) (kind : Kind) : Log kind.Registration :=
  ledger.logs.get kind

def setLog (ledger : Ledger) (kind : Kind) (log : Log kind.Registration) : Ledger :=
  { ledger with logs := ledger.logs.set kind log }

def modifyLog (ledger : Ledger) (kind : Kind)
    (f : Log kind.Registration → Log kind.Registration) : Ledger :=
  ledger.setLog kind (f (ledger.log kind))

/-- A disconnection ends the session of both logs. -/
def observe (ledger : Ledger) : SessionEvent → Ledger
  | .connected => { ledger with isConnected := true }
  | .disconnected =>
    { isConnected := false
      logs := .ofFn fun kind => (ledger.log kind).loseSession }

/-- Lost events may have included a disconnection. A closed feed changes nothing. -/
def observeReceived (ledger : Ledger) : Received → Ledger
  | .event event => ledger.observe event
  | .lagged => ledger.observe .disconnected
  | .closed => ledger

end Ledger

end RegistrySession.Intent
