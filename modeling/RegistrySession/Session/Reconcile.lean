import RegistrySession.Session.State

/-!
# Reconciling

A pass goes through the entries with something left to do, first of agents and then of MCP
servers, and pushes them one after the other, each once the reply to the one before has come. It
takes the entries of a log as they are when it comes to that log, and asks once, at its start,
whether the session is online; offline it only removes what is settled. An entry that fails does
not keep the pass from the others.
-/

namespace RegistrySession.Session

/-- Goes through the remaining entries of one log until a request has to be waited for, and on to
`next` behind the last of them. -/
def reconcileLog (owner : Owner) (kind : Kind) (isOnline : Bool) (next : Session → Session) :
    List (String × Intent.Entry kind.Registration) → Session → Session
  | [], session => next session
  | (name, entry) :: remaining, session =>
    let current := (session.log kind).session
    match entry.action with
    | none => reconcileLog owner kind isOnline next remaining session
    | some .remove =>
      reconcileLog owner kind isOnline next remaining
        (session.modifyLog kind fun log => (log.prune name).1)
    | some .register =>
      if isOnline then
        session.send owner
          (.reconcile kind (.pushed name entry.desired current) remaining)
          (.register kind name entry.desired)
      else reconcileLog owner kind isOnline next remaining session
    | some .deregister =>
      if isOnline then
        match kind.primary? entry.desired with
        | some endpoint =>
          session.send owner (.reconcile kind (.withdrawn name current) remaining)
            (.withdraw kind name endpoint)
        | none =>
          reconcileLog owner kind isOnline next remaining
            (session.confirm kind (.withdrawn name current))
      else reconcileLog owner kind isOnline next remaining session

/-- The part of a pass that comes after the log of a kind. -/
def reconcileAfter (owner : Owner) (isOnline : Bool) (kind : Kind) (session : Session) : Session :=
  let finish (session : Session) := session.conclude owner (.done .nothing)
  match kind with
  | .agent => reconcileLog owner .mcp isOnline finish (session.log .mcp).pending session
  | .mcp => finish session

def startReconcile (session : Session) (owner : Owner) : Session :=
  let isOnline := session.isOnline
  reconcileLog owner .agent isOnline (reconcileAfter owner isOnline .agent)
    (session.log .agent).pending session

/-- Goes on behind a reply. Only a pass that found the session online waits for one. -/
def resumeReconcile (session : Session) (owner : Owner) (kind : Kind)
    (remaining : List (String × Intent.Entry kind.Registration)) : Session :=
  reconcileLog owner kind true (reconcileAfter owner true kind) remaining session

end RegistrySession.Session
