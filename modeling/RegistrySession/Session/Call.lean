import RegistrySession.Session.Reply

/-!
# Calls of the application

A call is checked first, and a call that is refused leaves no trace. Registering and deregistering
leave their intent in the log before they push anything, so that the intent outlives a push that
fails, and offline they leave the push to the reconciler.
-/

namespace RegistrySession

inductive Call
  | getAgent (name : String) (version registrationType : Option String)
  | getMcp (name : String) (version : Option String)
  | releaseAgent (card : Agent.Card) (registrationType : Option String) (setAsLatest : Bool)
  | releaseMcp (summary : Mcp.Summary) (toolSpec : Option Mcp.ToolSpec) (route : Option Mcp.Route)
  | register (kind : Kind) (name : String) (registration : kind.Registration)
  | deregisterAgent (name : String) (endpoint : Agent.Endpoint)
  | deregisterMcp (name address : String) (port : UInt16)
  | subscribe (kind : Kind) (name : String) (version : Option String) (listener : Listener)
  | unsubscribe (kind : Kind) (name : String) (version : Option String) (listener : Listener)
  | shutdown

namespace Session

def requireRunning (session : Session) : Except Error Unit :=
  if session.isShutdown then .error .shutdown else .ok ()

/-- Refused only if the server is known to lack the feature. -/
def requireSupport (session : Session) (kind : Kind) : Except Error Unit :=
  if session.link.supportOf kind = .notSupported then .error (.unsupported kind) else .ok ()

/-- The endpoint of an MCP server to deregister has the version of the one wanted last. -/
def mcpEndpoint (session : Session) (name address : String) (port : UInt16) : Mcp.Endpoint :=
  let version := ((session.log .mcp).find? name).bind fun entry => entry.desired.version
  { address, port, version }

/-- The checks of a call, in order. -/
def check (session : Session) : Call → Except Error Unit
  | .getAgent name .. => do
    session.requireRunning
    requireText .resourceName name
    session.requireSupport .agent
  | .getMcp name _ => do
    session.requireRunning
    requireText .resourceName name
    session.requireSupport .mcp
  | .releaseAgent card .. => do
    session.requireRunning
    card.validate
    session.requireSupport .agent
  | .releaseMcp summary .. => do
    session.requireRunning
    summary.validate
    session.requireSupport .mcp
  | .register kind name registration => do
    session.requireRunning
    requireText .resourceName name
    kind.validate registration
    session.requireSupport kind
  | .deregisterAgent name endpoint => do
    session.requireRunning
    requireText .resourceName name
    endpoint.validate
    session.requireSupport .agent
  | .deregisterMcp name address port => do
    session.requireRunning
    requireText .resourceName name
    (session.mcpEndpoint name address port).validate
    session.requireSupport .mcp
  | .subscribe kind name .. => do
    session.requireRunning
    requireText .resourceName name
    session.requireSupport kind
  | .unsubscribe _ name .. => requireText .resourceName name
  | .shutdown => .ok ()

/-- A blank registration type means the default one. -/
def registrationTypeOf (registrationType : Option String) : String :=
  (registrationType.filter fun given => !Text.isBlank given).getD Agent.defaultRegistrationType

def register (session : Session) (owner : Owner) (kind : Kind) (name : String)
    (registration : kind.Registration) : Session :=
  let session := session.modifyLog kind fun log => log.intendRegister name registration
  if session.isOnline then
    session.send owner (.confirm kind (.pushed name registration (session.log kind).session))
      (.register kind name registration)
  else session.conclude owner (.done .nothing)

/-- A name under which nothing is registered, or about to be, needs no request. -/
def deregister (session : Session) (owner : Owner) (kind : Kind) (name : String)
    (endpoint : kind.Endpoint) : Session :=
  let (log, isKnown) := (session.log kind).intendDeregister name
  if !isKnown then session.conclude owner (.done .nothing)
  else
    let session := session.modifyLog kind fun _ => log
    if session.isOnline then
      session.send owner (.confirm kind (.withdrawn name log.session))
        (.withdraw kind name endpoint)
    else session.conclude owner (.done .nothing)

/-- The watch is in place before the first fetch, and stays whatever becomes of the fetch. -/
def subscribe (session : Session) (owner : Owner) (kind : Kind) (key : Key)
    (listener : Listener) : Session :=
  match (session.watchlist kind).subscribe? session.now key listener with
  | none => session.conclude owner (.failed .shutdown)
  | some (list, handle) =>
    let session := session.setWatchlist kind list
    match list.find? key with
    | some record => session.completeSubscription owner kind handle record
    | none => session.send owner (.subscribe kind handle) (.query kind key)

def unsubscribe (session : Session) (kind : Kind) (key : Key) (listener : Listener) : Session :=
  session.setWatchlist kind ((session.watchlist kind).unsubscribe key listener)

/-- Drops the flights of runs in a pool. Calls that wait for a reply go on. -/
def cutOff (session : Session) (pool : PoolName) : Session :=
  { session with
    flights := session.flights.filter fun flight =>
      match flight.owner with
      | .call _ => true
      | .run other _ => other ≠ pool }

/-- Shuts the pool of a watchlist down, with all its runs. -/
def stopRefreshes (session : Session) (kind : Kind) : Session :=
  let list := session.watchlist kind
  (session.setWatchlist kind { list with pool := list.pool.shutdown }).cutOff (.refresh kind)

def stopReconciler (session : Session) : Session :=
  { session with reconciler := session.reconciler.shutdown }.cutOff .reconcile

/-- Shuts all pools down, and every task leaves at once. Events may still be taken off the feed, until
its watcher finds out. -/
def shutdown (session : Session) : Session :=
  if session.isShutdown then session
  else
    let session := { session with isShutdown := true }
    ((session.stopRefreshes .agent).stopRefreshes .mcp).stopReconciler

def perform (session : Session) (owner : Owner) : Call → Session
  | .getAgent name version registrationType =>
    session.send owner .handOn (.queryAgent (.of name version) registrationType)
  | .getMcp name version => session.send owner .handOn (.queryMcp (.of name version))
  | .releaseAgent card registrationType setAsLatest =>
    session.send owner .handOn
      (.releaseAgent card (registrationTypeOf registrationType) setAsLatest)
  | .releaseMcp summary toolSpec route =>
    session.send owner .handOn (.releaseMcp summary toolSpec route)
  | .register kind name registration => session.register owner kind name registration
  | .deregisterAgent name endpoint => session.deregister owner .agent name endpoint
  | .deregisterMcp name address port =>
    session.deregister owner .mcp name (session.mcpEndpoint name address port)
  | .subscribe kind name version listener =>
    session.subscribe owner kind (.of name version) listener
  | .unsubscribe kind name version listener =>
    (session.unsubscribe kind (.of name version) listener).conclude owner (.done .nothing)
  | .shutdown => session.shutdown.conclude owner (.done .nothing)

/-- A call with the number under which its outcome is noted. -/
def call (session : Session) (id : Nat) (call : Call) : Session :=
  match session.check call with
  | .ok () => session.perform (.call id) call
  | .error error => session.conclude (.call id) (.failed error)

end Session

end RegistrySession
