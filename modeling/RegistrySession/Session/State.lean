import RegistrySession.Config
import RegistrySession.Intent.Ledger
import RegistrySession.Watchlist
import RegistrySession.Wire

/-!
# The state of a session

A session is a state that moves on when something happens: a call of the application, a reply, the
end of a delay, an event of the connection. Whatever waits for a reply is a flight, which records
what is to be done with the reply, so that everything that goes on at the same time is in the
state and can interleave in any order.
-/

namespace RegistrySession

/-- A callback of the application, told apart by its label. Some break down when called. -/
structure Listener where
  label : String
  breaksDown : Bool := false
  deriving DecidableEq

inductive Support
  | supported
  | notSupported
  /-- Nothing was negotiated yet. -/
  | unknown
  deriving DecidableEq

namespace Support

def name : Support → String
  | .supported => "supported"
  | .notSupported => "not_supported"
  | .unknown => "unknown"

def ofName? (name : String) : Option Support :=
  [.supported, .notSupported, .unknown].find? fun support => support.name = name

end Support

/-- The connection as the transport sees it. -/
structure Link where
  isRunning : Bool := true
  support : PerKind (fun _ => Support) := ⟨.supported, .supported⟩

/-- Nothing is known of a server without a connection to it. -/
def Link.supportOf (link : Link) (kind : Kind) : Support :=
  if link.isRunning then link.support.get kind else .unknown

inductive PoolName
  | refresh (kind : Kind)
  | reconcile
  deriving DecidableEq

inductive Owner
  | call (id : Nat)
  | run (pool : PoolName) (task : Nat)
  deriving DecidableEq

/-- What is to be done with the outcome of a request. -/
inductive Errand
  | handOn
  | confirm (kind : Kind) (confirmation : Intent.Log.Confirmation kind.Registration)
  /-- The first fetch for a new subscription. -/
  | subscribe (kind : Kind) (handle : Handle Listener)
  | refresh (kind : Kind)
  /-- A reconciling pass, with the entries of the log that it has not come to yet. -/
  | reconcile (kind : Kind) (confirmation : Intent.Log.Confirmation kind.Registration)
    (remaining : List (String × Intent.Entry kind.Registration))

structure Flight where
  id : Nat
  owner : Owner
  errand : Errand
  request : Request
  deadline : Nat

/-- What a session did, or what happened to it. -/
inductive Note
  | sent (flight : Nat) (owner : Owner) (request : Request)
  | arrived (flight : Nat) (arrival : Arrival)
  | delivered (kind : Kind) (delivery : Delivery Listener kind.Record)
  | observed (received : Received)
  | finished (call : Nat) (outcome : Outcome Answer)

structure Session where
  space : String
  timeout : Millis
  now : Nat := 0
  link : Link := {}
  feed : Feed
  /-- The session listens to the feed. -/
  isWatching : Bool := true
  ledger : Intent.Ledger
  watchlists : PerKind (fun kind => Watchlist kind.Record Listener)
  reconciler : Pool Unit
  isShutdown : Bool := false
  flights : List Flight := []
  nextFlight : Nat := 0
  credentialRefreshes : Nat := 0
  /-- What went on so far, the newest first, with the time of each. -/
  journal : List (Nat × Note) := []

namespace Session

def watchlist (session : Session) (kind : Kind) : Watchlist kind.Record Listener :=
  session.watchlists.get kind

def setWatchlist (session : Session) (kind : Kind) (list : Watchlist kind.Record Listener) :
    Session :=
  { session with watchlists := session.watchlists.set kind list }

def log (session : Session) (kind : Kind) : Intent.Log kind.Registration :=
  session.ledger.log kind

def modifyLog (session : Session) (kind : Kind)
    (f : Intent.Log kind.Registration → Intent.Log kind.Registration) : Session :=
  { session with ledger := session.ledger.modifyLog kind f }

def confirm (session : Session) (kind : Kind)
    (confirmation : Intent.Log.Confirmation kind.Registration) : Session :=
  session.modifyLog kind fun log => log.confirm confirmation

/-- Both the events received and the transport say that the connection stands. -/
def isOnline (session : Session) : Bool :=
  session.ledger.isConnected && session.link.isRunning

def note (session : Session) (note : Note) : Session :=
  { session with journal := (session.now, note) :: session.journal }

def deliver (session : Session) (kind : Kind)
    (deliveries : List (Delivery Listener kind.Record)) : Session :=
  deliveries.foldl (fun session delivery => session.note (.delivered kind delivery)) session

/-- Sends a request and leaves a flight that waits for its reply. -/
def send (session : Session) (owner : Owner) (errand : Errand) (demand : Demand) : Session :=
  let request := { space := session.space, demand }
  let flight :=
    { id := session.nextFlight, owner, errand, request
      deadline := session.timeout.after session.now }
  { session with
    flights := session.flights ++ [flight]
    nextFlight := session.nextFlight + 1 }.note (.sent flight.id owner request)

def flight? (session : Session) (id : Nat) : Option Flight :=
  session.flights.find? fun flight => flight.id = id

def endRun (session : Session) (pool : PoolName) (task : Nat) : Session :=
  match pool with
  | .refresh kind =>
    let list := session.watchlist kind
    session.setWatchlist kind { list with pool := list.pool.finish session.now task }
  | .reconcile =>
    { session with reconciler := session.reconciler.finish session.now task }

/-- Gives the owner its outcome. What becomes of a run, no one asks. -/
def conclude (session : Session) (owner : Owner) (outcome : Outcome Answer) : Session :=
  match owner with
  | .call id => session.note (.finished id outcome)
  | .run pool task => session.endRun pool task

/-- A session without background work of its own. -/
def idle (space : String) (timeout : Millis) (link : Link) (isConnected : Bool)
    (watchlists : PerKind (fun kind => Watchlist kind.Record Listener)) (capacity : Nat) :
    Session where
  space
  timeout
  link
  feed := .ofCapacity capacity
  isWatching := false
  ledger := .ofConnected isConnected
  watchlists
  reconciler := .ofWorkers "redo" 1

/-- A session as an application opens it. It counts as connected if the transport says so, and
the reconciler is scheduled. -/
def ofConfig (config : Config) (link : Link) (feed : Feed) : Session :=
  let workers := config.refreshWorkers.toNat
  let reconciler : Pool Unit := .ofWorkers "redo" config.redoWorkers.toNat
  let delay := config.redoDelay.toNat
  { space := config.effectiveSpace
    timeout := config.effectiveTimeout
    link
    feed
    ledger := .ofConnected link.isRunning
    watchlists :=
      { agent := .ofPool (.ofWorkers "agent_card_refresh" workers)
          config.agentRefreshInterval.toNat
        mcp := .ofPool (.ofWorkers "mcp_server_refresh" workers) config.mcpRefreshInterval.toNat }
    reconciler := ((reconciler.schedule? 0 delay delay ()).map Prod.fst).getD reconciler }

/-! ## The logs after an update -/

@[simp]
theorem log_ofConfig (config : Config) (link : Link) (feed : Feed) (kind : Kind) :
    (ofConfig config link feed).log kind = .empty :=
  PerKind.get_ofFn _ kind

@[simp]
theorem log_modifyLog_self (session : Session) (kind : Kind)
    (f : Intent.Log kind.Registration → Intent.Log kind.Registration) :
    (session.modifyLog kind f).log kind = f (session.log kind) := by
  simp [modifyLog, log, Intent.Ledger.modifyLog, Intent.Ledger.setLog, Intent.Ledger.log]

theorem log_modifyLog_of_ne (session : Session) {kind other : Kind}
    (f : Intent.Log kind.Registration → Intent.Log kind.Registration) (h : other ≠ kind) :
    (session.modifyLog kind f).log other = session.log other := by
  simp [modifyLog, log, Intent.Ledger.modifyLog, Intent.Ledger.setLog, Intent.Ledger.log,
    PerKind.get_set_of_ne _ _ h]

@[simp]
theorem log_send (session : Session) (owner : Owner) (errand : Errand) (demand : Demand)
    (kind : Kind) : (session.send owner errand demand).log kind = session.log kind := rfl

end Session

end RegistrySession
