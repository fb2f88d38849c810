import RegistrySession.Session.Call

/-!
# Moves of a session

Everything that can happen to a session, one thing at a time. A run is a list of moves in any
order; a move that is not due changes nothing.
-/

namespace RegistrySession

inductive Move
  | call (id : Nat) (call : Call)
  | reply (flight : Nat) (reply : Reply)
  | expire (flight : Nat)
  /-- The session takes one event off the feed. -/
  | receive
  /-- A task of a pool whose delay is over queues for a worker. -/
  | wake (pool : PoolName) (task : Nat)
  /-- The first task in the queue of a pool gets a worker. -/
  | start (pool : PoolName)
  | elapse (span : Millis)
  /-- The server, or the connection to it, changes. -/
  | setRunning (isRunning : Bool)
  | setSupport (kind : Kind) (support : Support)
  | announce (event : SessionEvent)
  | closeFeed
  /-- A log lists another of its entries first. -/
  | reorder (kind : Kind) (name : String)

namespace Session

/-- A session that does not listen any more takes nothing. -/
def receive (session : Session) : Session :=
  if !session.isWatching then session
  else match session.feed.receive? with
    | none => session
    | some (received, feed) =>
      { session with
        feed
        ledger := session.ledger.observeReceived received
        isWatching := received ≠ Received.closed }.note (.observed received)

def wake (session : Session) (pool : PoolName) (task : Nat) : Session :=
  match pool with
  | .refresh kind =>
    let list := session.watchlist kind
    session.setWatchlist kind { list with pool := list.pool.wake session.now task }
  | .reconcile => { session with reconciler := session.reconciler.wake session.now task }

/-- Starts a run: a refresh fetches the record of its key, the reconciler makes a pass. -/
def start (session : Session) : PoolName → Session
  | .refresh kind =>
    let list := session.watchlist kind
    match list.pool.start? with
    | none => session
    | some (pool, started) =>
      let session := session.setWatchlist kind { list with pool }
      match started with
      | none => session
      | some task =>
        session.send (.run (.refresh kind) task.id) (.refresh kind) (.query kind task.job)
  | .reconcile =>
    match session.reconciler.start? with
    | none => session
    | some (reconciler, started) =>
      let session := { session with reconciler }
      match started with
      | none => session
      | some task => session.startReconcile (.run .reconcile task.id)

def step (session : Session) : Move → Session
  | .call id call => session.call id call
  | .reply flight reply => session.reply flight reply
  | .expire flight => session.expire flight
  | .receive => session.receive
  | .wake pool task => session.wake pool task
  | .start pool => session.start pool
  | .elapse span => { session with now := session.now + span }
  | .setRunning isRunning => { session with link := { session.link with isRunning } }
  | .setSupport kind support =>
    { session with
      link := { session.link with support := session.link.support.set kind support } }
  | .announce event => { session with feed := session.feed.send event }
  | .closeFeed => { session with feed := session.feed.close }
  | .reorder kind name => session.modifyLog kind fun log => log.reorder name

def run (session : Session) (moves : List Move) : Session :=
  moves.foldl step session

end Session

end RegistrySession
