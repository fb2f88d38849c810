import RegistrySession.Rehearsal.Chronology
import RegistrySession.Rehearsal.Server

/-!
# Rehearsals in virtual time

A session and a scripted server on a clock that stands still while anything can go on, and jumps
to the next moment at which something is due when nothing can. What is due at one moment comes in
the order in which the waiting began, and goes on as far as it can before the next; of one request,
the reply goes before the deadline.
-/

namespace RegistrySession.Rehearsal

/-- Something that waits for a moment: a flight for its reply or its deadline, or a task of a pool
for the end of its sleep. -/
inductive Alarm
  | flight (id : Nat)
  | task (pool : PoolName) (id wakeUp : Nat)
  deriving DecidableEq

structure Stage where
  session : Session
  server : Server := {}
  pending : List Pending := []
  /-- The server has seen all flights below this number. -/
  seen : Nat := 0
  nextCall : Nat := 0
  /-- The numbers of the calls that run in the background, by their labels. -/
  background : List (String × Nat) := []
  /-- In the order in which they were set. -/
  alarms : List Alarm := []

namespace Stage

def now (stage : Stage) : Nat := stage.session.now

def move (stage : Stage) (move : Move) : Stage :=
  { stage with session := stage.session.step move }

def changeServer (stage : Stage) (change : Server → Server) : Stage :=
  { stage with server := change stage.server }

def answer (stage : Stage) (pending : Pending) : Stage :=
  let reply := pending.reply.getD (stage.server.usualReply pending.demand)
  let stage := { stage with pending := stage.pending.filter (·.flight ≠ pending.flight) }
  stage.move (.reply pending.flight reply)

/-- The server takes a request: without a connection it fails at once, else the first rule that
covers it says how long it takes. What takes no time is answered before anything else goes on. -/
def intake (stage : Stage) (flight : Flight) : Stage :=
  let demand := flight.request.demand
  let add (delay : Millis) (reply : Option Reply) (server : Server) : Stage :=
    let pending : Pending := { flight := flight.id, due := delay.after stage.now, demand, reply }
    let stage : Stage :=
      { stage with server, pending := stage.pending ++ [pending], seen := flight.id + 1 }
    if pending.due ≤ stage.now then stage.answer pending else stage
  if !stage.session.link.isRunning then
    add 0 (some (.failure (.transport "session is down"))) stage.server
  else match takeRule demand stage.server.rules with
    | some (rule, rules) => add rule.delay rule.reply { stage.server with rules }
    | none => add 0 none stage.server

def pools : List PoolName := [.refresh .agent, .refresh .mcp, .reconcile]

def sleepers (session : Session) : PoolName → List (Nat × Nat)
  | .refresh kind => (session.watchlist kind).pool.sleepers
  | .reconcile => session.reconciler.sleepers

/-- The first task that waits for a worker of a pool. -/
def firstWaiting? (session : Session) : PoolName → Option Nat
  | .refresh kind => (session.watchlist kind).pool.queue.head?
  | .reconcile => session.reconciler.queue.head?

/-- Whether a pool has both a worker that is free and a task that waits for one. -/
def canStart (session : Session) : PoolName → Bool
  | .refresh kind => (session.watchlist kind).pool.start?.isSome
  | .reconcile => session.reconciler.start?.isSome

/-- Sets the alarms of all that waits, and forgets the requests for whose replies nobody waits
any more. -/
def attend (stage : Stage) : Stage :=
  let flights := stage.session.flights.map fun flight => Alarm.flight flight.id
  let tasks := pools.flatMap fun pool =>
    (sleepers stage.session pool).map fun (id, wakeUp) => Alarm.task pool id wakeUp
  { stage with
    pending := stage.pending.filter fun pending => (stage.session.flight? pending.flight).isSome
    alarms := inOrderSet stage.alarms (flights ++ tasks) }

/-- A task that wakes up gets a worker at once, if one is free and no other task waits for it. -/
def rouse (stage : Stage) (pool : PoolName) (task : Nat) : Stage :=
  let stage := stage.move (.wake pool task)
  if firstWaiting? stage.session pool = some task then stage.move (.start pool) else stage

/-- Lets an alarm ring, if it is due. -/
def ring? (stage : Stage) : Alarm → Option Stage
  | .flight id =>
    match stage.pending.find? fun pending => pending.flight = id ∧ pending.due ≤ stage.now with
    | some pending => some (stage.answer pending)
    | none =>
      if (stage.session.flight? id).any fun flight => flight.deadline ≤ stage.now then
        some (stage.move (.expire id))
      else none
  | .task pool id wakeUp => if wakeUp ≤ stage.now then some (stage.rouse pool id) else none

/-- Does the next piece of work that is due now. Nothing if there is none. -/
def work? (stage : Stage) : Option Stage :=
  let session := stage.session
  match session.flights.find? fun flight => stage.seen ≤ flight.id with
  | some flight => some (stage.intake flight)
  | none =>
    match stage.alarms.findSome? stage.ring? with
    | some next => some next
    | none =>
      let isListening := session.isWatching && !session.isShutdown
      if isListening && session.feed.receive?.isSome then some (stage.move .receive)
      else (pools.find? (canStart session)).map fun pool => stage.move (.start pool)

/-- How many pieces of work are done at one moment, at most. -/
def workLimit : Nat := 10000000

/-- Does everything that is due now. -/
def settleWithin : Nat → Stage → Stage
  | 0, stage => stage
  | fuel + 1, stage =>
    let stage := stage.attend
    match stage.work? with
    | some next => settleWithin fuel next
    | none => stage

def settle (stage : Stage) : Stage := settleWithin workLimit stage

def nextTime? (stage : Stage) : Option Nat :=
  let wakes := pools.flatMap fun pool => (sleepers stage.session pool).map Prod.snd
  (wakes ++ stage.pending.map Pending.due ++ stage.session.flights.map Flight.deadline).min?

def jump (stage : Stage) (time : Nat) : Stage :=
  stage.move (.elapse (time - stage.now))

/-- Goes on up to a moment, which is at most `fuel` milliseconds away. -/
def advanceWithin : Nat → Nat → Stage → Stage
  | 0, _, stage => stage
  | fuel + 1, target, stage =>
    let stage := stage.settle
    match stage.nextTime? with
    | some time =>
      if time ≤ target then advanceWithin fuel target (stage.jump (max time (stage.now + 1)))
      else stage.jump target
    | none => stage.jump target

def advance (stage : Stage) (span : Millis) : Stage :=
  let target := span.after stage.now
  (advanceWithin (target - stage.now + 1) target stage).settle

def isUnfinished (stage : Stage) (call : Nat) : Bool :=
  stage.session.flights.any fun flight => flight.owner = .call call

/-- How often the clock jumps while a call is waited for, at most. -/
def patience : Nat := 1000000000

def awaitWithin : Nat → Nat → Stage → Stage
  | 0, _, stage => stage
  | fuel + 1, call, stage =>
    let stage := stage.settle
    if stage.isUnfinished call then
      match stage.nextTime? with
      | some time => awaitWithin fuel call (stage.jump (max time (stage.now + 1)))
      | none => stage
    else stage

/-- Goes on until a call has its outcome, and does what else is due then. -/
def await (stage : Stage) (call : Nat) : Stage := awaitWithin patience call stage

/-- Starts a call, given by what it does to the session under its number. -/
def begin (stage : Stage) (action : Session → Nat → Session) : Stage × Nat :=
  let call := stage.nextCall
  ({ stage with session := action stage.session call, nextCall := call + 1 }, call)

def beginBackground (stage : Stage) (label : String) (action : Session → Nat → Session) : Stage :=
  let (stage, call) := stage.begin action
  { stage with background := (label, call) :: stage.background }.settle

end Stage

end RegistrySession.Rehearsal
