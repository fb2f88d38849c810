import RegistrySession.Session.Reconcile

/-!
# Replies

What a session does when the wait for a reply ends. A failure of background work changes nothing
and is not reported to anyone.
-/

namespace RegistrySession.Session

def absorb (session : Session) (kind : Kind) (record : kind.Record) : Session :=
  let (list, deliveries) := (session.watchlist kind).absorb record
  (session.setWatchlist kind list).deliver kind deliveries

/-- Ends a subscription with the current record. A listener that breaks down here takes the call
down with it. -/
def completeSubscription (session : Session) (owner : Owner) (kind : Kind)
    (handle : Handle Listener) (record : kind.Record) : Session :=
  let (list, deliveries) := (session.watchlist kind).deliverInitial handle record
  let session := (session.setWatchlist kind list).deliver kind deliveries
  if !deliveries.isEmpty && handle.listener.breaksDown then session.conclude owner .panicked
  else session.conclude owner (.done (.record kind record))

/-- Carries out the errand of a flight with the outcome of its request. -/
def resume (session : Session) (flight : Flight) (outcome : Outcome Answer) : Session :=
  let owner := flight.owner
  match flight.errand with
  | .handOn => session.conclude owner outcome
  | .confirm kind confirmation =>
    match outcome with
    | .done answer => (session.confirm kind confirmation).conclude owner (.done answer)
    | _ => session.conclude owner outcome
  | .subscribe kind handle =>
    match outcome with
    | .done answer =>
      match answer.record? kind with
      | some record =>
        (session.absorb kind record).completeSubscription owner kind handle record
      | none => session.conclude owner (.done .nothing)
    | .failed (.notFound _) => session.conclude owner (.done .nothing)
    | _ => session.conclude owner outcome
  | .refresh kind =>
    match outcome with
    | .done answer =>
      match answer.record? kind with
      | some record => (session.absorb kind record).conclude owner (.done .nothing)
      | none => session.conclude owner (.done .nothing)
    | .failed _ => session.conclude owner (.done .nothing)
    | .panicked => session.conclude owner .panicked
  | .reconcile kind confirmation remaining =>
    match outcome with
    | .done _ => (session.confirm kind confirmation).resumeReconcile owner kind remaining
    | _ => session.resumeReconcile owner kind remaining

/-- Notes the end of a wait and forgets the flight. -/
def land (session : Session) (id : Nat) (arrival : Arrival) : Session :=
  { session with
    flights := session.flights.filter fun other => other.id ≠ id
    credentialRefreshes :=
      session.credentialRefreshes + if arrival.deniesPermission then 1 else 0 }.note
    (.arrived id arrival)

@[simp]
theorem log_land (session : Session) (id : Nat) (arrival : Arrival) (kind : Kind) :
    (session.land id arrival).log kind = session.log kind := rfl

def arrive (session : Session) (id : Nat) (arrival : Arrival) : Session :=
  match session.flight? id with
  | none => session
  | some flight =>
    (session.land id arrival).resume flight (flight.request.demand.conclude arrival)

/-- A reply counts up to the deadline of its flight. -/
def reply (session : Session) (id : Nat) (reply : Reply) : Session :=
  match session.flight? id with
  | some flight =>
    if session.now ≤ flight.deadline then session.arrive id (.reply reply) else session
  | none => session

/-- From its deadline on a flight may be given up. -/
def expire (session : Session) (id : Nat) : Session :=
  match session.flight? id with
  | some flight =>
    if flight.deadline ≤ session.now then session.arrive id (.expired session.timeout)
    else session
  | none => session

end RegistrySession.Session
