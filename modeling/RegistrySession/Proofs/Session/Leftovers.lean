import RegistrySession.Proofs.Intent.Pruning
import RegistrySession.Proofs.Session.Course

/-!
# Sessions without their leftovers

A settled entry is a leftover in the log, and a pass may have one with it that it found when it came
to the log.  A session is looked at without the leftovers of certain names.  Nothing but a call that
registers or deregisters one of the names tells the session from the one without them: a pass only
prunes what is settled.
-/

namespace RegistrySession

open Intent (Entry Operation)

/-- The names, of each kind, whose leftovers are left out. -/
abbrev Leftovers : Type := Kind → String → Bool

def Intent.Ledger.without (ledger : Intent.Ledger) (gone : Leftovers) : Intent.Ledger :=
  { ledger with logs := .ofFn fun kind => (ledger.log kind).without (gone kind) }

/-- A pass does not come to what is left out. -/
def Errand.without (gone : Leftovers) : Errand → Errand
  | .reconcile kind confirmation remaining =>
    .reconcile kind confirmation
      (remaining.filter fun entry => !entry.2.isGone (gone kind) entry.1)
  | errand => errand

def Flight.without (flight : Flight) (gone : Leftovers) : Flight :=
  { flight with errand := flight.errand.without gone }

namespace Intent.Ledger

variable {ledger other : Ledger} {gone : Leftovers}

theorem ext_log (hconnected : ledger.isConnected = other.isConnected)
    (hlog : ∀ kind, ledger.log kind = other.log kind) : ledger = other := by
  obtain ⟨connected, ⟨agent, mcp⟩⟩ := ledger
  obtain ⟨_, ⟨otherAgent, otherMcp⟩⟩ := other
  obtain rfl : connected = _ := hconnected
  obtain rfl : agent = otherAgent := hlog .agent
  obtain rfl : mcp = otherMcp := hlog .mcp
  rfl

@[simp]
theorem log_without (ledger : Ledger) (gone : Leftovers) (kind : Kind) :
    (ledger.without gone).log kind = (ledger.log kind).without (gone kind) :=
  PerKind.get_ofFn _ kind

@[simp]
theorem without_without (ledger : Ledger) (gone : Leftovers) :
    (ledger.without gone).without gone = ledger.without gone :=
  ext_log rfl fun kind => by simp

theorem log_observe_disconnected (ledger : Ledger) (kind : Kind) :
    (ledger.observe .disconnected).log kind = (ledger.log kind).loseSession :=
  PerKind.get_ofFn _ kind

/-- What is received settles entries alike whether or not leftovers stand beside them. -/
theorem without_observeReceived (ledger : Ledger) (gone : Leftovers) (received : Received) :
    (ledger.observeReceived received).without gone =
      ((ledger.without gone).observeReceived received).without gone := by
  have hlose : (ledger.observe .disconnected).without gone =
      ((ledger.without gone).observe .disconnected).without gone := by
    refine ext_log rfl fun kind => ?_
    rw [log_without, log_without, log_observe_disconnected, log_observe_disconnected, log_without]
    exact Log.without_apply (ledger.log kind) (gone kind) .loseSession fun _ => rfl
  cases received with
  | event event =>
    cases event with
    | connected =>
      refine ext_log rfl fun kind => ?_
      have hlog : ∀ ledger : Ledger, (ledger.observe .connected).log kind = ledger.log kind :=
        fun _ => rfl
      rw [observeReceived, observeReceived, log_without, log_without, hlog, hlog, log_without,
        Log.without_without]
    | disconnected => exact hlose
  | lagged => exact hlose
  | closed => exact (without_without ledger gone).symm

end Intent.Ledger

@[simp]
theorem Errand.without_without (errand : Errand) (gone : Leftovers) :
    (errand.without gone).without gone = errand.without gone := by
  cases errand with
  | reconcile kind confirmation remaining =>
    simp only [without, List.filter_filter, Bool.and_self]
  | _ => rfl

@[simp]
theorem Flight.without_without (flight : Flight) (gone : Leftovers) :
    (flight.without gone).without gone = flight.without gone := by
  simp only [without, Errand.without_without]

namespace Session

variable {session : Session} {gone : Leftovers}

def without (session : Session) (gone : Leftovers) : Session :=
  { session with
    ledger := session.ledger.without gone
    flights := session.flights.map fun flight => flight.without gone }

@[simp]
theorem without_without (session : Session) (gone : Leftovers) :
    (session.without gone).without gone = session.without gone := by
  simp only [without, Intent.Ledger.without_without, List.map_map]
  congr 1
  apply List.map_congr_left
  intro flight _
  exact flight.without_without gone

@[simp]
theorem log_without (session : Session) (gone : Leftovers) (kind : Kind) :
    (session.without gone).log kind = (session.log kind).without (gone kind) :=
  session.ledger.log_without gone kind

@[simp]
theorem watchlist_without (session : Session) (gone : Leftovers) (kind : Kind) :
    (session.without gone).watchlist kind = session.watchlist kind := rfl

@[simp]
theorem isOnline_without (session : Session) (gone : Leftovers) :
    (session.without gone).isOnline = session.isOnline := rfl

@[simp]
theorem without_note (session : Session) (gone : Leftovers) (note : Note) :
    (session.note note).without gone = (session.without gone).note note := rfl

@[simp]
theorem without_setWatchlist (session : Session) (gone : Leftovers) (kind : Kind)
    (list : Watchlist kind.Record Listener) :
    (session.setWatchlist kind list).without gone =
      (session.without gone).setWatchlist kind list := rfl

@[simp]
theorem without_conclude (session : Session) (gone : Leftovers) (owner : Owner)
    (outcome : Outcome Answer) :
    (session.conclude owner outcome).without gone =
      (session.without gone).conclude owner outcome := by
  rcases owner with id | ⟨_ | _, task⟩ <;> rfl

@[simp]
theorem without_deliver (session : Session) (gone : Leftovers) (kind : Kind)
    (deliveries : List (Delivery Listener kind.Record)) :
    (session.deliver kind deliveries).without gone =
      (session.without gone).deliver kind deliveries := by
  induction deliveries generalizing session with
  | nil => rfl
  | cons delivery deliveries ih => exact ih (session.note (.delivered kind delivery))

@[simp]
theorem without_absorb (session : Session) (gone : Leftovers) (kind : Kind)
    (record : kind.Record) :
    (session.absorb kind record).without gone = (session.without gone).absorb kind record := by
  simp only [absorb, without_deliver, without_setWatchlist, watchlist_without]

@[simp]
theorem without_completeSubscription (session : Session) (gone : Leftovers) (owner : Owner)
    (kind : Kind) (handle : Handle Listener) (record : kind.Record) :
    (session.completeSubscription owner kind handle record).without gone =
      (session.without gone).completeSubscription owner kind handle record := by
  simp only [completeSubscription, apply_ite fun session : Session => session.without gone,
    without_conclude, without_deliver, without_setWatchlist, watchlist_without]
  rfl

@[simp]
theorem without_send (session : Session) (gone : Leftovers) (owner : Owner) (errand : Errand)
    (demand : Demand) :
    (session.send owner errand demand).without gone =
      (session.without gone).send owner (errand.without gone) demand := by
  simp only [send, without_note]
  simp only [without, List.map_append]
  rfl

@[simp]
theorem without_land (session : Session) (gone : Leftovers) (id : Nat) (arrival : Arrival) :
    (session.land id arrival).without gone = (session.without gone).land id arrival := by
  simp only [land, without_note]
  simp only [without, List.filter_map]
  rfl

@[simp]
theorem flight?_without (session : Session) (gone : Leftovers) (id : Nat) :
    (session.without gone).flight? id =
      (session.flight? id).map fun flight => flight.without gone :=
  List.find?_map ..

@[simp]
theorem without_cutOff (session : Session) (gone : Leftovers) (pool : PoolName) :
    (session.cutOff pool).without gone = (session.without gone).cutOff pool := by
  simp only [cutOff, without, List.filter_map]
  rfl

@[simp]
theorem without_stopRefreshes (session : Session) (gone : Leftovers) (kind : Kind) :
    (session.stopRefreshes kind).without gone = (session.without gone).stopRefreshes kind := by
  simp only [stopRefreshes, without_cutOff, without_setWatchlist, watchlist_without]

@[simp]
theorem without_stopReconciler (session : Session) (gone : Leftovers) :
    session.stopReconciler.without gone = (session.without gone).stopReconciler :=
  without_cutOff { session with reconciler := session.reconciler.shutdown } gone .reconcile

@[simp]
theorem without_shutdown (session : Session) (gone : Leftovers) :
    session.shutdown.without gone = (session.without gone).shutdown := by
  have hisShutdown : (session.without gone).isShutdown = session.isShutdown := rfl
  unfold shutdown
  rw [hisShutdown]
  cases session.isShutdown with
  | true => rfl
  | false =>
    simp only [Bool.false_eq_true, if_false, without_stopReconciler, without_stopRefreshes]
    rfl

@[simp]
theorem without_subscribe (session : Session) (gone : Leftovers) (owner : Owner) (kind : Kind)
    (key : Key) (listener : Listener) :
    (session.subscribe owner kind key listener).without gone =
      (session.without gone).subscribe owner kind key listener := by
  simp only [subscribe, watchlist_without]
  have hnow : (session.without gone).now = session.now := rfl
  rw [hnow]
  cases (session.watchlist kind).subscribe? session.now key listener with
  | none => exact without_conclude session gone owner (.failed .shutdown)
  | some subscribed =>
    obtain ⟨list, handle⟩ := subscribed
    cases hfound : list.find? key with
    | none =>
      simp only [hfound]
      exact without_send (session.setWatchlist kind list) gone owner _ _
    | some record =>
      simp only [hfound]
      exact without_completeSubscription (session.setWatchlist kind list) gone owner kind handle
        record

/-! ## Operations on the logs -/

theorem without_setLedger (session : Session) (gone : Leftovers) {ledger other : Intent.Ledger}
    (hledger : ledger.without gone = other.without gone) :
    ({ session with ledger } : Session).without gone =
      ({ session.without gone with ledger := other } : Session).without gone := by
  have hflights := congrArg Session.flights (session.without_without gone)
  unfold without at hflights ⊢
  simp only at hflights ⊢
  rw [hledger, hflights]

/-- A change of one log that need not see what is gone from it. -/
theorem without_modifyLog (session : Session) (gone : Leftovers) (kind : Kind)
    {f : Intent.Log kind.Registration → Intent.Log kind.Registration}
    (hf : (f (session.log kind)).without (gone kind) =
      (f ((session.log kind).without (gone kind))).without (gone kind)) :
    (session.modifyLog kind f).without gone =
      ((session.without gone).modifyLog kind f).without gone := by
  have hledger : (session.modifyLog kind f).ledger.without gone =
      ((session.without gone).modifyLog kind f).ledger.without gone := by
    refine Intent.Ledger.ext_log rfl fun other => ?_
    rw [Intent.Ledger.log_without, Intent.Ledger.log_without]
    change ((session.modifyLog kind f).log other).without (gone other) =
      (((session.without gone).modifyLog kind f).log other).without (gone other)
    by_cases hkind : other = kind
    · subst hkind
      rw [log_modifyLog_self, log_modifyLog_self, hf, log_without]
    · rw [log_modifyLog_of_ne _ _ hkind, log_modifyLog_of_ne _ _ hkind, log_without,
        Intent.Log.without_without]
  exact session.without_setLedger gone hledger

theorem without_apply (session : Session) (gone : Leftovers) (kind : Kind)
    (operation : Operation kind.Registration) (hwish : ∀ name, operation.wish? name = none) :
    (session.modifyLog kind fun log => log.apply operation).without gone =
      ((session.without gone).modifyLog kind fun log => log.apply operation).without gone :=
  session.without_modifyLog gone kind (Intent.Log.without_apply _ _ operation hwish)

theorem without_confirm (session : Session) (gone : Leftovers) (kind : Kind)
    (confirmation : Intent.Log.Confirmation kind.Registration) :
    (session.confirm kind confirmation).without gone =
      ((session.without gone).confirm kind confirmation).without gone := by
  rw [confirm_eq_apply, confirm_eq_apply]
  apply without_apply
  intro name
  cases confirmation <;> rfl

/-- Pruning takes away nothing but what is left out anyway. -/
theorem without_prune_of_gone (session : Session) {gone : Leftovers} {kind : Kind} {name : String}
    (hgone : gone kind name = true) :
    (session.modifyLog kind fun log => (log.prune name).1).without gone = session.without gone := by
  have hpruned := session.without_apply gone kind (.prune name) fun _ => rfl
  have hnone : ((session.without gone).modifyLog kind fun log => log.apply (.prune name)) =
      session.without gone := by
    apply modifyLog_eq_self
    rw [log_without]
    exact (session.log kind).prune_without hgone
  rw [hnone, without_without] at hpruned
  exact hpruned

/-! ## Passes -/

variable {other : Session}

theorem logSession_eq_of_without_eq (hsame : session.without gone = other.without gone)
    (kind : Kind) : (session.log kind).session = (other.log kind).session := by
  have hlog := congrArg (fun session : Session => (session.log kind).session) hsame
  simp only [log_without, Intent.Log.session_without] at hlog
  exact hlog

/-- A pass over one log, with and without what is left out. -/
theorem without_reconcileLog (owner : Owner) (kind : Kind) (isOnline : Bool)
    {next : Session → Session}
    (hnext : ∀ session : Session,
      (next session).without gone = (next (session.without gone)).without gone)
    (remaining : List (String × Entry kind.Registration))
    (hsame : session.without gone = other.without gone) :
    (reconcileLog owner kind isOnline next remaining session).without gone =
      (reconcileLog owner kind isOnline next
        (remaining.filter fun entry => !entry.2.isGone (gone kind) entry.1) other).without gone := by
  induction remaining generalizing session other with
  | nil =>
    change (next session).without gone = (next other).without gone
    rw [hnext, hsame, ← hnext]
  | cons head remaining ih =>
    obtain ⟨name, entry⟩ := head
    have hsession := logSession_eq_of_without_eq hsame kind
    cases hgone : entry.isGone (gone kind) name with
    | true =>
      -- What is gone is settled, so the pass only prunes it, and the other never comes to it.
      obtain ⟨hnamed, hsettled⟩ := Bool.and_eq_true_iff.1 hgone
      have haction := (Entry.action_eq_remove_iff entry).2 hsettled
      have hpruned := (session.without_prune_of_gone hnamed).trans hsame
      rw [List.filter_cons_of_neg (by simp [hgone]), reconcileLog]
      simp only [haction]
      exact ih hpruned
    | false =>
      rw [List.filter_cons_of_pos (by simp [hgone]), reconcileLog, reconcileLog]
      cases haction : entry.action with
      | none => exact ih hsame
      | some action =>
        cases action with
        | remove =>
          apply ih
          have hpruned := fun session : Session =>
            session.without_apply gone kind (.prune name) fun _ => rfl
          exact (hpruned session).trans (hsame ▸ (hpruned other).symm)
        | register =>
          cases isOnline with
          | false => exact ih hsame
          | true =>
            simp only [if_true, without_send, Errand.without, hsession, hsame, List.filter_filter,
              Bool.and_self]
        | deregister =>
          cases isOnline with
          | false => exact ih hsame
          | true =>
            simp only [if_true]
            cases kind.primary? entry.desired with
            | some endpoint =>
              simp only [without_send, Errand.without, hsession, hsame, List.filter_filter,
                Bool.and_self]
            | none =>
              apply ih
              rw [hsession, without_confirm, hsame, ← without_confirm]

theorem without_reconcileAfter (session : Session) (gone : Leftovers) (owner : Owner)
    (isOnline : Bool) (kind : Kind) :
    (reconcileAfter owner isOnline kind session).without gone =
      (reconcileAfter owner isOnline kind (session.without gone)).without gone := by
  cases kind with
  | mcp => simp only [reconcileAfter, without_conclude, without_without]
  | agent =>
    simp only [reconcileAfter, log_without, Intent.Log.pending_without]
    apply without_reconcileLog
    · intro session
      rw [without_conclude, without_conclude, without_without]
    · exact (session.without_without gone).symm

theorem without_resumeReconcile (owner : Owner) (kind : Kind)
    (remaining : List (String × Entry kind.Registration))
    (hsame : session.without gone = other.without gone) :
    (session.resumeReconcile owner kind remaining).without gone =
      (other.resumeReconcile owner kind
        (remaining.filter fun entry => !entry.2.isGone (gone kind) entry.1)).without gone :=
  without_reconcileLog owner kind true
    (fun session => session.without_reconcileAfter gone owner true kind) remaining hsame

theorem without_startReconcile (session : Session) (gone : Leftovers) (owner : Owner) :
    (session.startReconcile owner).without gone =
      ((session.without gone).startReconcile owner).without gone := by
  simp only [startReconcile, log_without, Intent.Log.pending_without, isOnline_without]
  apply without_reconcileLog
  · exact fun next => next.without_reconcileAfter gone owner session.isOnline .agent
  · exact (session.without_without gone).symm

/-! ## Replies -/

/-- Whatever a reply brings, leftovers are of no concern to it. -/
theorem without_resume (session : Session) (gone : Leftovers) (flight : Flight)
    (outcome : Outcome Answer) :
    (session.resume flight outcome).without gone =
      ((session.without gone).resume (flight.without gone) outcome).without gone := by
  obtain ⟨id, owner, errand, request, deadline⟩ := flight
  cases errand with
  | handOn => simp only [resume, Flight.without, Errand.without, without_conclude, without_without]
  | confirm kind confirmation =>
    cases outcome with
    | done answer =>
      simp only [resume, Flight.without, Errand.without, without_conclude]
      rw [without_confirm]
    | _ => simp only [resume, Flight.without, Errand.without, without_conclude, without_without]
  | subscribe kind handle =>
    cases outcome with
    | done answer =>
      simp only [resume, Flight.without, Errand.without]
      cases answer.record? kind <;>
        simp only [without_conclude, without_completeSubscription, without_absorb, without_without]
    | failed error =>
      cases error <;>
        simp only [resume, Flight.without, Errand.without, without_conclude, without_without]
    | panicked =>
      simp only [resume, Flight.without, Errand.without, without_conclude, without_without]
  | refresh kind =>
    cases outcome with
    | done answer =>
      simp only [resume, Flight.without, Errand.without]
      cases answer.record? kind <;>
        simp only [without_conclude, without_absorb, without_without]
    | _ => simp only [resume, Flight.without, Errand.without, without_conclude, without_without]
  | reconcile kind confirmation remaining =>
    have hstart := (session.without_without gone).symm
    cases outcome with
    | done answer =>
      exact without_resumeReconcile owner kind remaining
        (session.without_confirm gone kind confirmation)
    | _ => exact without_resumeReconcile owner kind remaining hstart

theorem without_arrive (session : Session) (gone : Leftovers) (id : Nat) (arrival : Arrival) :
    (session.arrive id arrival).without gone =
      ((session.without gone).arrive id arrival).without gone := by
  simp only [arrive, flight?_without]
  cases session.flight? id with
  | none => exact (session.without_without gone).symm
  | some flight =>
    simp only [Option.map_some]
    rw [without_resume, without_land]
    rfl

theorem without_reply (session : Session) (gone : Leftovers) (id : Nat) (reply : Reply) :
    (session.reply id reply).without gone =
      ((session.without gone).reply id reply).without gone := by
  have hstay := (session.without_without gone).symm
  simp only [Session.reply, flight?_without]
  cases session.flight? id with
  | none => exact hstay
  | some flight =>
    have hdeadline : (flight.without gone).deadline = flight.deadline := rfl
    have hnow : (session.without gone).now = session.now := rfl
    simp only [Option.map_some, hdeadline, hnow]
    by_cases hdue : session.now ≤ flight.deadline
    · rw [if_pos hdue, if_pos hdue, without_arrive]
    · rw [if_neg hdue, if_neg hdue]
      exact hstay

theorem without_expire (session : Session) (gone : Leftovers) (id : Nat) :
    (session.expire id).without gone = ((session.without gone).expire id).without gone := by
  have hstay := (session.without_without gone).symm
  simp only [expire, flight?_without]
  cases session.flight? id with
  | none => exact hstay
  | some flight =>
    have hdeadline : (flight.without gone).deadline = flight.deadline := rfl
    have hnow : (session.without gone).now = session.now := rfl
    have htimeout : (session.without gone).timeout = session.timeout := rfl
    simp only [Option.map_some, hdeadline, hnow, htimeout]
    by_cases hdue : flight.deadline ≤ session.now
    · rw [if_pos hdue, if_pos hdue, without_arrive]
    · rw [if_neg hdue, if_neg hdue]
      exact hstay

/-! ## The other moves -/

/-- A loss is a loss, with leftovers or without. -/
theorem without_receive (session : Session) (gone : Leftovers) :
    session.receive.without gone = (session.without gone).receive.without gone := by
  have hstay := (session.without_without gone).symm
  have hwatching : (session.without gone).isWatching = session.isWatching := rfl
  have hfeed : (session.without gone).feed = session.feed := rfl
  unfold receive
  rw [hwatching, hfeed]
  cases session.isWatching with
  | false => exact hstay
  | true =>
    cases session.feed.receive? with
    | none => exact hstay
    | some taken =>
      obtain ⟨received, feed⟩ := taken
      have hledger := session.ledger.without_observeReceived gone received
      let taken : Session := { session with feed, isWatching := received ≠ Received.closed }
      have htaken := taken.without_setLedger gone hledger
      simp only [Bool.not_true, Bool.false_eq_true, if_false, without_note]
      exact congrArg (fun session : Session => session.note (.observed received)) htaken

theorem without_wake (session : Session) (gone : Leftovers) (pool : PoolName) (task : Nat) :
    (session.wake pool task).without gone = ((session.without gone).wake pool task).without gone := by
  cases pool with
  | refresh kind => exact ((session.wake (.refresh kind) task).without_without gone).symm
  | reconcile => exact ((session.wake .reconcile task).without_without gone).symm

/-- A pass goes on as well without the leftovers. -/
theorem without_start (session : Session) (gone : Leftovers) (pool : PoolName) :
    (session.start pool).without gone = ((session.without gone).start pool).without gone := by
  have hstay := (session.without_without gone).symm
  cases pool with
  | refresh kind =>
    simp only [start, watchlist_without]
    cases (session.watchlist kind).pool.start? with
    | none => exact hstay
    | some begun =>
      obtain ⟨pool, _ | task⟩ := begun
      · simp only [without_setWatchlist, without_without]
      · simp only [without_send, without_setWatchlist, Errand.without, without_without]
  | reconcile =>
    have hreconciler : (session.without gone).reconciler = session.reconciler := rfl
    simp only [start, hreconciler]
    cases session.reconciler.start? with
    | none => exact hstay
    | some begun =>
      obtain ⟨reconciler, _ | task⟩ := begun
      · exact (({ session with reconciler } : Session).without_without gone).symm
      · exact without_startReconcile { session with reconciler } gone _

theorem without_reorder (session : Session) (gone : Leftovers) (kind : Kind) (name : String) :
    (session.modifyLog kind fun log => log.reorder name).without gone =
      ((session.without gone).modifyLog kind fun log => log.reorder name).without gone := by
  apply without_modifyLog
  rw [Intent.Log.without_reorder, Intent.Log.without_reorder, Intent.Log.without_without]

end Session

end RegistrySession
