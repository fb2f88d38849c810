import RegistrySession.Proofs.Session.Frame
import RegistrySession.Proofs.Watchlist.Orderly

/-!
# The audiences of a session

A session has one audience for each kind of records.  Most of what it does leaves both alone: only
calls that subscribe or unsubscribe and answers that bring a record make a difference to them.
-/

namespace RegistrySession

def Note.delivery? (kind : Kind) : Note → Option (Delivery Listener kind.Record)
  | .delivered other delivery => if h : other = kind then some (h ▸ delivery) else none
  | _ => none

theorem Note.delivery?_delivered_self (kind : Kind) (delivery : Delivery Listener kind.Record) :
    (Note.delivered kind delivery).delivery? kind = some delivery := by
  rw [delivery?, dif_pos rfl]

theorem Note.delivery?_delivered_of_ne {kind other : Kind} (h : other ≠ kind)
    (delivery : Delivery Listener other.Record) :
    (Note.delivered other delivery).delivery? kind = none := by
  rw [delivery?, dif_neg h]

def Flight.subscription? (kind : Kind) (flight : Flight) : Option (Handle Listener × Key) :=
  match flight.errand with
  | .subscribe other handle =>
    if other = kind then some (handle, flight.request.demand.resourceKey) else none
  | _ => none

theorem Flight.subscription?_eq_some {kind : Kind} {flight : Flight} {handle : Handle Listener}
    (h : flight.errand = .subscribe kind handle) :
    flight.subscription? kind = some (handle, flight.request.demand.resourceKey) := by
  rw [subscription?, h]
  exact if_pos rfl

theorem Flight.subscription?_eq_none {kind : Kind} {flight : Flight}
    (h : ∀ handle, flight.errand ≠ .subscribe kind handle) : flight.subscription? kind = none := by
  cases herrand : flight.errand with
  | subscribe other handle =>
    have hkind : other ≠ kind := fun hkind => h handle (hkind ▸ herrand)
    rw [subscription?, herrand]
    exact if_neg hkind
  | handOn | confirm | refresh | reconcile => rw [subscription?, herrand]

@[simp]
theorem Demand.resourceKey_query (kind : Kind) (key : Key) :
    (Demand.query kind key).resourceKey = key := by
  cases kind <;> rfl

namespace Session

/-- The newest first. -/
def deliveries (session : Session) (kind : Kind) : List (Delivery Listener kind.Record) :=
  session.journal.filterMap fun timed => timed.2.delivery? kind

def subscriptions (session : Session) (kind : Kind) : List (Handle Listener × Key) :=
  session.flights.filterMap (Flight.subscription? kind)

def audience (session : Session) (kind : Kind) : Audience kind.Record Listener where
  list := session.watchlist kind
  deliveries := session.deliveries kind
  awaiting := session.subscriptions kind

theorem deliveries_note_of_none (session : Session) {note : Note} {kind : Kind}
    (hnote : note.delivery? kind = none) :
    (session.note note).deliveries kind = session.deliveries kind := by
  rw [deliveries, Session.note, List.filterMap_cons, hnote]
  rfl

theorem deliveries_note_of_some (session : Session) {note : Note} {kind : Kind}
    {delivery : Delivery Listener kind.Record} (hnote : note.delivery? kind = some delivery) :
    (session.note note).deliveries kind = delivery :: session.deliveries kind := by
  rw [deliveries, Session.note, List.filterMap_cons, hnote]
  rfl

/-- Nothing happens to the audiences. -/
def Quiet (session next : Session) : Prop :=
  ∀ kind, (session.audience kind).Covers (next.audience kind)

/-- What happens to each audience. -/
def Shifts (session next : Session) : Prop :=
  ∀ kind, Relation.ReflTransGen Audience.Shift (session.audience kind) (next.audience kind)

/-- A request other than for a subscription of the kind. -/
theorem covers_send (session : Session) (owner : Owner) {errand : Errand} (demand : Demand)
    {kind : Kind} (herrand : ∀ handle, errand ≠ .subscribe kind handle) :
    (session.audience kind).Covers ((session.send owner errand demand).audience kind) := by
  refine ⟨rfl, rfl, rfl, ?_⟩
  intro waiting hwaiting
  obtain ⟨flight, hflight, hfound⟩ := List.mem_filterMap.1 hwaiting
  rcases List.mem_append.1 hflight with hold | hnew
  · exact List.mem_filterMap.2 ⟨flight, hold, hfound⟩
  · obtain rfl := List.mem_singleton.1 hnew
    rw [Flight.subscription?_eq_none herrand] at hfound
    exact absurd hfound nofun

/-! ## What leaves the audiences alone -/

namespace Quiet

variable {session next last : Session}

theorem refl (session : Session) : session.Quiet session :=
  fun _ => .refl _

theorem trans (hfirst : session.Quiet next) (hsecond : next.Quiet last) : session.Quiet last :=
  fun kind => (hfirst kind).trans (hsecond kind)

/-- Only watchlists, journal and flights matter. -/
theorem of_eq (hwatchlists : next.watchlists = session.watchlists)
    (hjournal : next.journal = session.journal) (hflights : next.flights ⊆ session.flights) :
    session.Quiet next := by
  intro kind
  have hlist : next.watchlist kind = session.watchlist kind :=
    congrArg (PerKind.get · kind) hwatchlists
  constructor
  case records => exact congrArg Watchlist.records hlist
  case subscriptions => exact congrArg Watchlist.subscriptions hlist
  case deliveries => exact congrArg (List.filterMap _) hjournal
  case awaiting => exact List.filterMap_subset _ hflights

theorem note (session : Session) {note : Note} (hnote : ∀ kind, note.delivery? kind = none) :
    session.Quiet (session.note note) :=
  fun kind => ⟨rfl, rfl, session.deliveries_note_of_none (hnote kind), fun _ h => h⟩

theorem land (session : Session) (id : Nat) (arrival : Arrival) :
    session.Quiet (session.land id arrival) := by
  intro kind
  refine ⟨rfl, rfl, rfl, List.filterMap_subset _ ?_⟩
  exact List.filter_sublist.subset

/-- The pool of a watchlist and the tasks in it are nothing to the listeners. -/
theorem setWatchlist (session : Session) (kind : Kind) (list : Watchlist kind.Record Listener)
    (hrecords : list.records = (session.watchlist kind).records)
    (hsubscriptions : list.subscriptions = (session.watchlist kind).subscriptions) :
    session.Quiet (session.setWatchlist kind list) := by
  intro other
  by_cases hkind : other = kind
  · subst hkind
    have hlist : (session.setWatchlist other list).watchlist other = list :=
      PerKind.get_set_self _ _ _
    refine ⟨?_, ?_, rfl, fun _ h => h⟩
    · exact (congrArg Watchlist.records hlist).trans hrecords
    · exact (congrArg Watchlist.subscriptions hlist).trans hsubscriptions
  · have hlist : (session.setWatchlist kind list).watchlist other = session.watchlist other :=
      PerKind.get_set_of_ne _ _ hkind
    exact ⟨congrArg Watchlist.records hlist, congrArg Watchlist.subscriptions hlist, rfl,
      fun _ h => h⟩

theorem endRun (session : Session) (pool : PoolName) (task : Nat) :
    session.Quiet (session.endRun pool task) := by
  cases pool with
  | refresh kind => exact setWatchlist session kind _ rfl rfl
  | reconcile => exact of_eq rfl rfl fun _ h => h

theorem conclude (session : Session) (owner : Owner) (outcome : Outcome Answer) :
    session.Quiet (session.conclude owner outcome) := by
  cases owner with
  | call id => exact note session fun _ => rfl
  | run pool task => exact endRun session pool task

theorem modifyLog (session : Session) (kind : Kind)
    (f : Intent.Log kind.Registration → Intent.Log kind.Registration) :
    session.Quiet (session.modifyLog kind f) :=
  of_eq rfl rfl fun _ h => h

/-- A request other than for a subscription. -/
theorem send (session : Session) (owner : Owner) {errand : Errand} (demand : Demand)
    (herrand : ∀ kind handle, errand ≠ .subscribe kind handle) :
    session.Quiet (session.send owner errand demand) :=
  fun kind => session.covers_send owner demand (herrand kind)

theorem cutOff (session : Session) (pool : PoolName) : session.Quiet (session.cutOff pool) :=
  of_eq rfl rfl List.filter_sublist.subset

theorem stopRefreshes (session : Session) (kind : Kind) :
    session.Quiet (session.stopRefreshes kind) :=
  (setWatchlist session kind
    { session.watchlist kind with pool := (session.watchlist kind).pool.shutdown } rfl rfl).trans
      (cutOff _ (.refresh kind))

/-- Nobody hears of a shutdown. -/
theorem shutdown (session : Session) : session.Quiet session.shutdown := by
  rcases session.shutdown_cases with ⟨-, heq⟩ | ⟨-, heq⟩
  · rw [heq]
    exact refl session
  · rw [heq]
    have hmarked : session.Quiet { session with isShutdown := true } :=
      of_eq rfl rfl fun _ h => h
    have hrefreshes := (hmarked.trans (stopRefreshes _ .agent)).trans (stopRefreshes _ .mcp)
    exact hrefreshes.trans (of_eq rfl rfl List.filter_sublist.subset)

/-- Intents are nothing to the audiences. -/
theorem intentFrame (owner : Owner) : IntentFrame owner Quiet where
  trans := trans
  modifyLog := modifyLog
  send session _ demand herrand := send session owner demand herrand
  conclude session outcome := conclude session owner outcome

/-! ### Moves -/

theorem receive (session : Session) : session.Quiet session.receive := by
  rcases session.receive_cases with heq | ⟨received, feed, -, -, heq⟩
  · rw [heq]
    exact refl session
  · rw [heq]
    exact fun kind => ⟨rfl, rfl, rfl, fun _ h => h⟩

theorem setPool (session : Session) (name : PoolName) (pool : Pool name.Job) :
    session.Quiet (session.setPool name pool) := by
  cases name with
  | refresh kind => exact setWatchlist session kind _ rfl rfl
  | reconcile => exact of_eq rfl rfl fun _ h => h

theorem wake (session : Session) (pool : PoolName) (task : Nat) :
    session.Quiet (session.wake pool task) := by
  rw [wake_eq]
  exact setPool session pool _

theorem launch (session : Session) (name : PoolName) (task : Task name.Job) :
    session.Quiet (session.launch name task) := by
  cases name with
  | refresh kind => exact send _ _ _ fun _ _ h => Errand.noConfusion h
  | reconcile => exact (intentFrame _).startReconcile _

theorem start (session : Session) (name : PoolName) : session.Quiet (session.start name) := by
  rcases session.start_cases name with ⟨-, heq⟩ | ⟨pool, -, heq⟩ | ⟨pool, task, -, heq⟩
  · rw [heq]
    exact refl session
  · rw [heq]
    exact setPool session name pool
  · rw [heq]
    exact (setPool session name pool).trans (launch _ name task)

end Quiet

/-! ## What reaches the listeners -/

theorem Shifts.refl (session : Session) : session.Shifts session :=
  fun _ => .refl

theorem Shifts.trans {session next last : Session} (hfirst : session.Shifts next)
    (hsecond : next.Shifts last) : session.Shifts last :=
  fun kind => (hfirst kind).trans (hsecond kind)

section Deliver

variable (session : Session) (kind : Kind)

@[simp]
theorem watchlists_deliver (deliveries : List (Delivery Listener kind.Record)) :
    (session.deliver kind deliveries).watchlists = session.watchlists := by
  induction deliveries generalizing session with
  | nil => rfl
  | cons delivery deliveries ih => exact ih _

@[simp]
theorem flights_deliver (deliveries : List (Delivery Listener kind.Record)) :
    (session.deliver kind deliveries).flights = session.flights := by
  induction deliveries generalizing session with
  | nil => rfl
  | cons delivery deliveries ih => exact ih _

theorem deliveries_deliver_self (deliveries : List (Delivery Listener kind.Record)) :
    (session.deliver kind deliveries).deliveries kind =
      deliveries.reverse ++ session.deliveries kind := by
  induction deliveries generalizing session with
  | nil => rfl
  | cons delivery deliveries ih =>
    refine (ih _).trans ?_
    rw [deliveries_note_of_some _ (Note.delivery?_delivered_self kind delivery),
      List.reverse_cons, List.append_assoc, List.singleton_append]

theorem deliveries_deliver_of_ne {other : Kind} (h : other ≠ kind)
    (deliveries : List (Delivery Listener kind.Record)) :
    (session.deliver kind deliveries).deliveries other = session.deliveries other := by
  induction deliveries generalizing session with
  | nil => rfl
  | cons delivery deliveries ih =>
    refine (ih _).trans ?_
    exact deliveries_note_of_none _ (Note.delivery?_delivered_of_ne h.symm delivery)

theorem audience_setWatchlist_of_ne {other : Kind} (h : other ≠ kind)
    (list : Watchlist kind.Record Listener) :
    (session.setWatchlist kind list).audience other = session.audience other := by
  rw [audience, watchlist, setWatchlist, PerKind.get_set_of_ne _ _ h]
  rfl

/-- A watchlist that changes, and what goes out to its listeners. -/
def publish (changed : Watchlist kind.Record Listener × List (Delivery Listener kind.Record)) :
    Session :=
  (session.setWatchlist kind changed.1).deliver kind changed.2

theorem audience_publish_self
    (changed : Watchlist kind.Record Listener × List (Delivery Listener kind.Record)) :
    (session.publish kind changed).audience kind =
      { list := changed.1
        deliveries := changed.2.reverse ++ session.deliveries kind
        awaiting := session.subscriptions kind } := by
  rw [audience, watchlist, publish, deliveries_deliver_self, watchlists_deliver, subscriptions,
    flights_deliver, setWatchlist, PerKind.get_set_self]
  rfl

theorem audience_publish_of_ne {other : Kind} (h : other ≠ kind)
    (changed : Watchlist kind.Record Listener × List (Delivery Listener kind.Record)) :
    (session.publish kind changed).audience other = session.audience other := by
  rw [← audience_setWatchlist_of_ne session kind h changed.1, audience, watchlist, publish,
    deliveries_deliver_of_ne _ _ h, watchlists_deliver, subscriptions, flights_deliver]
  rfl

/-- A record that comes in is put into its slots before anybody hears of it. -/
theorem audience_absorb_self (record : kind.Record) :
    (session.absorb kind record).audience kind = (session.audience kind).absorb record :=
  session.audience_publish_self kind ((session.watchlist kind).absorb record)

theorem audience_absorb_of_ne {other : Kind} (h : other ≠ kind) (record : kind.Record) :
    (session.absorb kind record).audience other = session.audience other :=
  session.audience_publish_of_ne kind h ((session.watchlist kind).absorb record)

theorem completeSubscription_quiet (owner : Owner) (handle : Handle Listener)
    (record : kind.Record) :
    (session.publish kind ((session.watchlist kind).deliverInitial handle record)).Quiet
      (session.completeSubscription owner kind handle record) := by
  obtain ⟨outcome, heq, -⟩ := session.completeSubscription_eq_conclude owner handle record
  rw [heq]
  exact .conclude _ owner outcome

theorem completeSubscription_covers_self (owner : Owner) (handle : Handle Listener)
    (record : kind.Record) :
    ((session.audience kind).welcome handle record).Covers
      ((session.completeSubscription owner kind handle record).audience kind) := by
  have hpublished :
      (session.publish kind ((session.watchlist kind).deliverInitial handle record)).audience kind =
        (session.audience kind).welcome handle record := by
    rw [audience_publish_self, Watchlist.deliverInitial_eq, Audience.welcome]
    cases hreached : (session.watchlist kind).subscriptions.isReached handle with
    | true => simp [audience, hreached]
    | false => simp [audience, hreached]
  rw [← hpublished]
  exact session.completeSubscription_quiet kind owner handle record kind

theorem completeSubscription_covers_of_ne {other : Kind} (h : other ≠ kind) (owner : Owner)
    (handle : Handle Listener) (record : kind.Record) :
    (session.audience other).Covers
      ((session.completeSubscription owner kind handle record).audience other) := by
  rw [← session.audience_publish_of_ne kind h
    ((session.watchlist kind).deliverInitial handle record)]
  exact session.completeSubscription_quiet kind owner handle record other

end Deliver

end Session

end RegistrySession
