import RegistrySession.Proofs.Intent.LastWish
import RegistrySession.Proofs.Session.Branches
import RegistrySession.Proofs.Session.Pushes

/-!
# What a step changes

A step of a session is a row of changes, followed by at most one request.  Changes come in four
sorts, and only three of them touch a log: an operation that the session does of its own accord,
the loss of the connection, and a confirmation that the acknowledgement of a flight brings.  What
is to be shown of a whole run is shown of each sort once.
-/

namespace RegistrySession

open Intent (Operation)

namespace Intent.Log.Confirmation

variable {π : Type}

def session : Confirmation π → Nat
  | .pushed _ _ session => session
  | .withdrawn _ session => session

def operation : Confirmation π → Operation π
  | .pushed name registration session => .confirmPush name registration session
  | .withdrawn name session => .confirmDeregistered name session

theorem confirm_eq_apply [DecidableEq π] (log : Log π) (confirmation : Confirmation π) :
    log.confirm confirmation = log.apply confirmation.operation := by
  cases confirmation <;> rfl

/-- The confirmation is what the acknowledgement of the demand amounts to. -/
def Answers {kind : Kind} : Confirmation kind.Registration → Demand → Prop
  | .pushed name registration _, demand => demand = .register kind name registration
  | .withdrawn name _, demand => ∃ endpoint, demand = .withdraw kind name endpoint

theorem Answers.isEndpointDemand {kind : Kind} {confirmation : Confirmation kind.Registration}
    {demand : Demand} (h : confirmation.Answers demand) : demand.isEndpointDemand = true := by
  cases confirmation with
  | pushed name registration session =>
    rw [show demand = .register kind name registration from h]
    rfl
  | withdrawn name session =>
    obtain ⟨endpoint, rfl⟩ := h
    rfl

end Intent.Log.Confirmation

/-- The entries of a log that a pass has not come to yet can all be withdrawn by a request. -/
def Withdrawable {kind : Kind}
    (remaining : List (String × Intent.Entry kind.Registration)) : Prop :=
  ∀ entry ∈ remaining, (kind.primary? entry.2.desired).isSome = true

namespace Errand

/-- What the acknowledgement of a request confirms. -/
inductive Confirms : Errand → (kind : Kind) → Intent.Log.Confirmation kind.Registration → Prop
  | confirm (kind : Kind) (confirmation : Intent.Log.Confirmation kind.Registration) :
      Confirms (.confirm kind confirmation) kind confirmation
  | reconcile (kind : Kind) (confirmation : Intent.Log.Confirmation kind.Registration)
      (remaining : List (String × Intent.Entry kind.Registration)) :
      Confirms (.reconcile kind confirmation remaining) kind confirmation

/-- The errand goes with the demand.  Single pushes are made by calls, and passes by the
reconciler. -/
def Fits (owner : Owner) (demand : Demand) : Errand → Prop
  | .confirm _ confirmation => confirmation.Answers demand ∧ ∃ id, owner = .call id
  | .reconcile _ confirmation remaining =>
    confirmation.Answers demand ∧ Withdrawable remaining ∧ ∃ task, owner = .run .reconcile task
  | _ => True

theorem Fits.answers {owner : Owner} {demand : Demand} {errand : Errand} {kind : Kind}
    {confirmation : Intent.Log.Confirmation kind.Registration} (hfits : errand.Fits owner demand)
    (hconfirms : errand.Confirms kind confirmation) : confirmation.Answers demand := by
  cases hconfirms with
  | confirm => exact hfits.1
  | reconcile => exact hfits.1

/-- What confirms was sent for a call or in a pass. -/
theorem Fits.owner {owner : Owner} {demand : Demand} {errand : Errand} {kind : Kind}
    {confirmation : Intent.Log.Confirmation kind.Registration} (hfits : errand.Fits owner demand)
    (hconfirms : errand.Confirms kind confirmation) :
    (∃ id, owner = .call id) ∨ ∃ task, owner = .run .reconcile task := by
  cases hconfirms with
  | confirm => exact .inl hfits.2
  | reconcile => exact .inr hfits.2.2

end Errand

def Note.isSent : Note → Bool
  | .sent .. => true
  | _ => false

namespace Session

/-- Every flight has an errand that goes with its request, and every entry can be withdrawn. -/
structure Sound (session : Session) : Prop where
  fits : ∀ flight ∈ session.flights, flight.errand.Fits flight.owner flight.request.demand
  withdrawable : ∀ kind name entry, (session.log kind).find? name = some entry →
    (kind.primary? entry.desired).isSome = true

/-- Only passes of the reconciler have an errand of theirs. -/
theorem Sound.errand_ne_reconcile {session : Session} (hsound : session.Sound) {flight : Flight}
    (hflight : flight ∈ session.flights) (howner : ∀ task, flight.owner ≠ .run .reconcile task)
    (kind : Kind) (confirmation : Intent.Log.Confirmation kind.Registration)
    (remaining : List (String × Intent.Entry kind.Registration)) :
    flight.errand ≠ .reconcile kind confirmation remaining := by
  intro herrand
  have hfits := hsound.fits flight hflight
  rw [herrand] at hfits
  obtain ⟨-, -, task, hpass⟩ := hfits
  exact howner task hpass

/-- Nothing happens to the logs, and nothing is sent. -/
structure Aside (session next : Session) : Prop where
  find? : ∀ kind name, (next.log kind).find? name = (session.log kind).find? name
  logSession : ∀ kind, (next.log kind).session = (session.log kind).session
  flights : next.flights ⊆ session.flights
  nextFlight : next.nextFlight = session.nextFlight
  timeout : next.timeout = session.timeout
  journal : ∃ notes, next.journal = notes ++ session.journal ∧
    ∀ note ∈ notes, note.2.isSent = false ∧ note.2.isLoss = false

/-- An operation that no reply is needed for. -/
def IsSpontaneous (kind : Kind) : Operation kind.Registration → Prop
  | .intendRegister _ desired => (kind.primary? desired).isSome = true
  | .intendDeregister _ => True
  | .prune _ => True
  | _ => False

inductive Change (session : Session) : Session → Prop
  | aside {next : Session} (haside : session.Aside next) : Change session next
  | operate (kind : Kind) (operation : Operation kind.Registration)
      (hspontaneous : IsSpontaneous kind operation) :
      Change session (session.modifyLog kind fun log => log.apply operation)
  | lose {next : Session} (hlog : ∀ kind, next.log kind = (session.log kind).loseSession)
      (hflights : next.flights = session.flights) (hnext : next.nextFlight = session.nextFlight)
      (htimeout : next.timeout = session.timeout) (hrecent : next.recent = []) :
      Change session next
  | confirm (flight : Flight) (hflight : flight ∈ session.flights) (kind : Kind)
      (confirmation : Intent.Log.Confirmation kind.Registration)
      (hconfirms : flight.errand.Confirms kind confirmation) :
      Change session ((session.land flight.id .acknowledgement).confirm kind confirmation)

/-- What holds of every request that is sent.  Only the reconciler may send one that the log does
not want. -/
structure MaySend (session : Session) (owner : Owner) (errand : Errand) (demand : Demand) :
    Prop where
  fits : errand.Fits owner demand
  current : ∀ kind confirmation, errand.Confirms kind confirmation →
    confirmation.session = (session.log kind).session
  wanted : (∃ task, owner = .run .reconcile task) ∨ session.wants demand = true

/-- A row of changes, and at most one request behind it. -/
inductive Progress : Session → Session → Prop
  | rest (session : Session) : Progress session session
  | send {session : Session} {owner : Owner} {errand : Errand} {demand : Demand}
      (hsend : session.MaySend owner errand demand) :
      Progress session (session.send owner errand demand)
  | change {session next last : Session} (hchange : session.Change next)
      (hprogress : Progress next last) : Progress session last

/-! ## Steps aside -/

namespace Aside

theorem refl (session : Session) : session.Aside session :=
  ⟨fun _ _ => rfl, fun _ => rfl, fun _ h => h, rfl, rfl, [], rfl, by simp⟩

theorem trans {session next last : Session} (hfirst : session.Aside next)
    (hsecond : next.Aside last) : session.Aside last := by
  obtain ⟨first, hjournal, hplain⟩ := hfirst.journal
  obtain ⟨second, hjournalNext, hplainNext⟩ := hsecond.journal
  constructor
  case find? =>
    intro kind name
    rw [hsecond.find?, hfirst.find?]
  case logSession =>
    intro kind
    rw [hsecond.logSession, hfirst.logSession]
  case flights => exact fun flight hflight => hfirst.flights (hsecond.flights hflight)
  case nextFlight => rw [hsecond.nextFlight, hfirst.nextFlight]
  case timeout => rw [hsecond.timeout, hfirst.timeout]
  case journal =>
    refine ⟨second ++ first, by rw [hjournalNext, hjournal, List.append_assoc], ?_⟩
    intro note hnote
    rcases List.mem_append.1 hnote with h | h
    · exact hplainNext note h
    · exact hplain note h

/-- What is done aside only adds notes that send nothing. -/
theorem sinceLoss {session next : Session} (haside : session.Aside next) :
    ∃ notes, next.sinceLoss = notes ++ session.sinceLoss ∧
      ∀ note ∈ notes, note.2.isSent = false := by
  obtain ⟨notes, hjournal, hplain⟩ := haside.journal
  refine ⟨notes, ?_, fun note hnote => (hplain note hnote).1⟩
  rw [Session.sinceLoss, hjournal, List.takeWhile_append_of_pos, Session.sinceLoss]
  intro note hnote
  rw [(hplain note hnote).2]
  rfl

/-- Only logs, flights, timeout and journal matter. -/
theorem of_eq {session next : Session} (hlogs : next.ledger.logs = session.ledger.logs)
    (hflights : next.flights ⊆ session.flights) (hnext : next.nextFlight = session.nextFlight)
    (htimeout : next.timeout = session.timeout) (hjournal : next.journal = session.journal) :
    session.Aside next := by
  have hlog : ∀ kind, next.log kind = session.log kind := by
    intro kind
    simp only [log, Intent.Ledger.log, hlogs]
  constructor
  case find? =>
    intro kind name
    rw [hlog]
  case logSession =>
    intro kind
    rw [hlog]
  case flights => exact hflights
  case nextFlight => exact hnext
  case timeout => exact htimeout
  case journal => exact ⟨[], hjournal, by simp⟩

theorem note (session : Session) {note : Note} (hsent : note.isSent = false)
    (hloss : note.isLoss = false) : session.Aside (session.note note) :=
  ⟨fun _ _ => rfl, fun _ => rfl, fun _ h => h, rfl, rfl, [(session.now, note)], rfl,
    by simp [hsent, hloss]⟩

/-- The end of a wait changes no log. -/
theorem land (session : Session) (id : Nat) (arrival : Arrival) :
    session.Aside (session.land id arrival) := by
  let landed : Session :=
    { session with
      flights := session.flights.filter fun other => other.id ≠ id
      credentialRefreshes :=
        session.credentialRefreshes + if arrival.deniesPermission then 1 else 0 }
  have hforgotten : session.Aside landed :=
    of_eq rfl List.filter_sublist.subset rfl rfl rfl
  exact hforgotten.trans (Aside.note landed rfl rfl)

theorem setWatchlist (session : Session) (kind : Kind)
    (list : Watchlist kind.Record Listener) : session.Aside (session.setWatchlist kind list) :=
  of_eq rfl (fun _ h => h) rfl rfl rfl

theorem endRun (session : Session) (pool : PoolName) (task : Nat) :
    session.Aside (session.endRun pool task) := by
  cases pool with
  | refresh kind => exact setWatchlist session kind _
  | reconcile => exact of_eq rfl (fun _ h => h) rfl rfl rfl

theorem conclude (session : Session) (owner : Owner) (outcome : Outcome Answer) :
    session.Aside (session.conclude owner outcome) := by
  cases owner with
  | call id => exact Aside.note session rfl rfl
  | run pool task => exact endRun session pool task

theorem deliver (session : Session) (kind : Kind)
    (deliveries : List (Delivery Listener kind.Record)) :
    session.Aside (session.deliver kind deliveries) := by
  induction deliveries generalizing session with
  | nil => exact refl session
  | cons delivery deliveries ih =>
    have hnote : session.Aside (session.note (.delivered kind delivery)) :=
      Aside.note session rfl rfl
    exact hnote.trans (ih _)

theorem absorb (session : Session) (kind : Kind) (record : kind.Record) :
    session.Aside (session.absorb kind record) :=
  (setWatchlist session kind _).trans (deliver _ kind _)

theorem completeSubscription (session : Session) (owner : Owner) (kind : Kind)
    (handle : Handle Listener) (record : kind.Record) :
    session.Aside (session.completeSubscription owner kind handle record) := by
  have hdelivered := (setWatchlist session kind
    ((session.watchlist kind).deliverInitial handle record).1).trans
      (deliver _ kind ((session.watchlist kind).deliverInitial handle record).2)
  obtain ⟨outcome, heq, -⟩ := session.completeSubscription_eq_conclude owner handle record
  rw [heq]
  exact hdelivered.trans (conclude _ owner outcome)

theorem cutOff (session : Session) (pool : PoolName) : session.Aside (session.cutOff pool) :=
  of_eq rfl List.filter_sublist.subset rfl rfl rfl

theorem stopRefreshes (session : Session) (kind : Kind) :
    session.Aside (session.stopRefreshes kind) :=
  (setWatchlist session kind _).trans (cutOff _ (.refresh kind))

theorem stopReconciler (session : Session) : session.Aside session.stopReconciler :=
  of_eq rfl List.filter_sublist.subset rfl rfl rfl

/-- Shutting down changes no log, and sends nothing. -/
theorem shutdown (session : Session) : session.Aside session.shutdown := by
  rcases session.shutdown_cases with ⟨-, heq⟩ | ⟨-, heq⟩
  · rw [heq]
    exact refl session
  · rw [heq]
    have hmarked : session.Aside { session with isShutdown := true } :=
      of_eq rfl (fun _ h => h) rfl rfl rfl
    have hrefreshes := (hmarked.trans (stopRefreshes _ .agent)).trans (stopRefreshes _ .mcp)
    exact hrefreshes.trans (stopReconciler _)

theorem reorder (session : Session) (kind : Kind) (name : String) :
    session.Aside (session.modifyLog kind fun log => log.reorder name) := by
  constructor
  case find? =>
    intro other target
    by_cases hkind : other = kind
    · subst hkind
      rw [log_modifyLog_self, Intent.Log.find?_reorder]
    · rw [log_modifyLog_of_ne _ _ hkind]
  case logSession =>
    intro other
    by_cases hkind : other = kind
    · subst hkind
      rw [log_modifyLog_self]
      rfl
    · rw [log_modifyLog_of_ne _ _ hkind]
  case flights => exact fun _ hflight => hflight
  case nextFlight => rfl
  case timeout => rfl
  case journal => exact ⟨[], rfl, by simp⟩

end Aside

end Session

end RegistrySession
