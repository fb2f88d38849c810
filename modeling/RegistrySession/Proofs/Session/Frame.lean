import RegistrySession.Proofs.Session.Branches
import RegistrySession.Proofs.Session.Pools
import RegistrySession.Proofs.Watchlist.Rota

/-!
# Frames

Much of what a session does is nothing to what a theorem is about: it notes things, changes a log,
sends a request, or ends a wait.  A frame is a relation that holds of all this.  It is shown once
here of the larger steps that are made up of nothing else.  What is done about intents takes the
least of it, so a relation to which records or subscriptions matter may still hold there.
-/

namespace RegistrySession

namespace Session

/-- What holds of every small step about intents: a log changes, a request goes out that is not for a
subscription, or there is an outcome. -/
structure IntentFrame (owner : Owner) (R : Session → Session → Prop) : Prop where
  trans {session next last : Session} (hfirst : R session next) (hsecond : R next last) :
    R session last
  modifyLog (session : Session) (kind : Kind)
    (f : Intent.Log kind.Registration → Intent.Log kind.Registration) :
    R session (session.modifyLog kind f)
  send (session : Session) {errand : Errand} (demand : Demand)
    (herrand : ∀ kind handle, errand ≠ .subscribe kind handle) :
    R session (session.send owner errand demand)
  conclude (session : Session) (outcome : Outcome Answer) :
    R session (session.conclude owner outcome)

namespace IntentFrame

variable {owner : Owner} {R : Session → Session → Prop} (hframe : IntentFrame owner R)
  {isOnline : Bool}

include hframe

theorem register (session : Session) (kind : Kind) (name : String)
    (registration : kind.Registration) :
    R session (session.register owner kind name registration) := by
  rcases session.register_cases owner name registration with ⟨-, heq⟩ | ⟨-, heq⟩
  · rw [heq]
    exact hframe.trans (hframe.modifyLog session kind _) (hframe.send _ _ nofun)
  · rw [heq]
    exact hframe.trans (hframe.modifyLog session kind _) (hframe.conclude _ _)

theorem deregister (session : Session) (kind : Kind) (name : String) (endpoint : kind.Endpoint) :
    R session (session.deregister owner kind name endpoint) := by
  cases hentry : (session.log kind).find? name with
  | none =>
    rw [session.deregister_of_absent owner endpoint hentry]
    exact hframe.conclude session _
  | some entry =>
    rcases session.deregister_cases_of_find? owner endpoint hentry with ⟨-, heq⟩ | ⟨-, heq⟩
    · rw [heq]
      exact hframe.trans (hframe.modifyLog session kind _) (hframe.send _ _ nofun)
    · rw [heq]
      exact hframe.trans (hframe.modifyLog session kind _) (hframe.conclude _ _)

theorem reconcileLog {kind : Kind} {next : Session → Session}
    (hnext : ∀ session, R session (next session))
    (remaining : List (String × Intent.Entry kind.Registration)) (session : Session) :
    R session (reconcileLog owner kind isOnline next remaining session) := by
  induction remaining generalizing session with
  | nil => exact hnext session
  | cons first remaining ih =>
    obtain ⟨name, entry⟩ := first
    rw [Session.reconcileLog]
    cases entry.action with
    | none => exact ih session
    | some action =>
      cases action with
      | remove => exact hframe.trans (hframe.modifyLog session kind _) (ih _)
      | register =>
        cases isOnline with
        | true => exact hframe.send session _ nofun
        | false => exact ih session
      | deregister =>
        cases isOnline with
        | true =>
          cases kind.primary? entry.desired with
          | some endpoint => exact hframe.send session _ nofun
          | none => exact hframe.trans (hframe.modifyLog session kind _) (ih _)
        | false => exact ih session

theorem reconcileAfter (kind : Kind) (session : Session) :
    R session (reconcileAfter owner isOnline kind session) := by
  cases kind with
  | agent => exact hframe.reconcileLog (fun session => hframe.conclude session _) _ session
  | mcp => exact hframe.conclude session _

theorem startReconcile (session : Session) : R session (session.startReconcile owner) :=
  hframe.reconcileLog (hframe.reconcileAfter .agent) _ session

theorem resumeReconcile (session : Session) (kind : Kind)
    (remaining : List (String × Intent.Entry kind.Registration)) :
    R session (session.resumeReconcile owner kind remaining) :=
  hframe.reconcileLog (hframe.reconcileAfter kind) _ session

end IntentFrame

/-- What holds of every small step that leaves the rotas alone and ends no wait, as long as those
who send a request or are given an outcome are of the owners in question. -/
structure SteadyFrame (mayOwn : Owner → Prop) (R : Session → Session → Prop) : Prop where
  refl (session : Session) : R session session
  trans {session next last : Session} (hfirst : R session next) (hsecond : R next last) :
    R session last
  delivered (session : Session) (kind : Kind) (delivery : Delivery Listener kind.Record) :
    R session (session.note (.delivered kind delivery))
  modifyLog (session : Session) (kind : Kind)
    (f : Intent.Log kind.Registration → Intent.Log kind.Registration) :
    R session (session.modifyLog kind f)
  setWatchlist (session : Session) (kind : Kind) (list : Watchlist kind.Record Listener)
    (hrota : list.rota = (session.watchlist kind).rota) : R session (session.setWatchlist kind list)
  send (session : Session) {owner : Owner} (howner : mayOwn owner) (errand : Errand)
    (demand : Demand) : R session (session.send owner errand demand)
  conclude (session : Session) {owner : Owner} (howner : mayOwn owner)
    (outcome : Outcome Answer) : R session (session.conclude owner outcome)

/-- What holds of the end of a wait too. -/
structure Frame (mayOwn : Owner → Prop) (R : Session → Session → Prop) : Prop
    extends SteadyFrame mayOwn R where
  land (session : Session) (id : Nat) (arrival : Arrival) : R session (session.land id arrival)

namespace SteadyFrame

variable {mayOwn : Owner → Prop} {R : Session → Session → Prop} (hframe : SteadyFrame mayOwn R)
  {owner : Owner} (howner : mayOwn owner)

include hframe

/-! ## Records -/

theorem deliver (session : Session) (kind : Kind)
    (deliveries : List (Delivery Listener kind.Record)) :
    R session (session.deliver kind deliveries) := by
  induction deliveries generalizing session with
  | nil => exact hframe.refl session
  | cons delivery deliveries ih =>
    exact hframe.trans (hframe.delivered session kind delivery) (ih _)

theorem absorb (session : Session) (kind : Kind) (record : kind.Record) :
    R session (session.absorb kind record) :=
  hframe.trans (hframe.setWatchlist session kind _ (Watchlist.rota_absorb _ record))
    (hframe.deliver _ kind _)

theorem deliverInitial (session : Session) (kind : Kind) (handle : Handle Listener)
    (record : kind.Record) :
    R session ((session.setWatchlist kind
      ((session.watchlist kind).deliverInitial handle record).1).deliver kind
        ((session.watchlist kind).deliverInitial handle record).2) :=
  hframe.trans (hframe.setWatchlist session kind _ (Watchlist.rota_deliverInitial _ handle record))
    (hframe.deliver _ kind _)

include howner in
theorem completeSubscription (session : Session) (kind : Kind) (handle : Handle Listener)
    (record : kind.Record) : R session (session.completeSubscription owner kind handle record) := by
  obtain ⟨outcome, heq, -⟩ := session.completeSubscription_eq_conclude owner handle record
  rw [heq]
  exact hframe.trans (hframe.deliverInitial session kind handle record)
    (hframe.conclude _ howner outcome)

include howner in
theorem intentFrame : IntentFrame owner R where
  trans := hframe.trans
  modifyLog := hframe.modifyLog
  send session errand demand _ := hframe.send session howner errand demand
  conclude session outcome := hframe.conclude session howner outcome

end SteadyFrame

/-! ## Replies -/

/-- Any errand but that of a pass ends with an outcome for its owner, which is an error only if the
request failed with it. -/
theorem resume_eq_conclude (session : Session) {flight : Flight} (outcome : Outcome Answer)
    (herrand : ∀ kind confirmation remaining,
      flight.errand ≠ .reconcile kind confirmation remaining) :
    ∃ (before : Session) (result : Outcome Answer),
      session.resume flight outcome = before.conclude flight.owner result ∧
      (∀ error, result = .failed error → outcome = .failed error) ∧
      ∀ mayOwn R, SteadyFrame mayOwn R → R session before := by
  have hatOnce : ∀ result, (∀ error, result = .failed error → outcome = .failed error) →
      ∃ (before : Session) (final : Outcome Answer),
        session.conclude flight.owner result = before.conclude flight.owner final ∧
        (∀ error, final = .failed error → outcome = .failed error) ∧
        ∀ mayOwn R, SteadyFrame mayOwn R → R session before :=
    fun result hresult => ⟨session, result, rfl, hresult, fun _ _ hframe => hframe.refl session⟩
  have hdone : ∀ (answer : Answer) (error : Error),
      Outcome.done answer = .failed error → outcome = .failed error := fun _ _ => nofun
  cases hcase : flight.errand with
  | handOn =>
    rw [resume, hcase]
    exact hatOnce _ fun _ => id
  | confirm kind confirmation =>
    rw [resume, hcase]
    cases outcome with
    | done answer =>
      exact ⟨_, _, rfl, hdone answer, fun _ _ hframe => hframe.modifyLog session kind _⟩
    | failed | panicked => exact hatOnce _ fun _ => id
  | subscribe kind handle =>
    rcases session.resume_subscribe_cases outcome hcase with
      ⟨answer, record, -, -, heq⟩ | ⟨-, result, heq, -, hfailed⟩
    · obtain ⟨result, hcompleted, hfine⟩ :=
        (session.absorb kind record).completeSubscription_eq_conclude flight.owner handle record
      exact ⟨_, result, heq.trans hcompleted, fun error h => absurd h (hfine error),
        fun _ _ hframe => hframe.trans (hframe.absorb session kind record)
          (hframe.deliverInitial _ kind handle record)⟩
    · rw [heq]
      exact hatOnce result hfailed
  | refresh kind =>
    rcases session.resume_refresh_cases outcome hcase with
      ⟨answer, record, -, -, heq⟩ | ⟨-, result, heq, hfine⟩
    · exact ⟨_, _, heq, hdone .nothing, fun _ _ hframe => hframe.absorb session kind record⟩
    · rw [heq]
      exact hatOnce result fun error h => absurd h (hfine error)
  | reconcile kind confirmation remaining =>
    exact absurd hcase (herrand kind confirmation remaining)

/-! ## Runs and calls until they wait or end -/

/-- All ends with an outcome for the owner, or with a request that is waited for, behind steps that
every steady frame keeps. -/
def Ends (owner : Owner) (session last : Session) : Prop :=
  ∃ before : Session, (∀ mayOwn R, SteadyFrame mayOwn R → R session before) ∧
    ((∃ outcome, last = before.conclude owner outcome) ∨
      ∃ errand demand, last = before.send owner errand demand)

section Ends

variable {session next last : Session} {owner : Owner}

theorem Ends.conclude (session : Session) (owner : Owner) (outcome : Outcome Answer) :
    Ends owner session (session.conclude owner outcome) :=
  ⟨session, fun _ _ hframe => hframe.refl session, .inl ⟨outcome, rfl⟩⟩

theorem Ends.send (session : Session) (owner : Owner) (errand : Errand) (demand : Demand) :
    Ends owner session (session.send owner errand demand) :=
  ⟨session, fun _ _ hframe => hframe.refl session, .inr ⟨errand, demand, rfl⟩⟩

theorem Ends.after (hends : Ends owner next last)
    (hstep : ∀ mayOwn R, SteadyFrame mayOwn R → R session next) : Ends owner session last := by
  obtain ⟨before, hbefore, hlast⟩ := hends
  exact ⟨before, fun mayOwn R hframe =>
    hframe.trans (hstep mayOwn R hframe) (hbefore mayOwn R hframe), hlast⟩

/-- A confirmation, or the removal of an entry, comes first. -/
theorem Ends.modifyLog {kind : Kind} {f : Intent.Log kind.Registration → Intent.Log kind.Registration}
    (hends : Ends owner (session.modifyLog kind f) last) : Ends owner session last :=
  hends.after fun _ _ hframe => hframe.modifyLog session kind f

theorem Ends.frame (hends : Ends owner session last) {mayOwn : Owner → Prop}
    {R : Session → Session → Prop} (hframe : SteadyFrame mayOwn R) (howner : mayOwn owner) :
    R session last := by
  obtain ⟨before, hbefore, ⟨outcome, rfl⟩ | ⟨errand, demand, rfl⟩⟩ := hends
  · exact hframe.trans (hbefore mayOwn R hframe) (hframe.conclude before howner outcome)
  · exact hframe.trans (hbefore mayOwn R hframe) (hframe.send before howner errand demand)

theorem reconcileLog_ends {kind : Kind} {isOnline : Bool} {next : Session → Session}
    (hnext : ∀ session, Ends owner session (next session))
    (remaining : List (String × Intent.Entry kind.Registration)) (session : Session) :
    Ends owner session (reconcileLog owner kind isOnline next remaining session) := by
  induction remaining generalizing session with
  | nil => exact hnext session
  | cons first remaining ih =>
    obtain ⟨name, entry⟩ := first
    rw [Session.reconcileLog]
    cases entry.action with
    | none => exact ih session
    | some action =>
      cases action with
      | remove => exact (ih _).modifyLog
      | register =>
        cases isOnline with
        | true => exact .send session owner _ _
        | false => exact ih session
      | deregister =>
        cases isOnline with
        | true =>
          cases kind.primary? entry.desired with
          | some endpoint => exact .send session owner _ _
          | none => exact (ih _).modifyLog
        | false => exact ih session

theorem reconcileAfter_ends (owner : Owner) (isOnline : Bool) (kind : Kind) (session : Session) :
    Ends owner session (reconcileAfter owner isOnline kind session) := by
  cases kind with
  | agent => exact reconcileLog_ends (fun session => .conclude session owner _) _ session
  | mcp => exact .conclude session owner _

/-- A run that starts waits before long, or ends at once. -/
theorem launch_ends (session : Session) (pool : PoolName) (task : Task pool.Job) :
    Ends (.run pool task.id) session (session.launch pool task) := by
  cases pool with
  | refresh kind => exact .send session _ _ _
  | reconcile => exact reconcileLog_ends (reconcileAfter_ends _ _ .agent) _ session

/-- Whoever goes on behind a reply ends the run, or waits again. -/
theorem resume_ends (session : Session) (flight : Flight) (outcome : Outcome Answer) :
    Ends flight.owner session (session.resume flight outcome) := by
  by_cases hpass : ∃ kind confirmation remaining,
      flight.errand = .reconcile kind confirmation remaining
  · obtain ⟨kind, confirmation, remaining, herrand⟩ := hpass
    have hrest (session : Session) : Ends flight.owner session
        (session.resumeReconcile flight.owner kind remaining) :=
      reconcileLog_ends (reconcileAfter_ends _ _ kind) remaining session
    simp only [Session.resume, herrand]
    cases outcome with
    | done answer => exact (hrest _).modifyLog
    | failed | panicked => exact hrest session
  · obtain ⟨before, result, heq, -, hbefore⟩ := session.resume_eq_conclude outcome
      fun kind confirmation remaining herrand => hpass ⟨kind, confirmation, remaining, herrand⟩
    exact ⟨before, hbefore, .inl ⟨result, heq⟩⟩

end Ends

theorem SteadyFrame.resume {mayOwn : Owner → Prop} {R : Session → Session → Prop}
    (hframe : SteadyFrame mayOwn R) (session : Session) {flight : Flight}
    (howner : mayOwn flight.owner) (outcome : Outcome Answer) :
    R session (session.resume flight outcome) :=
  (session.resume_ends flight outcome).frame hframe howner

/-! ## Calls and tasks -/

/-- A frame to which the rotas are nothing either. -/
structure WideSteadyFrame (mayOwn : Owner → Prop) (R : Session → Session → Prop) : Prop
    extends SteadyFrame mayOwn R where
  setAnyWatchlist (session : Session) (kind : Kind) (list : Watchlist kind.Record Listener) :
    R session (session.setWatchlist kind list)
  setReconciler (session : Session) (reconciler : Pool Unit) : R session { session with reconciler }

namespace WideSteadyFrame

variable {mayOwn : Owner → Prop} {R : Session → Session → Prop}
  (hframe : WideSteadyFrame mayOwn R) {owner : Owner} (howner : mayOwn owner)

include hframe

include howner in
theorem subscribe (session : Session) (kind : Kind) (key : Key) (listener : Listener) :
    R session (session.subscribe owner kind key listener) := by
  rcases session.subscribe_cases owner key listener with
    ⟨-, heq⟩ | ⟨list, handle, -, ⟨record, -, heq⟩ | ⟨-, heq⟩⟩
  · rw [heq]
    exact hframe.conclude session howner _
  · rw [heq]
    exact hframe.trans (hframe.setAnyWatchlist session kind list)
      (hframe.completeSubscription howner _ kind handle record)
  · rw [heq]
    exact hframe.trans (hframe.setAnyWatchlist session kind list) (hframe.send _ howner _ _)

include howner in
/-- A shutdown does more than this. -/
theorem perform (session : Session) {call : Call} (hcall : call ≠ .shutdown) :
    R session (session.perform owner call) := by
  cases call with
  | getAgent | getMcp | releaseAgent | releaseMcp => exact hframe.send session howner _ _
  | register kind name registration => exact (hframe.intentFrame howner).register session kind name _
  | deregisterAgent name endpoint => exact (hframe.intentFrame howner).deregister session .agent name _
  | deregisterMcp name address port => exact (hframe.intentFrame howner).deregister session .mcp name _
  | subscribe kind name version listener => exact hframe.subscribe howner session kind _ listener
  | unsubscribe kind name version listener =>
    exact hframe.trans (hframe.setAnyWatchlist session kind _) (hframe.conclude _ howner _)
  | shutdown => exact absurd rfl hcall

theorem setPool (session : Session) (name : PoolName) (pool : Pool name.Job) :
    R session (session.setPool name pool) := by
  cases name with
  | refresh kind => exact hframe.setAnyWatchlist session kind _
  | reconcile => exact hframe.setReconciler session pool

theorem wake (session : Session) (pool : PoolName) (task : Nat) :
    R session (session.wake pool task) := by
  rw [wake_eq]
  exact hframe.setPool session pool _

theorem start (session : Session) (pool : PoolName) (howner : ∀ task, mayOwn (.run pool task)) :
    R session (session.start pool) := by
  rcases session.start_cases pool with ⟨-, heq⟩ | ⟨next, -, heq⟩ | ⟨next, task, -, heq⟩
  · rw [heq]
    exact hframe.refl session
  · rw [heq]
    exact hframe.setPool session pool next
  · rw [heq]
    exact hframe.trans (hframe.setPool session pool next)
      ((launch_ends _ pool task).frame hframe.toSteadyFrame (howner task.id))

end WideSteadyFrame

/-- Both in one: what a session does at all, short of a shutdown and of what comes in. -/
structure WideFrame (mayOwn : Owner → Prop) (R : Session → Session → Prop) : Prop
    extends Frame mayOwn R, WideSteadyFrame mayOwn R

namespace WideFrame

variable {mayOwn : Owner → Prop} {R : Session → Session → Prop} (hframe : WideFrame mayOwn R)

include hframe

theorem arrive (session : Session) (id : Nat) (arrival : Arrival)
    (howner : ∀ flight, session.flight? id = some flight → mayOwn flight.owner) :
    R session (session.arrive id arrival) := by
  rcases session.arrive_cases id arrival with ⟨-, heq⟩ | ⟨flight, hflight, heq⟩
  · rw [heq]
    exact hframe.refl session
  · rw [heq]
    exact hframe.trans (hframe.land session id arrival)
      (hframe.resume _ (howner flight hflight) _)

theorem reply (session : Session) (id : Nat) (reply : Reply)
    (howner : ∀ flight, session.flight? id = some flight → mayOwn flight.owner) :
    R session (session.reply id reply) := by
  rcases session.reply_cases id reply with hsame | harrives
  · rw [hsame]
    exact hframe.refl session
  · rw [harrives]
    exact hframe.arrive session id _ howner

theorem expire (session : Session) (id : Nat)
    (howner : ∀ flight, session.flight? id = some flight → mayOwn flight.owner) :
    R session (session.expire id) := by
  rcases session.expire_cases id with hsame | harrives
  · rw [hsame]
    exact hframe.refl session
  · rw [harrives]
    exact hframe.arrive session id _ howner

end WideFrame

/-! ## New flights -/

/-- Who sends is of the owners in question. -/
def Adds (mayOwn : Owner → Prop) (session next : Session) : Prop :=
  ∀ flight ∈ next.flights, flight ∈ session.flights ∨ mayOwn flight.owner

theorem Adds.of_subset {mayOwn : Owner → Prop} {session next : Session}
    (hflights : next.flights ⊆ session.flights) : Adds mayOwn session next :=
  fun _ hflight => .inl (hflights hflight)

/-- Where no one may send, nothing is sent. -/
theorem Adds.subset {session next : Session} (hadds : Adds (fun _ => False) session next) :
    next.flights ⊆ session.flights :=
  fun flight hflight => (hadds flight hflight).resolve_right id

theorem Adds.trans {mayOwn : Owner → Prop} {session next last : Session}
    (hfirst : Adds mayOwn session next) (hsecond : Adds mayOwn next last) :
    Adds mayOwn session last := by
  intro flight hflight
  rcases hsecond flight hflight with hold | hnew
  · exact hfirst flight hold
  · exact .inr hnew

/-- A request that is sent is waited for, and nothing else is new. -/
theorem mem_flights_send {session : Session} {owner : Owner} {errand : Errand} {demand : Demand}
    {flight : Flight} (h : flight ∈ (session.send owner errand demand).flights) :
    flight ∈ session.flights ∨ flight.owner = owner ∧ flight.request.demand = demand := by
  rcases List.mem_append.1 h with hold | hnew
  · exact .inl hold
  · obtain rfl := List.mem_singleton.1 hnew
    exact .inr ⟨rfl, rfl⟩

/-- An outcome ends no wait. -/
theorem flights_conclude (session : Session) (owner : Owner) (outcome : Outcome Answer) :
    (session.conclude owner outcome).flights = session.flights := by
  cases owner with
  | call id => rfl
  | run pool task => cases pool <;> rfl

theorem frame_adds (mayOwn : Owner → Prop) : WideFrame mayOwn (Adds mayOwn) where
  refl _ := .of_subset fun _ hflight => hflight
  trans := .trans
  delivered _ _ _ := .of_subset fun _ hflight => hflight
  land _ _ _ := .of_subset List.filter_sublist.subset
  modifyLog _ _ _ := .of_subset fun _ hflight => hflight
  setWatchlist _ _ _ _ := .of_subset fun _ hflight => hflight
  setAnyWatchlist _ _ _ := .of_subset fun _ hflight => hflight
  setReconciler _ _ := .of_subset fun _ hflight => hflight
  send session owner howner errand demand := by
    intro flight hflight
    rcases mem_flights_send hflight with hold | ⟨hsender, -⟩
    · exact .inl hold
    · exact .inr (hsender ▸ howner)
  conclude session owner _ outcome := by
    refine .of_subset ?_
    rw [flights_conclude]
    exact fun _ hflight => hflight

/-! ## Flights that stay -/

/-- Whatever ends no wait keeps all flights. -/
theorem frame_keeps :
    WideSteadyFrame (fun _ => True) fun session next => session.flights ⊆ next.flights where
  refl _ := fun _ hflight => hflight
  trans hfirst hsecond := fun _ hflight => hsecond (hfirst hflight)
  delivered _ _ _ := fun _ hflight => hflight
  modifyLog _ _ _ := fun _ hflight => hflight
  setWatchlist _ _ _ _ := fun _ hflight => hflight
  setAnyWatchlist _ _ _ := fun _ hflight => hflight
  setReconciler _ _ := fun _ hflight => hflight
  send _ _ _ _ _ := fun _ hflight => List.mem_append_left _ hflight
  conclude session owner _ outcome := by
    rw [flights_conclude]
    exact fun _ hflight => hflight

end Session

end RegistrySession
