import RegistrySession.Proofs.Session.Convergence
import RegistrySession.Proofs.Session.Smooth

/-!
# The requests of a pass and what comes of them

A pass that nothing interferes with asks once for each entry that has something left to push, and
whatever comes of the request, it goes on.  Acknowledged in time, the entry is done with; otherwise
it stays as it was.  The induction is on the entries that the pass has yet to come to, in the order
in which the log lists them; each turn of it looks at one entry and touches no other.
-/

namespace RegistrySession

open Intent (Entry)

/-- What comes of a request: a reply after a delay. A reply that takes longer than it is waited for
is as good as none. -/
structure Fate where
  delay : Millis
  reply : Reply

namespace Fate

def isInTime (fate : Fate) (timeout : Millis) : Bool :=
  fate.delay ≤ min timeout Millis.longest

def span (fate : Fate) (timeout : Millis) : Millis :=
  min fate.delay (min timeout Millis.longest)

def arrival (fate : Fate) (timeout : Millis) : Arrival :=
  if fate.isInTime timeout then .reply fate.reply else .expired timeout

def isAcknowledged (fate : Fate) (timeout : Millis) : Bool :=
  fate.isInTime timeout && fate.reply.isAcknowledgement

/-- What happens to a session while a flight of it is waited for. -/
def moves (fate : Fate) (timeout : Millis) (flight : Nat) : List Move :=
  [.elapse (fate.span timeout),
    if fate.isInTime timeout then .reply flight fate.reply else .expire flight]

/-- Nobody waits longer than up to the deadline. -/
theorem span_le_deadline (fate : Fate) (timeout : Millis) (now : Nat) :
    now + fate.span timeout ≤ timeout.after now :=
  Nat.add_le_add_left (Nat.min_le_right _ _) now

/-- For a reply that is too late, the wait goes on right to the deadline. -/
theorem deadline_le_span {fate : Fate} {timeout : Millis} (hlate : fate.isInTime timeout = false)
    (now : Nat) : timeout.after now ≤ now + fate.span timeout := by
  have hlong : min timeout Millis.longest < fate.delay :=
    Nat.lt_of_not_le (of_decide_eq_false hlate)
  exact Nat.add_le_add_left (Nat.le_min.2 ⟨Nat.le_of_lt hlong, Nat.le_refl _⟩) now

theorem arrival_eq_acknowledgement_iff {fate : Fate} {timeout : Millis} :
    fate.arrival timeout = .acknowledgement ↔ fate.isAcknowledged timeout = true := by
  cases htime : fate.isInTime timeout with
  | false => simp [arrival, isAcknowledged, Arrival.acknowledgement, htime]
  | true =>
    have hreply : fate.reply.isAcknowledgement = true ↔ fate.reply = .response .acknowledged :=
      ⟨Reply.eq_of_isAcknowledgement, fun h => by rw [h]; rfl⟩
    simp [arrival, isAcknowledged, Arrival.acknowledgement, htime, hreply]

/-- An endpoint request goes well if it is acknowledged in time, and only then. -/
theorem exists_conclude_arrival_iff {fate : Fate} {timeout : Millis} {demand : Demand}
    (hendpoint : demand.isEndpointDemand = true) :
    (∃ answer, demand.conclude (fate.arrival timeout) = .done answer) ↔
      fate.isAcknowledged timeout = true := by
  rw [← arrival_eq_acknowledgement_iff]
  constructor
  · rintro ⟨answer, hdone⟩
    exact Demand.eq_acknowledgement_of_conclude hendpoint hdone
  · intro harrival
    exact ⟨.nothing, by rw [harrival, Session.Demand.conclude_acknowledgement hendpoint]⟩

end Fate

/-- What a pass goes by besides the logs. -/
structure Conditions where
  isOnline : Bool
  timeout : Millis
  fate : Demand → Fate

namespace Conditions

variable (conditions : Conditions) (kind : Kind)

/-- What is left to push for an entry is acknowledged. Where this takes no request, it counts as
acknowledged. -/
def acknowledges (name : String) (entry : Entry kind.Registration) : Bool :=
  conditions.isOnline &&
    (entry.demand? kind name).all fun demand =>
      (conditions.fate demand).isAcknowledged conditions.timeout

/-- What a pass leaves of an entry. -/
def leaves (name : String) (entry : Entry kind.Registration) : Option (Entry kind.Registration) :=
  if conditions.acknowledges kind name entry || entry.isSettled then entry.afterPass else some entry

def asked (entries : List (String × Entry kind.Registration)) : List Demand :=
  if conditions.isOnline then Intent.demands kind entries else []

variable {conditions kind} {name : String} {entry : Entry kind.Registration}

theorem leaves_of_acknowledges (h : conditions.acknowledges kind name entry = true) :
    conditions.leaves kind name entry = entry.afterPass := by
  rw [leaves, h, Bool.true_or, if_pos rfl]

theorem leaves_of_isSettled (h : entry.isSettled = true) :
    conditions.leaves kind name entry = entry.afterPass := by
  rw [leaves, h, Bool.or_true, if_pos rfl]

theorem leaves_of_not_acknowledges (h : conditions.acknowledges kind name entry = false)
    (hsettled : entry.isSettled = false) : conditions.leaves kind name entry = some entry := by
  rw [leaves, h, hsettled, Bool.or_false, if_neg Bool.false_ne_true]

/-- Where nothing is left to do, nothing is done. -/
theorem leaves_of_action_eq_none (h : entry.action = none) :
    conditions.leaves kind name entry = some entry := by
  rw [leaves, Entry.afterPass, h, ite_self]

theorem asked_cons (head : String × Entry kind.Registration)
    (entries : List (String × Entry kind.Registration)) :
    conditions.asked kind (head :: entries) =
      conditions.asked kind [head] ++ conditions.asked kind entries := by
  unfold asked
  cases conditions.isOnline with
  | true =>
    simp only [if_true]
    rw [Intent.demands_cons, Intent.demands_cons head [], List.append_assoc]
    rfl
  | false => rfl

/-- Offline nothing is acknowledged. -/
theorem acknowledges_of_offline (h : conditions.isOnline = false) :
    conditions.acknowledges kind name entry = false := by
  rw [acknowledges, h, Bool.false_and]

theorem asked_of_offline (h : conditions.isOnline = false)
    (entries : List (String × Entry kind.Registration)) : conditions.asked kind entries = [] := by
  rw [asked, if_neg (Bool.eq_false_iff.1 h)]

theorem asked_eq_nil_of_demand? (h : entry.demand? kind name = none) :
    conditions.asked kind [(name, entry)] = [] := by
  rw [asked, Intent.demands_cons, h]
  exact ite_self _

/-- Online an entry is asked for just as its log calls for it. -/
theorem asked_of_demand? {demand : Demand} (honline : conditions.isOnline = true)
    (h : entry.demand? kind name = some demand) :
    conditions.asked kind [(name, entry)] = [demand] := by
  rw [asked, if_pos honline, Intent.demands_cons, h]
  rfl

end Conditions

namespace Session

variable {session next : Session} {owner : Owner} {kind : Kind} {name : String}
  {conditions : Conditions}

/-- The wait for the request of an owner comes to its end. -/
def serve (owner : Owner) (fate : Demand → Fate) (session : Session) : Session :=
  match session.flights.find? fun flight => flight.owner = owner with
  | some flight => session.run ((fate flight.request.demand).moves session.timeout flight.id)
  | none => session

/-- The waits for the requests of an owner come to their ends one after the other, up to a number
of them, and nothing else happens. -/
def served (session : Session) (owner : Owner) (fate : Demand → Fate) (count : Nat) : Session :=
  (serve owner fate)^[count] session

/-- A pass that nothing interferes with. -/
def pass (session : Session) (owner : Owner) (fate : Demand → Fate) (count : Nat) : Session :=
  (session.startReconcile owner).served owner fate count

theorem served_add (session : Session) (owner : Owner) (fate : Demand → Fate)
    (earlier later : Nat) :
    session.served owner fate (earlier + later) =
      (session.served owner fate earlier).served owner fate later := by
  rw [served, Nat.add_comm, Function.iterate_add_apply]
  rfl

/-- Nobody is served who waits for nothing. -/
theorem served_of_free (hfree : session.Free owner) (fate : Demand → Fate) (count : Nat) :
    session.served owner fate count = session := by
  have hstays : serve owner fate session = session := by rw [serve, hfree.find?_owner]
  exact Function.iterate_fixed hstays count

/-! ## One request -/

/-- A pass confirms what is acknowledged, and goes on in any case. -/
theorem resume_reconcile (session : Session) {flight : Flight}
    {confirmation : Intent.Log.Confirmation kind.Registration}
    {remaining : List (String × Entry kind.Registration)}
    (herrand : flight.errand = .reconcile kind confirmation remaining) {demand : Demand}
    (hendpoint : demand.isEndpointDemand = true) (fate : Fate) (timeout : Millis) :
    session.resume flight (demand.conclude (fate.arrival timeout)) =
      (if fate.isAcknowledged timeout then session.confirm kind confirmation
        else session).resumeReconcile flight.owner kind remaining := by
  have hdone : (∃ answer, demand.conclude (fate.arrival timeout) = .done answer) ↔
      fate.isAcknowledged timeout = true := Fate.exists_conclude_arrival_iff hendpoint
  obtain ⟨id, owner, errand, request, deadline⟩ := flight
  subst herrand
  cases houtcome : demand.conclude (fate.arrival timeout) with
  | done answer =>
    rw [if_pos (hdone.1 ⟨answer, houtcome⟩)]
    rfl
  | failed | panicked =>
    -- Whatever went wrong, nothing is confirmed, and the pass goes on.
    have hnot : ¬ fate.isAcknowledged timeout = true := by
      intro hacknowledged
      obtain ⟨answer, hanswer⟩ := hdone.2 hacknowledged
      exact absurd (houtcome.symm.trans hanswer) (by simp)
    rw [if_neg hnot]
    rfl

/-- The wait of a flight ends with its reply, or at the deadline without one. -/
theorem run_moves {flight : Flight} (hflight : session.flight? flight.id = some flight)
    (hdeadline : flight.deadline = session.timeout.after session.now) (fate : Fate) :
    session.run (fate.moves session.timeout flight.id) =
      ((session.step (.elapse (fate.span session.timeout))).land flight.id
        (fate.arrival session.timeout)).resume flight
          (flight.request.demand.conclude (fate.arrival session.timeout)) := by
  let waiting := session.step (.elapse (fate.span session.timeout))
  have hwaiting : waiting.flight? flight.id = some flight := hflight
  have harrive : ∀ arrival, waiting.arrive flight.id arrival =
      (waiting.land flight.id arrival).resume flight (flight.request.demand.conclude arrival) := by
    intro arrival
    rw [arrive, hwaiting]
  cases htime : fate.isInTime session.timeout with
  | true =>
    have hdue : waiting.now ≤ flight.deadline := by
      rw [hdeadline]
      exact fate.span_le_deadline session.timeout session.now
    calc session.run (fate.moves session.timeout flight.id)
        = waiting.reply flight.id fate.reply := by
          simp only [Fate.moves, htime, if_true]
          rfl
      _ = waiting.arrive flight.id (.reply fate.reply) := by
          rw [reply, hwaiting]
          exact if_pos hdue
      _ = _ := by
          rw [harrive, Fate.arrival, htime, if_pos rfl]
  | false =>
    have hover : flight.deadline ≤ waiting.now := by
      rw [hdeadline]
      exact Fate.deadline_le_span htime session.now
    calc session.run (fate.moves session.timeout flight.id)
        = waiting.expire flight.id := by
          simp only [Fate.moves, htime, Bool.false_eq_true, if_false]
          rfl
      _ = waiting.arrive flight.id (.expired session.timeout) := by
          rw [expire, hwaiting]
          exact if_pos hover
      _ = _ := by
          rw [harrive, Fate.arrival, htime, if_neg Bool.false_ne_true]

/-- The session after a request was sent and met its fate, before its errand is carried out. -/
def met (session : Session) (owner : Owner) (errand : Errand) (demand : Demand) (fate : Fate) :
    Session :=
  session.landed owner errand demand (fate.span session.timeout) (fate.arrival session.timeout)

/-- The wait for a request ends as its fate is. -/
theorem serve_send (hfree : session.Free owner)
    (confirmation : Intent.Log.Confirmation kind.Registration)
    (remaining : List (String × Entry kind.Registration)) {demand : Demand}
    (hendpoint : demand.isEndpointDemand = true) (fate : Demand → Fate) {next : Session}
    (hnext : session.met owner (.reconcile kind confirmation remaining) demand (fate demand) =
      next) :
    serve owner fate (session.send owner (.reconcile kind confirmation remaining) demand) =
      (if (fate demand).isAcknowledged session.timeout then next.confirm kind confirmation
        else next).resumeReconcile owner kind remaining := by
  let errand : Errand := .reconcile kind confirmation remaining
  let flight := session.flightFor owner errand demand
  have hflight : (session.send owner errand demand).flight? flight.id = some flight :=
    hfree.flight?_send errand demand
  calc serve owner fate (session.send owner errand demand)
      = (session.send owner errand demand).run ((fate demand).moves session.timeout flight.id) := by
        rw [serve, hfree.find?_owner_send]
        rfl
    _ = (session.met owner errand demand (fate demand)).resume flight
          (demand.conclude ((fate demand).arrival session.timeout)) :=
        run_moves hflight rfl (fate demand)
    _ = next.resume flight (demand.conclude ((fate demand).arrival session.timeout)) := by
        rw [hnext]
    _ = _ := resume_reconcile next rfl hendpoint (fate demand) session.timeout

/-! ## The entries of one log -/

/-- The session after a pass came to some entries of a log: each of them fared by itself, and
nothing else was done. -/
structure Handled (conditions : Conditions) (owner : Owner) (kind : Kind)
    (entries : List (String × Entry kind.Registration)) (session next : Session) : Prop where
  free : next.Free owner
  timeout : next.timeout = session.timeout
  others : ∀ other, other ≠ kind → next.log other = session.log other
  find? : ∀ name, (next.log kind).find? name =
    if name ∈ entries.map Prod.fst then
      ((session.log kind).find? name).bind (conditions.leaves kind name)
    else (session.log kind).find? name
  requested : next.requested = session.requested ++ conditions.asked kind entries

theorem Handled.refl (hfree : session.Free owner) :
    Handled conditions owner kind [] session session := by
  constructor
  case free => exact hfree
  case timeout => rfl
  case others => exact fun _ _ => rfl
  case find? => simp
  case requested => simp [Conditions.asked, Intent.demands]

section Turns

variable {entry : Entry kind.Registration}
  {remaining : List (String × Entry kind.Registration)}

/-- One turn and then the others. -/
theorem Handled.cons {last : Session}
    (hfirst : Handled conditions owner kind [(name, entry)] session next)
    (hrest : Handled conditions owner kind remaining next last)
    (habsent : name ∉ remaining.map Prod.fst) :
    Handled conditions owner kind ((name, entry) :: remaining) session last := by
  constructor
  case free => exact hrest.free
  case timeout => exact hrest.timeout.trans hfirst.timeout
  case others =>
    intro other hother
    rw [hrest.others other hother, hfirst.others other hother]
  case find? =>
    intro target
    rw [hrest.find?, hfirst.find?]
    by_cases hname : target = name
    · subst hname
      simp [habsent]
    · by_cases htarget : target ∈ remaining.map Prod.fst <;> simp [hname, htarget]
  case requested =>
    rw [hrest.requested, hfirst.requested, List.append_assoc, ← Conditions.asked_cons]

/-- A turn that leaves the entry as it is. -/
theorem Handled.stay (hfree : next.Free owner) (htimeout : next.timeout = session.timeout)
    (hlog : ∀ other, next.log other = session.log other)
    (hfound : (session.log kind).find? name = some entry)
    (hleaves : conditions.leaves kind name entry = some entry)
    (hrequested : next.requested = session.requested ++ conditions.asked kind [(name, entry)]) :
    Handled conditions owner kind [(name, entry)] session next := by
  constructor
  case free => exact hfree
  case timeout => exact htimeout
  case others => exact fun other _ => hlog other
  case find? =>
    intro target
    rw [hlog]
    by_cases hname : target = name
    · simp [hname, hfound, hleaves]
    · simp [hname]
  case requested => exact hrequested

/-- A turn that gets through with what is left to do for the entry. -/
theorem Handled.settle {action : Intent.Action} (haction : entry.action = some action)
    (hfree : next.Free owner) (htimeout : next.timeout = session.timeout)
    (hlog : ∀ other, next.log other = session.log other)
    (hfound : (session.log kind).find? name = some entry)
    (hleaves : conditions.leaves kind name entry = entry.afterPass)
    (hrequested : next.requested = session.requested ++ conditions.asked kind [(name, entry)]) :
    Handled conditions owner kind [(name, entry)] session
      (next.modifyLog kind fun log =>
        log.apply (entry.settling name (session.log kind).session action)) := by
  constructor
  case free => exact ⟨hfree.owner, hfree.fresh⟩
  case timeout => exact htimeout
  case others =>
    intro other hother
    rw [log_modifyLog_of_ne _ _ hother, hlog]
  case find? =>
    intro target
    rw [log_modifyLog_self, hlog, Intent.Log.find?_apply]
    by_cases hname : target = name
    · simp [hname, hfound, hleaves, Entry.revise_settling haction]
    · simp [hname, Entry.revise_settling_of_ne]
  case requested => exact hrequested

/-- The pass goes on behind the entry, once the wait for what it sent is over, and has handled the
entry. -/
def TakesTurn (conditions : Conditions) (owner : Owner) (kind : Kind) (name : String)
    (entry : Entry kind.Registration) (remaining : List (String × Entry kind.Registration))
    (session : Session) : Prop :=
  ∃ middle, Handled conditions owner kind [(name, entry)] session middle ∧
    (reconcileLog owner kind conditions.isOnline (reconcileAfter owner conditions.isOnline kind)
        ((name, entry) :: remaining) session).served owner conditions.fate
          (conditions.asked kind [(name, entry)]).length =
      reconcileLog owner kind conditions.isOnline (reconcileAfter owner conditions.isOnline kind)
        remaining middle

/-- A turn that sends nothing and leaves the entry as it is. -/
theorem takesTurn_of_stay (hfree : session.Free owner)
    (hfound : (session.log kind).find? name = some entry)
    (hasked : conditions.asked kind [(name, entry)] = [])
    (hleaves : conditions.leaves kind name entry = some entry)
    (hresume : ∀ next,
      reconcileLog owner kind conditions.isOnline next ((name, entry) :: remaining) session =
        reconcileLog owner kind conditions.isOnline next remaining session) :
    TakesTurn conditions owner kind name entry remaining session := by
  refine ⟨session, .stay hfree rfl (fun _ => rfl) hfound hleaves ?_, ?_⟩
  · rw [hasked, List.append_nil]
  · rw [hasked, hresume]
    rfl

/-- A turn that sends nothing and gets through. -/
theorem takesTurn_of_settle {action : Intent.Action} (haction : entry.action = some action)
    (hfree : session.Free owner) (hfound : (session.log kind).find? name = some entry)
    (hdemand : entry.demand? kind name = none)
    (hleaves : conditions.leaves kind name entry = entry.afterPass)
    (hresume : ∀ next,
      reconcileLog owner kind conditions.isOnline next ((name, entry) :: remaining) session =
        reconcileLog owner kind conditions.isOnline next remaining
          (session.modifyLog kind fun log =>
            log.apply (entry.settling name (session.log kind).session action))) :
    TakesTurn conditions owner kind name entry remaining session := by
  have hasked : conditions.asked kind [(name, entry)] = [] :=
    Conditions.asked_eq_nil_of_demand? hdemand
  refine ⟨_, .settle haction hfree rfl (fun _ => rfl) hfound hleaves ?_, ?_⟩
  · rw [hasked, List.append_nil]
  · rw [hasked, hresume]
    rfl

/-- A turn that sends a request and waits for it. -/
theorem takesTurn_of_send {action : Intent.Action} (haction : entry.action = some action)
    (hfree : session.Free owner) (htimeout : session.timeout = conditions.timeout)
    (honline : conditions.isOnline = true)
    (hfound : (session.log kind).find? name = some entry) {demand : Demand}
    (hdemand : entry.demand? kind name = some demand) (hsettled : entry.isSettled = false)
    (confirmation : Intent.Log.Confirmation kind.Registration)
    (hconfirmation : confirmation.operation =
      entry.settling name (session.log kind).session action)
    (hresume : ∀ next, reconcileLog owner kind true next ((name, entry) :: remaining) session =
      session.send owner (.reconcile kind confirmation remaining) demand) :
    TakesTurn conditions owner kind name entry remaining session := by
  let errand : Errand := .reconcile kind confirmation remaining
  let next := session.met owner errand demand (conditions.fate demand)
  have hasked := Conditions.asked_of_demand? honline hdemand
  have hnext : next.Free owner := hfree.landed errand demand _ _
  have hrequested : next.requested =
      session.requested ++ conditions.asked kind [(name, entry)] := by
    rw [hasked]
    exact requested_landed session owner errand demand _ _
  have hacknowledges : conditions.acknowledges kind name entry =
      (conditions.fate demand).isAcknowledged session.timeout := by
    rw [Conditions.acknowledges, honline, hdemand, htimeout]
    rfl
  have hserved := serve_send hfree confirmation remaining (isEndpointDemand_of_demand? hdemand)
    conditions.fate rfl
  rw [TakesTurn, hasked, honline, hresume]
  cases hacknowledged : (conditions.fate demand).isAcknowledged session.timeout with
  | true =>
    rw [hacknowledged] at hacknowledges
    rw [hacknowledged, if_pos rfl, confirm_eq_apply, hconfirmation] at hserved
    have hleaves := Conditions.leaves_of_acknowledges hacknowledges
    exact ⟨_, .settle haction hnext rfl (fun _ => rfl) hfound hleaves hrequested, hserved⟩
  | false =>
    rw [hacknowledged] at hacknowledges
    rw [hacknowledged, if_neg Bool.false_ne_true] at hserved
    have hleaves := Conditions.leaves_of_not_acknowledges hacknowledges hsettled
    exact ⟨_, .stay hnext rfl (fun _ => rfl) hfound hleaves hrequested, hserved⟩

/-- Offline a pass takes its turn with an entry only to remove it. -/
theorem takesTurn_offline (hoffline : conditions.isOnline = false) (hfree : session.Free owner)
    (hfound : (session.log kind).find? name = some entry) (hsettled : entry.isSettled = false) :
    TakesTurn conditions owner kind name entry remaining session := by
  refine takesTurn_of_stay hfree hfound (Conditions.asked_of_offline hoffline _)
    (Conditions.leaves_of_not_acknowledges (Conditions.acknowledges_of_offline hoffline) hsettled)
    fun next => ?_
  rw [hoffline, reconcileLog]
  cases haction : entry.action with
  | none => rfl
  | some action =>
    cases action with
    | remove =>
      have hremove := (Intent.Entry.action_eq_remove_iff entry).1 haction
      exact absurd (hsettled.symm.trans hremove) Bool.false_ne_true
    | register | deregister => rfl

/-- Online a pass takes its turn with an entry by the action that is left to do. -/
theorem takesTurn_online (honline : conditions.isOnline = true) (hfree : session.Free owner)
    (htimeout : session.timeout = conditions.timeout)
    (hfound : (session.log kind).find? name = some entry) (hsettled : entry.isSettled = false) :
    TakesTurn conditions owner kind name entry remaining session := by
  cases haction : entry.action with
  | none =>
    have hdemand : entry.demand? kind name = none := by rw [Entry.demand?, haction]
    refine takesTurn_of_stay hfree hfound (Conditions.asked_eq_nil_of_demand? hdemand)
      (Conditions.leaves_of_action_eq_none haction) fun next => ?_
    simp only [reconcileLog, haction]
  | some action =>
    cases action with
    | remove =>
      have hremove := (Intent.Entry.action_eq_remove_iff entry).1 haction
      exact absurd (hsettled.symm.trans hremove) Bool.false_ne_true
    | register =>
      have hdemand : entry.demand? kind name = some (.register kind name entry.desired) := by
        rw [Entry.demand?, haction]
      refine takesTurn_of_send haction hfree htimeout honline hfound hdemand hsettled
        (.pushed name entry.desired (session.log kind).session) rfl fun next => ?_
      simp only [reconcileLog, haction, if_true]
    | deregister =>
      cases hprimary : kind.primary? entry.desired with
      | none =>
        have hdemand : entry.demand? kind name = none := by
          simp only [Entry.demand?, haction, hprimary, Option.map_none]
        have hacknowledges : conditions.acknowledges kind name entry = true := by
          rw [Conditions.acknowledges, honline, hdemand]
          rfl
        refine takesTurn_of_settle haction hfree hfound hdemand
          (Conditions.leaves_of_acknowledges hacknowledges) fun next => ?_
        simp only [reconcileLog, haction, honline, if_true, hprimary]
        rfl
      | some endpoint =>
        have hdemand : entry.demand? kind name = some (.withdraw kind name endpoint) := by
          simp only [Entry.demand?, haction, hprimary, Option.map_some]
        refine takesTurn_of_send haction hfree htimeout honline hfound hdemand hsettled
          (.withdrawn name (session.log kind).session) rfl fun next => ?_
        simp only [reconcileLog, haction, if_true, hprimary]

/-- Settled entries go in any case. -/
theorem takesTurn_settled (hfree : session.Free owner)
    (hfound : (session.log kind).find? name = some entry) (hsettled : entry.isSettled = true) :
    TakesTurn conditions owner kind name entry remaining session := by
  have haction := (Intent.Entry.action_eq_remove_iff entry).2 hsettled
  have hdemand : entry.demand? kind name = none := by rw [Entry.demand?, haction]
  refine takesTurn_of_settle haction hfree hfound hdemand (Conditions.leaves_of_isSettled hsettled)
    fun next => ?_
  simp only [reconcileLog, haction]
  rfl

/-- An entry that is listed has its turn in a pass. -/
theorem takesTurn_of_listed (hfree : session.Free owner)
    (htimeout : session.timeout = conditions.timeout)
    (hfound : (session.log kind).find? name = some entry) :
    TakesTurn conditions owner kind name entry remaining session := by
  cases hsettled : entry.isSettled with
  | true => exact takesTurn_settled hfree hfound hsettled
  | false =>
    cases honline : conditions.isOnline with
    | true => exact takesTurn_online honline hfree htimeout hfound hsettled
    | false => exact takesTurn_offline honline hfree hfound hsettled

/-- A pass comes to the end of the entries of a log that it has with it. -/
theorem served_reconcileLog (hfree : session.Free owner)
    (htimeout : session.timeout = conditions.timeout) (hnodup : (remaining.map Prod.fst).Nodup)
    (hlisted : ∀ entry ∈ remaining, (session.log kind).find? entry.1 = some entry.2) :
    ∃ next, Handled conditions owner kind remaining session next ∧
      (reconcileLog owner kind conditions.isOnline (reconcileAfter owner conditions.isOnline kind)
          remaining session).served owner conditions.fate (conditions.asked kind remaining).length =
        reconcileAfter owner conditions.isOnline kind next := by
  -- The first entry takes its turn, and the others are still as the pass has them, for their names
  -- differ.
  induction remaining generalizing session with
  | nil =>
    have hasked : conditions.asked kind [] = [] := by simp [Conditions.asked, Intent.demands]
    exact ⟨session, .refl hfree, by rw [hasked]; rfl⟩
  | cons head remaining ih =>
    obtain ⟨name, entry⟩ := head
    rw [List.map_cons, List.nodup_cons] at hnodup
    obtain ⟨habsent, hnodup⟩ := hnodup
    have hfound := hlisted (name, entry) List.mem_cons_self
    have htakes : TakesTurn conditions owner kind name entry remaining session :=
      takesTurn_of_listed hfree htimeout hfound
    obtain ⟨middle, hmiddle, hturn⟩ := htakes
    have hstill : ∀ other ∈ remaining, (middle.log kind).find? other.1 = some other.2 := by
      intro other hother
      have hne : other.1 ≠ name := by
        intro hname
        rw [← hname] at habsent
        exact habsent (List.mem_map.2 ⟨other, hother, rfl⟩)
      rw [hmiddle.find?]
      simpa [hne] using hlisted other (List.mem_cons_of_mem _ hother)
    obtain ⟨next, hnext, hserved⟩ :=
      ih hmiddle.free (hmiddle.timeout.trans htimeout) hnodup hstill
    refine ⟨next, hmiddle.cons hnext habsent, ?_⟩
    rw [Conditions.asked_cons, List.length_append, served_add, hturn, hserved]

end Turns

end Session

end RegistrySession
