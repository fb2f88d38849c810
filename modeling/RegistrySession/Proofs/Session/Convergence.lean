import RegistrySession.Proofs.Session.Acknowledged

/-!
# Two passes bring the logs to rest

A pass that nothing interferes with, and whose requests are all acknowledged in time, does for
every entry just what is left to do for it.  What is wanted is confirmed after one pass; what is
not wanted any more is settled by it, and gone after the next.  The induction is on the entries
that a pass has yet to come to, each of which it turns into what `Entry.afterPass` says while it
leaves the others alone.
-/

namespace RegistrySession

open Intent (Operation Wish lastWish?)

namespace Intent

variable {kind : Kind}

/-- What a pass leaves of an entry. -/
def Entry.afterPass {π : Type} (entry : Entry π) : Option (Entry π) :=
  match entry.action with
  | some .register => some { entry with isRegistered := true }
  | some .deregister => some { entry with isRegistered := false, isUnregistering := false }
  | some .remove => none
  | none => some entry

/-- What a pass does to the log for an entry, once it got through with what is left to do. -/
def Entry.settling {π : Type} (entry : Entry π) (name : String) (session : Nat) :
    Action → Operation π
  | .register => .confirmPush name entry.desired session
  | .deregister => .confirmDeregistered name session
  | .remove => .prune name

theorem Entry.revise_settling {π : Type} [DecidableEq π] {entry : Entry π} {action : Action}
    (haction : entry.action = some action) (name : String) (session : Nat) :
    (entry.settling name session action).revise session name (some entry) = entry.afterPass := by
  unfold afterPass
  cases action with
  | register =>
    have hexpected := ((action_eq_register_iff entry).1 haction).1
    simp [settling, Operation.revise, haction, hexpected]
  | deregister =>
    have hexpected := ((action_eq_deregister_iff entry).1 haction).1
    simp [settling, Operation.revise, haction, hexpected]
  | remove =>
    have hsettled := (action_eq_remove_iff entry).1 haction
    simp [settling, Operation.revise, haction, Option.filter, hsettled]

theorem Entry.revise_settling_of_ne {π : Type} [DecidableEq π] (entry : Entry π)
    {name target : String} (hname : target ≠ name) (session : Nat) (action : Action)
    (found : Option (Entry π)) :
    (entry.settling name session action).revise session target found = found := by
  cases action <;> simp [settling, Operation.revise, hname]

/-- After one pass there is nothing left to push. -/
theorem Entry.demand?_of_afterPass {entry after : Entry kind.Registration}
    (hafter : entry.afterPass = some after) (name : String) : after.demand? kind name = none := by
  rcases entry with ⟨desired, _ | _, _ | _, _ | _⟩ <;>
    simp only [afterPass, action, Option.some.injEq, reduceCtorEq] at hafter <;>
    subst hafter <;> rfl

/-- After two passes an entry is confirmed if it was wanted, and gone if it was not. -/
theorem Entry.afterPass_bind_afterPass {π : Type} (entry : Entry π) :
    entry.afterPass.bind afterPass =
      if entry.isExpected then some { entry with isRegistered := true } else none := by
  rcases entry with ⟨desired, _ | _, _ | _, _ | _⟩ <;> rfl

/-- The requests that entries call for, one for each that has something left to push. -/
def demands (kind : Kind) (entries : List (String × Entry kind.Registration)) : List Demand :=
  entries.filterMap fun entry => entry.2.demand? kind entry.1

theorem demands_cons (entry : String × Entry kind.Registration)
    (entries : List (String × Entry kind.Registration)) :
    demands kind (entry :: entries) =
      (entry.2.demand? kind entry.1).toList ++ demands kind entries := by
  rw [demands, List.filterMap_cons]
  cases entry.2.demand? kind entry.1 <;> rfl

def Log.demands (log : Log kind.Registration) : List Demand :=
  Intent.demands kind log.entries.entries

/-- Only entries with something left to do call for a request. -/
theorem Log.demands_pending (log : Log kind.Registration) :
    Intent.demands kind log.pending = log.demands := by
  rw [demands, Intent.demands, Intent.demands, pending, List.filterMap_filter]
  congr 1
  funext entry
  cases haction : entry.2.action <;> simp [Entry.demand?, haction]

/-- What is done about each entry may be done about those with something left to do only, if it
comes to nothing for the others. -/
theorem Log.ite_mem_pending (log : Log kind.Registration) (name : String)
    {change : Entry kind.Registration → Option (Entry kind.Registration)}
    (hrest : ∀ entry : Entry kind.Registration, entry.action = none → change entry = some entry) :
    (if name ∈ log.pending.map Prod.fst then (log.find? name).bind change else log.find? name) =
      (log.find? name).bind change := by
  by_cases hpending : name ∈ log.pending.map Prod.fst
  · rw [if_pos hpending]
  rw [if_neg hpending]
  cases hfound : log.find? name with
  | none => rfl
  | some entry =>
    have hdone : entry.action = none := by
      by_contra haction
      refine hpending (List.mem_map.2 ⟨(name, entry), ?_, rfl⟩)
      exact List.mem_filter.2 ⟨(Table.mem_entries_iff _ _ _).2 hfound,
        Option.isSome_iff_ne_none.2 haction⟩
    exact (hrest entry hdone).symm

end Intent

def Note.demand? : Note → Option Demand
  | .sent _ _ request => some request.demand
  | _ => none

namespace Session

variable {session next : Session} {owner : Owner} {kind : Kind} {name : String}

/-- All requests sent so far, the first to be sent first. -/
def requested (session : Session) : List Demand :=
  session.journal.reverse.filterMap fun note => note.2.demand?

/-- The server acknowledges the request that an owner waits with, after a delay. -/
def answer (owner : Owner) (session : Session) (delay : Millis) : Session :=
  match session.flights.find? fun flight => flight.owner = owner with
  | some flight => session.run [.elapse delay, .reply flight.id (.response .acknowledged)]
  | none => session

/-- The server acknowledges the requests of an owner one after the other, each after a delay of its
own, and nothing else happens. -/
def attend (session : Session) (owner : Owner) (delays : List Millis) : Session :=
  delays.foldl (answer owner) session

/-- An owner waits for nothing, and the next request can be told from those on their way. -/
structure Free (session : Session) (owner : Owner) : Prop where
  owner : ∀ flight ∈ session.flights, flight.owner ≠ owner
  fresh : ∀ flight ∈ session.flights, flight.id < session.nextFlight

theorem requested_note (session : Session) (note : Note) :
    (session.note note).requested = session.requested ++ note.demand?.toList := by
  simp only [requested, Session.note, List.reverse_cons, List.filterMap_append]
  cases hdemand : note.demand? <;> simp [hdemand]

/-- What is done aside sends nothing. -/
theorem Aside.requested_eq (haside : session.Aside next) :
    next.requested = session.requested := by
  obtain ⟨notes, hjournal, hplain⟩ := haside.journal
  have hnone : (notes.reverse.filterMap fun note => note.2.demand?) = [] := by
    rw [List.filterMap_eq_nil_iff]
    intro note hnote
    have hsent := (hplain note (List.mem_reverse.1 hnote)).1
    cases hdemand : note.2 <;> simp_all [Note.isSent, Note.demand?]
  rw [requested, hjournal, List.reverse_append, List.filterMap_append, hnone, List.append_nil]
  rfl

theorem Aside.free (haside : session.Aside next) (hfree : session.Free owner) :
    next.Free owner := by
  constructor
  case owner => exact fun flight hflight => hfree.owner flight (haside.flights hflight)
  case fresh =>
    intro flight hflight
    rw [haside.nextFlight]
    exact hfree.fresh flight (haside.flights hflight)

theorem isOnline_conclude (session : Session) (owner : Owner) (outcome : Outcome Answer) :
    (session.conclude owner outcome).isOnline = session.isOnline := by
  rcases owner with id | ⟨_ | _, task⟩ <;> rfl

theorem Free.find?_owner (hfree : session.Free owner) :
    session.flights.find? (fun flight => flight.owner = owner) = none := by
  rw [List.find?_eq_none]
  intro flight hflight
  simpa using hfree.owner flight hflight

theorem Free.flight?_nextFlight (hfree : session.Free owner) :
    session.flight? session.nextFlight = none := by
  rw [flight?, List.find?_eq_none]
  intro flight hflight
  simpa using Nat.ne_of_lt (hfree.fresh flight hflight)

/-- Nobody is served who waits for nothing. -/
theorem attend_of_free (hfree : session.Free owner) (delays : List Millis) :
    session.attend owner delays = session := by
  induction delays with
  | nil => rfl
  | cons delay delays ih =>
    have hstays : answer owner session delay = session := by rw [answer, hfree.find?_owner]
    rw [attend, List.foldl_cons, hstays]
    exact ih

/-! ## One request -/

def flightFor (session : Session) (owner : Owner) (errand : Errand) (demand : Demand) : Flight where
  id := session.nextFlight
  owner
  errand
  request := { space := session.space, demand }
  deadline := session.timeout.after session.now

theorem Free.find?_owner_send (hfree : session.Free owner) (errand : Errand) (demand : Demand) :
    (session.send owner errand demand).flights.find? (fun flight => flight.owner = owner) =
      some (session.flightFor owner errand demand) := by
  change (session.flights ++ [session.flightFor owner errand demand]).find? _ = _
  rw [List.find?_append, hfree.find?_owner]
  simp [flightFor]

theorem Free.flight?_send (hfree : session.Free owner) (errand : Errand) (demand : Demand) :
    (session.send owner errand demand).flight? session.nextFlight =
      some (session.flightFor owner errand demand) := by
  change (session.flights ++ [session.flightFor owner errand demand]).find? _ = _
  rw [List.find?_append, show session.flights.find? _ = none from hfree.flight?_nextFlight]
  simp [flightFor]

/-- The session after a request was sent and the wait for its reply was over, before its errand is
carried out. -/
def landed (session : Session) (owner : Owner) (errand : Errand) (demand : Demand)
    (span : Millis) (arrival : Arrival) : Session :=
  ((session.send owner errand demand).step (.elapse span)).land session.nextFlight arrival

theorem flights_landed (hfree : session.Free owner) (errand : Errand) (demand : Demand)
    (span : Millis) (arrival : Arrival) :
    (session.landed owner errand demand span arrival).flights = session.flights := by
  have hold : session.flights.filter (fun flight => flight.id ≠ session.nextFlight) =
      session.flights := by
    rw [List.filter_eq_self]
    intro flight hflight
    simpa using Nat.ne_of_lt (hfree.fresh flight hflight)
  change List.filter (fun flight : Flight => flight.id ≠ session.nextFlight)
    (session.flights ++ [_]) = _
  rw [List.filter_append, hold]
  simp

theorem Free.landed (hfree : session.Free owner) (errand : Errand) (demand : Demand)
    (span : Millis) (arrival : Arrival) :
    (session.landed owner errand demand span arrival).Free owner := by
  constructor
  case owner =>
    rw [flights_landed hfree]
    exact hfree.owner
  case fresh =>
    rw [flights_landed hfree]
    exact fun flight hflight => Nat.lt_succ_of_lt (hfree.fresh flight hflight)

theorem requested_landed (session : Session) (owner : Owner) (errand : Errand) (demand : Demand)
    (span : Millis) (arrival : Arrival) :
    (session.landed owner errand demand span arrival).requested =
      session.requested ++ [demand] := by
  have hsent : (session.send owner errand demand).requested = session.requested ++ [demand] :=
    requested_note _ _
  have hlanded := (Aside.land ((session.send owner errand demand).step (.elapse span))
    session.nextFlight arrival).requested_eq
  exact hlanded.trans hsent

/-- The session after a request was sent and acknowledged, before anything is confirmed. -/
def acknowledged (session : Session) (owner : Owner) (errand : Errand) (demand : Demand)
    (delay : Millis) : Session :=
  ((session.send owner errand demand).step (.elapse delay)).land session.nextFlight
    .acknowledgement

theorem Demand.conclude_acknowledgement {demand : Demand} (h : demand.isEndpointDemand = true) :
    demand.conclude .acknowledgement = .done .nothing := by
  cases demand <;> first | rfl | exact absurd h Bool.false_ne_true

/-- A pass that is answered in time confirms and goes on. -/
theorem answer_send (hfree : session.Free owner)
    {confirmation : Intent.Log.Confirmation kind.Registration}
    {remaining : List (String × Intent.Entry kind.Registration)} {demand : Demand}
    (hdemand : demand.isEndpointDemand = true) {delay : Millis}
    (hdelay : delay ≤ min session.timeout Millis.longest) :
    answer owner (session.send owner (.reconcile kind confirmation remaining) demand) delay =
      ((session.acknowledged owner (.reconcile kind confirmation remaining) demand delay).confirm
        kind confirmation).resumeReconcile owner kind remaining := by
  let errand : Errand := .reconcile kind confirmation remaining
  let flight := session.flightFor owner errand demand
  let waiting := (session.send owner errand demand).step (.elapse delay)
  have hwaiting : waiting.flight? session.nextFlight = some flight :=
    hfree.flight?_send errand demand
  have hdue : waiting.now ≤ flight.deadline := Nat.add_le_add_left hdelay session.now
  calc answer owner (session.send owner errand demand) delay
      = waiting.reply flight.id (.response .acknowledged) := by
        rw [answer, hfree.find?_owner_send]
        rfl
    _ = waiting.arrive flight.id .acknowledgement := by
        rw [reply, show waiting.flight? flight.id = some flight from hwaiting]
        exact if_pos hdue
    _ = (waiting.land flight.id .acknowledgement).resume flight
          (demand.conclude .acknowledgement) := by
        rw [arrive, show waiting.flight? flight.id = some flight from hwaiting]
        rfl
    _ = _ := by
        rw [Demand.conclude_acknowledgement hdemand]
        rfl

/-! ## The entries of one log -/

/-- The session after a pass came to some entries of a log: it did for each what was left to do,
and nothing else. -/
structure Passed (owner : Owner) (kind : Kind)
    (entries : List (String × Intent.Entry kind.Registration)) (session next : Session) :
    Prop where
  free : next.Free owner
  isOnline : next.isOnline = session.isOnline
  timeout : next.timeout = session.timeout
  others : ∀ other, other ≠ kind → next.log other = session.log other
  find? : ∀ name, (next.log kind).find? name =
    if name ∈ entries.map Prod.fst then
      ((session.log kind).find? name).bind Intent.Entry.afterPass
    else (session.log kind).find? name
  requested : next.requested = session.requested ++ Intent.demands kind entries

theorem Passed.refl (hfree : session.Free owner) : Passed owner kind [] session session := by
  constructor
  case free => exact hfree
  case isOnline => rfl
  case timeout => rfl
  case others => exact fun _ _ => rfl
  case find? => simp
  case requested => exact (List.append_nil _).symm

/-- A pass over one entry and then over the others is a pass over all. -/
theorem Passed.cons {last : Session} {entry : Intent.Entry kind.Registration}
    {entries : List (String × Intent.Entry kind.Registration)}
    (hfirst : Passed owner kind [(name, entry)] session next)
    (hrest : Passed owner kind entries next last) (habsent : name ∉ entries.map Prod.fst) :
    Passed owner kind ((name, entry) :: entries) session last := by
  constructor
  case free => exact hrest.free
  case isOnline => rw [hrest.isOnline, hfirst.isOnline]
  case timeout => rw [hrest.timeout, hfirst.timeout]
  case others =>
    intro other hother
    rw [hrest.others other hother, hfirst.others other hother]
  case find? =>
    intro target
    rw [hrest.find?, hfirst.find?]
    by_cases hname : target = name
    · subst hname
      simp [habsent]
    · by_cases htarget : target ∈ entries.map Prod.fst
      · simp [hname, htarget]
      · simp [hname, htarget]
  case requested =>
    rw [hrest.requested, hfirst.requested, Intent.demands_cons, Intent.demands_cons,
      List.append_assoc, List.append_assoc]
    rfl

/-- An operation that does for one entry what is left to do, after the request that it takes. -/
theorem Passed.of_apply {entry : Intent.Entry kind.Registration} {action : Intent.Action}
    (haction : entry.action = some action) (hfree : next.Free owner)
    (honline : next.isOnline = session.isOnline) (htimeout : next.timeout = session.timeout)
    (hlog : ∀ other, next.log other = session.log other)
    (hrequested : next.requested = session.requested ++ (entry.demand? kind name).toList)
    (hfound : (session.log kind).find? name = some entry) :
    Passed owner kind [(name, entry)] session
      (next.modifyLog kind fun log =>
        log.apply (entry.settling name (session.log kind).session action)) := by
  constructor
  case free => exact ⟨hfree.owner, hfree.fresh⟩
  case isOnline => exact honline
  case timeout => exact htimeout
  case others =>
    intro other hother
    rw [log_modifyLog_of_ne _ _ hother, hlog]
  case find? =>
    intro target
    rw [log_modifyLog_self, hlog, Intent.Log.find?_apply]
    by_cases hname : target = name
    · simp [hname, hfound, Intent.Entry.revise_settling haction]
    · simp [hname, Intent.Entry.revise_settling_of_ne]
  case requested =>
    change next.requested = _
    rw [hrequested, Intent.demands_cons, Intent.demands, List.filterMap_nil, List.append_nil]

section Pass

variable {entry : Intent.Entry kind.Registration}
  {remaining : List (String × Intent.Entry kind.Registration)} {delay : Millis}

/-- What a pass does about the first of the entries that it has yet to come to. -/
inductive Turn (owner : Owner) (kind : Kind) (name : String)
    (entry : Intent.Entry kind.Registration)
    (remaining : List (String × Intent.Entry kind.Registration)) (session : Session) : Prop
  | skip {next : Session} (hdemand : entry.demand? kind name = none)
      (hresume : session.resumeReconcile owner kind ((name, entry) :: remaining) =
        next.resumeReconcile owner kind remaining)
      (hpassed : Passed owner kind [(name, entry)] session next)
  | push {demand : Demand} (confirmation : Intent.Log.Confirmation kind.Registration)
      (hdemand : entry.demand? kind name = some demand)
      (hendpoint : demand.isEndpointDemand = true)
      (hresume : session.resumeReconcile owner kind ((name, entry) :: remaining) =
        session.send owner (.reconcile kind confirmation remaining) demand)
      (hpassed : ∀ errand delay, Passed owner kind [(name, entry)] session
        ((session.acknowledged owner errand demand delay).confirm kind confirmation))

theorem passed_of_none (hfree : session.Free owner)
    (hfound : (session.log kind).find? name = some entry) (haction : entry.action = none) :
    Passed owner kind [(name, entry)] session session := by
  constructor
  case free => exact hfree
  case isOnline => rfl
  case timeout => rfl
  case others => exact fun _ _ => rfl
  case find? =>
    intro target
    by_cases hname : target = name
    · simp [hname, hfound, Intent.Entry.afterPass, haction]
    · simp [hname]
  case requested => simp [Intent.demands, Intent.Entry.demand?, haction]

/-- What is acknowledged has been dealt with. -/
theorem passed_of_acknowledged (hfree : session.Free owner)
    (hfound : (session.log kind).find? name = some entry) {demand : Demand}
    (hdemand : entry.demand? kind name = some demand) {action : Intent.Action}
    (haction : entry.action = some action) (errand : Errand) (delay : Millis) :
    Passed owner kind [(name, entry)] session
      ((session.acknowledged owner errand demand delay).modifyLog kind
        fun log => log.apply (entry.settling name (session.log kind).session action)) := by
  refine .of_apply haction (hfree.landed errand demand delay .acknowledgement) rfl rfl
    (fun _ => rfl) ?_ hfound
  rw [hdemand]
  exact requested_landed session owner errand demand delay .acknowledgement

theorem passed_of_unasked (hfree : session.Free owner)
    (hfound : (session.log kind).find? name = some entry)
    (hdemand : entry.demand? kind name = none) {action : Intent.Action}
    (haction : entry.action = some action) :
    Passed owner kind [(name, entry)] session
      (session.modifyLog kind
        fun log => log.apply (entry.settling name (session.log kind).session action)) := by
  refine .of_apply haction hfree rfl rfl (fun _ => rfl) ?_ hfound
  rw [hdemand]
  exact (List.append_nil _).symm

/-- A pass takes its turn with each entry by the action that is left to do. -/
theorem turn_of_listed (hfree : session.Free owner)
    (hfound : (session.log kind).find? name = some entry) :
    Turn owner kind name entry remaining session := by
  cases haction : entry.action with
  | none =>
    refine .skip ?_ ?_ (passed_of_none hfree hfound haction)
    · rw [Intent.Entry.demand?, haction]
    · simp only [resumeReconcile, reconcileLog, haction]
  | some action =>
    cases action with
    | remove =>
      have hdemand : entry.demand? kind name = none := by rw [Intent.Entry.demand?, haction]
      refine .skip hdemand ?_ (passed_of_unasked hfree hfound hdemand haction)
      simp only [resumeReconcile, reconcileLog, haction]
      rfl
    | register =>
      have hdemand : entry.demand? kind name = some (.register kind name entry.desired) := by
        rw [Intent.Entry.demand?, haction]
      refine .push (.pushed name entry.desired (session.log kind).session) hdemand rfl ?_ ?_
      · simp only [resumeReconcile, reconcileLog, haction, if_true]
      · simp only [confirm_eq_apply]
        exact passed_of_acknowledged hfree hfound hdemand haction
    | deregister =>
      cases hprimary : kind.primary? entry.desired with
      | none =>
        have hdemand : entry.demand? kind name = none := by
          simp only [Intent.Entry.demand?, haction, hprimary, Option.map_none]
        refine .skip hdemand ?_ (passed_of_unasked hfree hfound hdemand haction)
        simp only [resumeReconcile, reconcileLog, haction, if_true, hprimary]
        rfl
      | some endpoint =>
        have hdemand : entry.demand? kind name = some (.withdraw kind name endpoint) := by
          simp only [Intent.Entry.demand?, haction, hprimary, Option.map_some]
        refine .push (.withdrawn name (session.log kind).session) hdemand rfl ?_ ?_
        · simp only [resumeReconcile, reconcileLog, haction, if_true, hprimary]
        · simp only [confirm_eq_apply]
          exact passed_of_acknowledged hfree hfound hdemand haction

/-- A pass that is served comes to the end of the entries that it has with it. -/
theorem attend_resumeReconcile (hfree : session.Free owner)
    (hnodup : (remaining.map Prod.fst).Nodup)
    (hlisted : ∀ entry ∈ remaining, (session.log kind).find? entry.1 = some entry.2)
    {delays : List Millis}
    (hdelays : ∀ delay ∈ delays, delay ≤ min session.timeout Millis.longest)
    (hmany : (Intent.demands kind remaining).length ≤ delays.length) :
    ∃ next, Passed owner kind remaining session next ∧
      (session.resumeReconcile owner kind remaining).attend owner delays =
        (reconcileAfter owner true kind next).attend owner
          (delays.drop (Intent.demands kind remaining).length) := by
  induction remaining generalizing session delays with
  | nil => exact ⟨session, .refl hfree, rfl⟩
  | cons head remaining ih =>
    obtain ⟨name, entry⟩ := head
    rw [List.map_cons, List.nodup_cons] at hnodup
    obtain ⟨habsent, hnodup⟩ := hnodup
    have hstill : ∀ {middle : Session}, Passed owner kind [(name, entry)] session middle →
        ∀ other ∈ remaining, (middle.log kind).find? other.1 = some other.2 := by
      intro middle hpassed other hother
      have hne : other.1 ≠ name := by
        intro hname
        rw [← hname] at habsent
        exact habsent (List.mem_map.2 ⟨other, hother, rfl⟩)
      rw [hpassed.find?]
      simpa [hne] using hlisted other (List.mem_cons_of_mem _ hother)
    have hturn : Turn owner kind name entry remaining session :=
      turn_of_listed hfree (hlisted _ List.mem_cons_self)
    cases hturn with
    | skip hdemand hresume hpassed =>
      rw [Intent.demands_cons, hdemand, Option.toList_none, List.nil_append] at hmany ⊢
      obtain ⟨next, hnext, hattend⟩ :=
        ih hpassed.free hnodup (hstill hpassed) (by rwa [hpassed.timeout]) hmany
      exact ⟨next, hpassed.cons hnext habsent, by rw [hresume, hattend]⟩
    | push confirmation hdemand hendpoint hresume hpassed =>
      rw [Intent.demands_cons, hdemand, Option.toList_some, List.singleton_append,
        List.length_cons] at hmany ⊢
      obtain ⟨delay, later, rfl⟩ :=
        List.exists_cons_of_length_pos (Nat.lt_of_lt_of_le (Nat.succ_pos _) hmany)
      have hpassed := hpassed (.reconcile kind confirmation remaining) delay
      obtain ⟨next, hnext, hattend⟩ := ih hpassed.free hnodup (hstill hpassed)
        (fun delay hdelay => hpassed.timeout ▸ hdelays delay (List.mem_cons_of_mem _ hdelay))
        (Nat.le_of_succ_le_succ hmany)
      refine ⟨next, hpassed.cons hnext habsent, ?_⟩
      rw [hresume, attend, List.foldl_cons,
        answer_send hfree hendpoint (hdelays delay List.mem_cons_self)]
      exact hattend

end Pass

/-! ## One pass -/

section OnePass

variable {delays : List Millis}

/-- A pass over all that is left to do in a log. -/
theorem attend_pending (kind : Kind) (hfree : session.Free owner)
    (hdelays : ∀ delay ∈ delays, delay ≤ min session.timeout Millis.longest)
    (hmany : (session.log kind).demands.length ≤ delays.length) :
    ∃ next, next.Free owner ∧ next.isOnline = session.isOnline ∧ next.timeout = session.timeout ∧
      (∀ other, other ≠ kind → next.log other = session.log other) ∧
      (∀ name, (next.log kind).find? name =
        ((session.log kind).find? name).bind Intent.Entry.afterPass) ∧
      next.requested = session.requested ++ (session.log kind).demands ∧
      (session.resumeReconcile owner kind (session.log kind).pending).attend owner delays =
        (reconcileAfter owner true kind next).attend owner
          (delays.drop (session.log kind).demands.length) := by
  have hsub : (session.log kind).pending.map Prod.fst |>.Sublist
      ((session.log kind).entries.entries.map Prod.fst) :=
    List.filter_sublist.map Prod.fst
  have hnodup := hsub.nodup (session.log kind).entries.nodup
  have hlisted : ∀ entry ∈ (session.log kind).pending,
      (session.log kind).find? entry.1 = some entry.2 :=
    fun entry hentry => find?_of_mem_pending hentry
  rw [← Intent.Log.demands_pending] at hmany
  obtain ⟨next, hpassed, hattend⟩ := attend_resumeReconcile hfree hnodup hlisted hdelays hmany
  refine ⟨next, hpassed.free, hpassed.isOnline, hpassed.timeout, hpassed.others, ?_, ?_, ?_⟩
  · intro name
    rw [hpassed.find?]
    refine (session.log kind).ite_mem_pending name fun entry haction => ?_
    rw [Intent.Entry.afterPass, haction]
  · rw [hpassed.requested, Intent.Log.demands_pending]
  · rw [hattend, Intent.Log.demands_pending]

/-- The session after a pass that was served: each log went from one entry to the next as a pass
does, and the requests it called for were sent. -/
structure Reconciled (owner : Owner) (session next : Session) : Prop where
  free : next.Free owner
  isOnline : next.isOnline = session.isOnline
  find? : ∀ kind name, (next.log kind).find? name =
    ((session.log kind).find? name).bind Intent.Entry.afterPass
  requested : next.requested =
    session.requested ++ ((session.log .agent).demands ++ (session.log .mcp).demands)

/-- A pass that is served comes to its end. -/
theorem attend_startReconcile (hfree : session.Free owner) (honline : session.isOnline = true)
    (hdelays : ∀ delay ∈ delays, delay ≤ min session.timeout Millis.longest)
    (hmany : ((session.log .agent).demands ++ (session.log .mcp).demands).length ≤
      delays.length) :
    Reconciled owner session ((session.startReconcile owner).attend owner delays) := by
  rw [List.length_append] at hmany
  obtain ⟨middle, hfreeMiddle, honlineMiddle, htimeout, hothers, hagents, hsent, hfirst⟩ :=
    attend_pending .agent hfree hdelays (by omega)
  have hmcp : middle.log .mcp = session.log .mcp := hothers .mcp (by simp)
  have hdelaysRest : ∀ delay ∈ delays.drop (session.log .agent).demands.length,
      delay ≤ min middle.timeout Millis.longest := by
    intro delay hdelay
    rw [htimeout]
    exact hdelays delay (List.mem_of_mem_drop hdelay)
  obtain ⟨last, hfreeLast, honlineLast, -, hothersLast, hservers, hsentLast, hsecond⟩ :=
    attend_pending .mcp hfreeMiddle hdelaysRest (by rw [hmcp, List.length_drop]; omega)
  have hagentsLast : last.log .agent = middle.log .agent := hothersLast .agent (by simp)
  have hend := Aside.conclude last owner (.done .nothing)
  have hfreeEnd := hend.free hfreeLast
  -- Behind the agents comes the other log, and behind that nothing.
  have hattend : (session.startReconcile owner).attend owner delays =
      last.conclude owner (.done .nothing) :=
    calc (session.startReconcile owner).attend owner delays
        = (session.resumeReconcile owner .agent (session.log .agent).pending).attend owner
            delays := by rw [startReconcile, honline, resumeReconcile]
      _ = (middle.resumeReconcile owner .mcp (middle.log .mcp).pending).attend owner
            (delays.drop (session.log .agent).demands.length) := hfirst
      _ = (last.conclude owner (.done .nothing)).attend owner _ := hsecond
      _ = last.conclude owner (.done .nothing) := attend_of_free hfreeEnd _
  rw [hattend]
  constructor
  case free => exact hfreeEnd
  case isOnline => rw [isOnline_conclude, honlineLast, honlineMiddle]
  case find? =>
    intro kind name
    rw [hend.find?]
    cases kind with
    | agent => rw [hagentsLast, hagents]
    | mcp => rw [hservers, hmcp]
  case requested =>
    rw [hend.requested_eq, hsentLast, hsent, hmcp, List.append_assoc]

end OnePass

/-! ## Two passes -/

/-- After a pass that was served a log calls for nothing. -/
theorem Reconciled.demands_eq_nil (hreconciled : Reconciled owner session next) (kind : Kind) :
    (next.log kind).demands = [] := by
  rw [Intent.Log.demands, Intent.demands, List.filterMap_eq_nil_iff]
  intro entry hentry
  have hfound : (next.log kind).find? entry.1 = some entry.2 :=
    (Table.mem_entries_iff _ _ _).1 hentry
  rw [hreconciled.find?] at hfound
  obtain ⟨before, -, hafter⟩ := Option.bind_eq_some_iff.1 hfound
  exact Intent.Entry.demand?_of_afterPass hafter entry.1

/-- A pass behind another sends nothing, and is over at once. -/
theorem Reconciled.again (hreconciled : Reconciled owner session next)
    (honline : session.isOnline = true) (pause : Millis) :
    let last := (next.step (.elapse pause)).startReconcile owner
    last.Free owner ∧ last.requested = next.requested ∧
      ∀ kind name, (last.log kind).find? name = ((session.log kind).find? name).bind fun entry =>
        if entry.isExpected then some { entry with isRegistered := true } else none := by
  intro last
  have hagents : ((next.step (.elapse pause)).log .agent).demands = [] :=
    hreconciled.demands_eq_nil .agent
  have hservers : ((next.step (.elapse pause)).log .mcp).demands = [] :=
    hreconciled.demands_eq_nil .mcp
  have hfree : (next.step (.elapse pause)).Free owner :=
    ⟨hreconciled.free.owner, hreconciled.free.fresh⟩
  have hnone : ∀ delay ∈ ([] : List Millis), delay ≤ min next.timeout Millis.longest := by simp
  have hagain : Reconciled owner (next.step (.elapse pause)) last :=
    attend_startReconcile hfree (hreconciled.isOnline.trans honline) hnone
      (by simp [hagents, hservers])
  refine ⟨hagain.free, ?_, ?_⟩
  · calc last.requested
        = (next.step (.elapse pause)).requested ++ ([] ++ []) := by
          rw [hagain.requested, hagents, hservers]
      _ = next.requested := List.append_nil _
  · intro kind name
    calc (last.log kind).find? name
        = ((next.log kind).find? name).bind Intent.Entry.afterPass := hagain.find? kind name
      _ = ((session.log kind).find? name).bind fun entry =>
            entry.afterPass.bind Intent.Entry.afterPass := by
          rw [hreconciled.find?, Option.bind_assoc]
      _ = _ := by simp only [Intent.Entry.afterPass_bind_afterPass]

/-- A log whose entries are all wanted and confirmed has nothing left to do. -/
theorem pending_eq_nil {log : Intent.Log kind.Registration}
    (hconfirmed : ∀ name entry, log.find? name = some entry →
      entry.isRegistered = true ∧ entry.isExpected = true) : log.pending = [] := by
  rw [Intent.Log.pending, List.filter_eq_nil_iff]
  intro entry hentry
  have hfound := (Table.mem_entries_iff log.entries entry.1 entry.2).1 hentry
  rw [(Intent.Entry.action_eq_none_iff entry.2).2 (hconfirmed entry.1 entry.2 hfound)]
  exact Bool.false_ne_true

/-- From logs with any history, two passes that nothing interferes with and whose requests are
acknowledged in time bring both logs to rest.  The first pass sends one request for each entry that
has something left to push, the second sends none, and what remains is what was wished for last,
all of it confirmed. -/
theorem two_passes_converge (session : Session) (owner : Owner)
    (history : (kind : Kind) → List (Operation kind.Registration))
    (hhistory : ∀ kind name, (session.log kind).find? name =
      (Intent.Log.empty.replay (history kind)).find? name)
    (hkept : ∀ kind name, .remove name ∉ history kind)
    (honline : session.isOnline = true) (hfree : session.Free owner) (delays : List Millis)
    (hdelays : ∀ delay ∈ delays, delay ≤ min session.timeout Millis.longest)
    (hmany : ((session.log .agent).demands ++ (session.log .mcp).demands).length ≤ delays.length)
    (pause : Millis) :
    let first := (session.startReconcile owner).attend owner delays
    let second := (first.step (.elapse pause)).startReconcile owner
    (first.requested =
        session.requested ++ ((session.log .agent).demands ++ (session.log .mcp).demands) ∧
      ∀ flight ∈ first.flights, flight.owner ≠ owner) ∧
    (second.requested = first.requested ∧ ∀ flight ∈ second.flights, flight.owner ≠ owner) ∧
    ∀ kind,
      (∀ name, (∃ entry, (second.log kind).find? name = some entry) ↔
        ∃ desired, lastWish? name (history kind) = some (.register desired)) ∧
      (∀ name entry, (second.log kind).find? name = some entry →
        entry.isRegistered = true ∧ entry.isExpected = true ∧
          lastWish? name (history kind) = some (.register entry.desired)) ∧
      (second.log kind).pending = [] := by
  intro first second
  have hfirst : Reconciled owner session first :=
    attend_startReconcile hfree honline hdelays hmany
  obtain ⟨hfreeSecond, hrequested, hfind⟩ := hfirst.again honline pause
  refine ⟨⟨hfirst.requested, hfirst.free.owner⟩, ⟨hrequested, hfreeSecond.owner⟩, fun kind => ?_⟩
  have hconfirmed : ∀ name entry, (second.log kind).find? name = some entry →
      entry.isRegistered = true ∧ entry.isExpected = true ∧
        lastWish? name (history kind) = some (.register entry.desired) := by
    intro name entry hentry
    rw [hfind, hhistory] at hentry
    obtain ⟨before, hbefore, hafter⟩ := Option.bind_eq_some_iff.1 hentry
    have hwish := (Intent.shows_of_find?_replay hbefore).wish
    cases hexpected : before.isExpected with
    | false => simp [hexpected] at hafter
    | true =>
      rw [hexpected, if_pos rfl, Option.some.injEq] at hafter
      rw [hexpected, if_pos rfl] at hwish
      subst hafter
      exact ⟨rfl, rfl, hwish⟩
  refine ⟨fun name => ⟨?_, ?_⟩, hconfirmed, pending_eq_nil fun name entry hentry => ?_⟩
  · rintro ⟨entry, hentry⟩
    exact ⟨entry.desired, (hconfirmed name entry hentry).2.2⟩
  · rintro ⟨desired, hwish⟩
    obtain ⟨before, hbefore⟩ := Intent.exists_find?_replay (hkept kind name) hwish
    have hshown := (Intent.shows_of_find?_replay hbefore).wish
    rw [hwish] at hshown
    have hexpected : before.isExpected = true := by
      by_contra hunexpected
      simp [hunexpected] at hshown
    refine ⟨{ before with isRegistered := true }, ?_⟩
    rw [hfind, hhistory, hbefore, Option.bind_some, if_pos hexpected]
  · exact ⟨(hconfirmed name entry hentry).1, (hconfirmed name entry hentry).2.1⟩

/-- One name is to be registered, one to be withdrawn, and one was lost with its session. -/
def restlessHistory : (kind : Kind) → List (Operation kind.Registration)
  | .agent =>
    [.intendRegister "svc-a" (Agent.Registration.single sampleEndpoint),
      .intendRegister "svc-b" (Agent.Registration.single sampleEndpoint),
      .confirmPush "svc-b" (Agent.Registration.single sampleEndpoint) 0, .intendDeregister "svc-b"]
  | .mcp =>
    [.intendRegister "svc-c" { address := "10.0.0.1", port := 9000, version := none },
      .confirmRegistered "svc-c" 0, .loseSession]

def restless : Session :=
  { opened true with
    ledger :=
      { isConnected := true
        logs := .ofFn fun kind => Intent.Log.empty.replay (restlessHistory kind) } }

theorem log_restless (kind : Kind) :
    restless.log kind = Intent.Log.empty.replay (restlessHistory kind) :=
  PerKind.get_ofFn _ kind

theorem two_passes_converge_restless :
    let first := (restless.startReconcile (.run .reconcile 0)).attend (.run .reconcile 0)
      [10, 0, 2000]
    let second := (first.step (.elapse 3000)).startReconcile (.run .reconcile 0)
    first.requested.length = 3 ∧ second.requested = first.requested ∧
      (∃ entry, (second.log .agent).find? "svc-a" = some entry) ∧
      (¬ ∃ entry, (second.log .agent).find? "svc-b" = some entry) ∧
      (∃ entry, (second.log .mcp).find? "svc-c" = some entry) ∧
      ∀ kind, (second.log kind).pending = [] := by
  have hhistory : ∀ kind name, (restless.log kind).find? name =
      (Intent.Log.empty.replay (restlessHistory kind)).find? name :=
    fun kind name => by rw [log_restless]
  have hkept : ∀ kind name, .remove name ∉ restlessHistory kind := by
    intro kind name
    cases kind <;> simp [restlessHistory]
  have hfree : restless.Free (.run .reconcile 0) :=
    ⟨fun _ h => absurd h List.not_mem_nil, fun _ h => absurd h List.not_mem_nil⟩
  have hdelays : ∀ delay ∈ [10, 0, 2000], delay ≤ min restless.timeout Millis.longest := by
    decide +kernel
  have hcount : ((restless.log .agent).demands ++ (restless.log .mcp).demands).length = 3 := by
    decide +kernel
  obtain ⟨⟨hfirst, -⟩, ⟨hsecond, -⟩, hrest⟩ :=
    two_passes_converge restless (.run .reconcile 0) restlessHistory hhistory hkept rfl hfree
      [10, 0, 2000] hdelays (Nat.le_of_eq hcount) 3000
  have hnone : restless.requested = [] := rfl
  refine ⟨?_, hsecond, ?_, ?_, ?_, fun kind => (hrest kind).2.2⟩
  · rw [hfirst, hnone, List.nil_append, hcount]
  · exact ((hrest .agent).1 "svc-a").2 ⟨_, rfl⟩
  · rintro hfound
    obtain ⟨desired, hwish⟩ := ((hrest .agent).1 "svc-b").1 hfound
    exact nomatch hwish
  · exact ((hrest .mcp).1 "svc-c").2 ⟨_, rfl⟩

end Session

end RegistrySession
