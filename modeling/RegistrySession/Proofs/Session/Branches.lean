import RegistrySession.Session.Move

/-!
# The branches of a step

What a session does, operation by operation, with the few ways in which each of them can go.  Later
proofs read a step off these and do not open it again.
-/

namespace RegistrySession

namespace Session

variable (session : Session) (owner : Owner) {kind : Kind}

/-! ## Calls -/

/-- A call is carried out if it passes its checks, and refused otherwise. -/
theorem call_cases (id : Nat) (call : Call) :
    (session.check call = .ok () ∧ session.call id call = session.perform (.call id) call) ∨
      ∃ error, session.check call = .error error ∧
        session.call id call = session.conclude (.call id) (.failed error) := by
  rw [Session.call]
  cases session.check call with
  | ok _ => exact .inl ⟨rfl, rfl⟩
  | error error => exact .inr ⟨error, rfl, rfl⟩

/-- Offline nothing is pushed. -/
theorem register_cases (name : String) (registration : kind.Registration) :
    let intended := session.modifyLog kind fun log => log.intendRegister name registration
    (session.isOnline = true ∧ session.register owner kind name registration =
      intended.send owner (.confirm kind (.pushed name registration (intended.log kind).session))
        (.register kind name registration)) ∨
    (session.isOnline = false ∧
      session.register owner kind name registration = intended.conclude owner (.done .nothing)) := by
  intro intended
  cases honline : session.isOnline with
  | true => exact .inl ⟨rfl, if_pos honline⟩
  | false => exact .inr ⟨rfl, if_neg (Bool.eq_false_iff.1 honline)⟩

/-- A name that has no entry needs no request. -/
theorem deregister_of_absent {name : String} (endpoint : kind.Endpoint)
    (habsent : (session.log kind).find? name = none) :
    session.deregister owner kind name endpoint = session.conclude owner (.done .nothing) := by
  simp only [deregister, Intent.Log.intendDeregister, habsent, Option.isSome_none, Bool.not_false,
    if_true]

/-- A name that has an entry is withdrawn, and if online at once. -/
theorem deregister_of_find? {name : String} (endpoint : kind.Endpoint)
    {entry : Intent.Entry kind.Registration} (hentry : (session.log kind).find? name = some entry) :
    session.deregister owner kind name endpoint =
      let intended := session.modifyLog kind fun log => (log.intendDeregister name).1
      if session.isOnline then
        intended.send owner (.confirm kind (.withdrawn name (session.log kind).session))
          (.withdraw kind name endpoint)
      else intended.conclude owner (.done .nothing) := by
  simp only [deregister, Intent.Log.intendDeregister, hentry, Option.isSome_some, Bool.not_true,
    Bool.false_eq_true, if_false]
  rfl

theorem deregister_cases_of_find? {name : String} (endpoint : kind.Endpoint)
    {entry : Intent.Entry kind.Registration} (hentry : (session.log kind).find? name = some entry) :
    let intended := session.modifyLog kind fun log => (log.intendDeregister name).1
    (session.isOnline = true ∧ session.deregister owner kind name endpoint =
      intended.send owner (.confirm kind (.withdrawn name (session.log kind).session))
        (.withdraw kind name endpoint)) ∨
    (session.isOnline = false ∧
      session.deregister owner kind name endpoint = intended.conclude owner (.done .nothing)) := by
  intro intended
  have hknown := session.deregister_of_find? owner endpoint hentry
  cases honline : session.isOnline with
  | true => exact .inl ⟨rfl, hknown.trans (if_pos honline)⟩
  | false => exact .inr ⟨rfl, hknown.trans (if_neg (Bool.eq_false_iff.1 honline))⟩

/-- A pool that is shut down refuses a subscription.  Otherwise the watch is in place before the
record at hand is handed over, or a first one is asked for. -/
theorem subscribe_cases (key : Key) (listener : Listener) :
    ((session.watchlist kind).subscribe? session.now key listener = none ∧
      session.subscribe owner kind key listener = session.conclude owner (.failed .shutdown)) ∨
    ∃ list handle,
      (session.watchlist kind).subscribe? session.now key listener = some (list, handle) ∧
      ((∃ record, list.find? key = some record ∧
          session.subscribe owner kind key listener =
            (session.setWatchlist kind list).completeSubscription owner kind handle record) ∨
        (list.find? key = none ∧
          session.subscribe owner kind key listener =
            (session.setWatchlist kind list).send owner (.subscribe kind handle)
              (.query kind key))) := by
  rw [subscribe]
  cases hsubscribe : (session.watchlist kind).subscribe? session.now key listener with
  | none => exact .inl ⟨rfl, rfl⟩
  | some subscribed =>
    obtain ⟨list, handle⟩ := subscribed
    refine .inr ⟨list, handle, rfl, ?_⟩
    cases hfound : list.find? key with
    | some record => exact .inl ⟨record, rfl, by simp only [hfound]⟩
    | none => exact .inr ⟨rfl, by simp only [hfound]⟩

/-- Shutting down again does nothing. -/
theorem shutdown_cases :
    (session.isShutdown = true ∧ session.shutdown = session) ∨
    (session.isShutdown = false ∧ session.shutdown =
      ((({ session with isShutdown := true } : Session).stopRefreshes .agent).stopRefreshes
        .mcp).stopReconciler) := by
  cases hshutdown : session.isShutdown with
  | true => exact .inl ⟨rfl, if_pos hshutdown⟩
  | false => exact .inr ⟨rfl, if_neg (Bool.eq_false_iff.1 hshutdown)⟩

/-! ## Replies -/

/-- A first record is handed over before its subscription ends, and no error ends it then. -/
theorem completeSubscription_eq_conclude (handle : Handle Listener) (record : kind.Record) :
    ∃ outcome, session.completeSubscription owner kind handle record =
      ((session.setWatchlist kind
        ((session.watchlist kind).deliverInitial handle record).1).deliver kind
          ((session.watchlist kind).deliverInitial handle record).2).conclude owner outcome ∧
      ∀ error, outcome ≠ .failed error := by
  by_cases hbreaks : (!((session.watchlist kind).deliverInitial handle record).2.isEmpty &&
      handle.listener.breaksDown) = true
  · exact ⟨.panicked, if_pos hbreaks, by simp⟩
  · exact ⟨.done (.record kind record), if_neg hbreaks, by simp⟩

variable {flight : Flight} (outcome : Outcome Answer)

/-- A subscription ends with the record that it fetched, or without one. -/
theorem resume_subscribe_cases {handle : Handle Listener}
    (herrand : flight.errand = .subscribe kind handle) :
    (∃ answer record, outcome = .done answer ∧ answer.record? kind = some record ∧
      session.resume flight outcome =
        (session.absorb kind record).completeSubscription flight.owner kind handle record) ∨
    ((∀ answer, outcome = .done answer → answer.record? kind = none) ∧
      ∃ result, session.resume flight outcome = session.conclude flight.owner result ∧
        (∀ answer, result = .done answer → answer = .nothing) ∧
        ∀ error, result = .failed error → outcome = .failed error) := by
  rw [resume, herrand]
  cases outcome with
  | done answer =>
    cases hrecord : answer.record? kind with
    | some record => exact .inl ⟨answer, record, rfl, hrecord, by simp only [hrecord]⟩
    | none =>
      refine .inr ⟨fun other h => Outcome.done.inj h ▸ hrecord, .done .nothing,
        by simp only [hrecord], fun answer h => (Outcome.done.inj h).symm, by simp⟩
  | failed error =>
    refine .inr ⟨by simp, ?_⟩
    by_cases habsent : ∃ message, error = .notFound message
    · obtain ⟨message, rfl⟩ := habsent
      exact ⟨.done .nothing, rfl, fun answer h => (Outcome.done.inj h).symm, by simp⟩
    · refine ⟨.failed error, ?_, by simp, fun _ => id⟩
      cases error with
      | notFound message => exact absurd ⟨message, rfl⟩ habsent
      | _ => rfl
  | panicked =>
    exact .inr ⟨by simp, .panicked, rfl, by simp, by simp⟩

/-- A refresh ends with the record that it fetched, or without one. -/
theorem resume_refresh_cases (herrand : flight.errand = .refresh kind) :
    (∃ answer record, outcome = .done answer ∧ answer.record? kind = some record ∧
      session.resume flight outcome =
        (session.absorb kind record).conclude flight.owner (.done .nothing)) ∨
    ((∀ answer, outcome = .done answer → answer.record? kind = none) ∧
      ∃ result, session.resume flight outcome = session.conclude flight.owner result ∧
        ∀ error, result ≠ .failed error) := by
  rw [resume, herrand]
  cases outcome with
  | done answer =>
    cases hrecord : answer.record? kind with
    | some record => exact .inl ⟨answer, record, rfl, hrecord, by simp only [hrecord]⟩
    | none =>
      exact .inr ⟨fun other h => Outcome.done.inj h ▸ hrecord, .done .nothing,
        by simp only [hrecord], by simp⟩
  | failed error => exact .inr ⟨by simp, .done .nothing, rfl, by simp⟩
  | panicked => exact .inr ⟨by simp, .panicked, rfl, by simp⟩

/-- Only who waits for a reply goes on with it. -/
theorem arrive_cases (id : Nat) (arrival : Arrival) :
    (session.flight? id = none ∧ session.arrive id arrival = session) ∨
      ∃ flight, session.flight? id = some flight ∧ session.arrive id arrival =
        (session.land id arrival).resume flight (flight.request.demand.conclude arrival) := by
  rw [arrive]
  cases session.flight? id with
  | none => exact .inl ⟨rfl, rfl⟩
  | some flight => exact .inr ⟨flight, rfl, rfl⟩

/-- A reply that is not due changes nothing. -/
theorem reply_cases (id : Nat) (reply : Reply) :
    session.reply id reply = session ∨
      session.reply id reply = session.arrive id (.reply reply) := by
  rw [Session.reply]
  cases session.flight? id with
  | none => exact .inl rfl
  | some flight =>
    by_cases hdue : session.now ≤ flight.deadline
    · exact .inr (if_pos hdue)
    · exact .inl (if_neg hdue)

/-- A wait is given up only once its deadline has come. -/
theorem expire_cases (id : Nat) :
    session.expire id = session ∨
      session.expire id = session.arrive id (.expired session.timeout) := by
  rw [expire]
  cases session.flight? id with
  | none => exact .inl rfl
  | some flight =>
    by_cases hdue : flight.deadline ≤ session.now
    · exact .inr (if_pos hdue)
    · exact .inl (if_neg hdue)

/-! ## Events -/

/-- The next event is taken off the feed, or there is nobody or nothing to take. -/
theorem receive_cases :
    session.receive = session ∨
      ∃ received feed, session.isWatching = true ∧
        session.feed.receive? = some (received, feed) ∧
        session.receive =
          { session with
            feed
            ledger := session.ledger.observeReceived received
            isWatching := received ≠ Received.closed }.note (.observed received) := by
  cases hwatching : session.isWatching with
  | false =>
    rw [receive, hwatching]
    exact .inl rfl
  | true =>
    rw [receive, hwatching]
    cases session.feed.receive? with
    | none => exact .inl rfl
    | some taken => exact .inr ⟨taken.1, taken.2, rfl, rfl, rfl⟩

end Session

end RegistrySession
