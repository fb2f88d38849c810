import RegistrySession.Proofs.Session.Withdrawal

/-!
# Where endpoint requests come from

A step sends one request at most.  If the request registers or withdraws endpoints, it is either
that of a call, made just now and online, or that of a pass.  A pass sends only when it begins, and
then it found the session online, or when the wait for one of its own requests ends.
-/

namespace RegistrySession.Session

variable {start session next : Session} {kind : Kind} {name : String} {move : Move}
  {flight : Flight}

/-- Who sends an endpoint request in a step, and what for. -/
inductive Pushes (session : Session) (move : Move) (flight : Flight) : Prop
  | called (id : Nat) (call : Call) (hmove : move = .call id call)
      (howner : flight.owner = .call id) (hcheck : session.check call = .ok ())
      (honline : session.isOnline = true)
      (hpush : session.push? call = some flight.request.demand)
  | passed (task : Nat) (kind : Kind) (name : String) (entry : Intent.Entry kind.Registration)
      (howner : flight.owner = .run .reconcile task)
      (hdemand : entry.demand? kind name = some flight.request.demand)
      (hholds : session.Holds flight.owner kind (name, entry))
      (hpass : (move = .start .reconcile ∧ session.isOnline = true) ∨
        ∃ waiting ∈ session.flights, waiting.owner = flight.owner)

/-! ## Passes -/

/-- Offline a pass sends nothing. -/
theorem flights_reconcileLog_offline (owner : Owner) {next : Session → Session}
    (hnext : ∀ session, (next session).flights = session.flights)
    (remaining : List (String × Intent.Entry kind.Registration)) (session : Session) :
    (reconcileLog owner kind false next remaining session).flights = session.flights := by
  induction remaining generalizing session with
  | nil => exact hnext session
  | cons head remaining ih =>
    obtain ⟨name, entry⟩ := head
    rw [reconcileLog]
    cases entry.action with
    | none => exact ih session
    | some action =>
      cases action with
      | register | deregister => exact ih session
      | remove => exact ih _

theorem flights_startReconcile_offline (owner : Owner) (hoffline : session.isOnline = false) :
    (session.startReconcile owner).flights = session.flights := by
  have hfinish : ∀ session : Session,
      (session.conclude owner (.done .nothing)).flights = session.flights :=
    fun session => flights_conclude session owner _
  rw [startReconcile, hoffline]
  exact flights_reconcileLog_offline owner
    (fun session => flights_reconcileLog_offline owner hfinish _ session) _ session

/-- A run of the reconciler that sends when it begins finds the session online then. -/
theorem isOnline_of_sent_start (hsent : flight ∈ (session.start .reconcile).flights)
    (hnew : flight ∉ session.flights) : session.isOnline = true := by
  by_contra hoffline
  rw [Bool.not_eq_true] at hoffline
  rcases session.start_cases .reconcile with ⟨-, heq⟩ | ⟨pool, -, heq⟩ | ⟨pool, task, -, heq⟩
  · rw [heq] at hsent
    exact hnew hsent
  · rw [heq] at hsent
    exact hnew hsent
  · have hpool : (session.setPool .reconcile pool).isOnline = false := hoffline
    rw [heq, launch, flights_startReconcile_offline _ hpool] at hsent
    exact hnew hsent

/-- What is sent behind the end of a wait is sent by a pass, and the wait was its own. -/
theorem exists_waiting_of_arrive (hsound : session.Sound) {id : Nat} {arrival : Arrival}
    (hsent : flight ∈ (session.arrive id arrival).flights) (hnew : flight ∉ session.flights) :
    ∃ waiting ∈ session.flights, waiting.owner = flight.owner ∧
      ∃ task, flight.owner = .run .reconcile task := by
  cases hfound : session.flight? id with
  | none =>
    rw [arrive, hfound] at hsent
    exact absurd hsent hnew
  | some waiting =>
    have hwaiting : waiting ∈ session.flights := List.mem_of_find?_eq_some hfound
    by_cases hpass : ∃ task, waiting.owner = .run .reconcile task
    · have hadds := (frame_adds (· = waiting.owner)).arrive session id arrival fun found h => by
        rw [Option.some.inj (hfound.symm.trans h)]
      have howner := (hadds flight hsent).resolve_left hnew
      rw [howner]
      exact ⟨waiting, hwaiting, rfl, hpass⟩
    · obtain ⟨before, result, heq, -, hbefore⟩ :=
        (session.land id arrival).resume_eq_conclude (waiting.request.demand.conclude arrival)
          (hsound.errand_ne_reconcile hwaiting fun task howner => hpass ⟨task, howner⟩)
      rw [arrive, hfound] at hsent
      simp only at hsent
      rw [heq, flights_conclude] at hsent
      have hnone : (session.land id arrival).Adds (fun _ => False) before :=
        hbefore _ _ (frame_adds fun _ => False).toSteadyFrame
      exact absurd (List.filter_sublist.subset (hnone.subset hsent)) hnew

theorem isEndpointDemand_of_sent_refresh (hsent : flight ∈ (session.start (.refresh kind)).flights)
    (hnew : flight ∉ session.flights) : flight.request.demand.isEndpointDemand = false := by
  rcases session.start_cases (.refresh kind) with
    ⟨-, heq⟩ | ⟨pool, -, heq⟩ | ⟨pool, task, -, heq⟩
  · rw [heq] at hsent
    exact absurd hsent hnew
  · rw [heq] at hsent
    exact absurd hsent hnew
  · rw [heq] at hsent
    rw [((mem_flights_send hsent).resolve_left hnew).2]
    exact isEndpointDemand_query kind task.job

/-- Taking an event off the feed sends nothing. -/
theorem flights_receive (session : Session) : session.receive.flights = session.flights := by
  rcases session.receive_cases with hsame | ⟨received, feed, -, -, htaken⟩
  · rw [hsame]
  · rw [htaken]
    rfl

/-! ## Steps -/

/-- A pass sends what is left to do for an entry that it holds. -/
theorem Sends.passed (hsends : session.Sends move flight) (hsound : session.Sound) {task : Nat}
    (howner : flight.owner = .run .reconcile task)
    (hpass : (move = .start .reconcile ∧ session.isOnline = true) ∨
      ∃ waiting ∈ session.flights, waiting.owner = flight.owner) :
    session.Pushes move flight := by
  obtain ⟨middle, honset, hsequel⟩ := hsound.step_course move
  rcases hsequel.flight_mem_or hsends.sent howner with hold | hpushed
  · exact absurd (honset.flights_subset hold) hsends.new
  · obtain ⟨kind, name, entry, -, -, -, hdemand, hholds, -⟩ := hpushed
    exact .passed task kind name entry howner hdemand hholds hpass

/-- Whatever endpoint request a step sends is that of a call or of a pass. -/
theorem Sends.pushes (hsends : session.Sends move flight) (hsound : session.Sound)
    (hendpoint : flight.request.demand.isEndpointDemand = true) :
    session.Pushes move flight := by
  have hsent := hsends.sent
  have hnew := hsends.new
  have harrive : ∀ id arrival, flight ∈ (session.arrive id arrival).flights →
      session.Pushes move flight := by
    intro id arrival harrived
    obtain ⟨waiting, hwaiting, hsame, task, howner⟩ :=
      exists_waiting_of_arrive hsound harrived hnew
    exact hsends.passed hsound howner (.inr ⟨waiting, hwaiting, hsame⟩)
  cases move with
  | call id call =>
    rw [step, Session.call] at hsent
    cases hcheck : session.check call with
    | error error =>
      rw [hcheck] at hsent
      exact absurd hsent hnew
    | ok _ =>
      rw [hcheck] at hsent
      obtain ⟨honline, hpush⟩ := push?_of_sent hsent hnew hendpoint
      have howner : flight.owner = .call id := by
        by_cases hshutdown : call = .shutdown
        · rw [hshutdown] at hpush
          exact absurd hpush (Option.some_ne_none _).symm
        · have hadds := (frame_adds (· = Owner.call id)).perform rfl session hshutdown
          exact (hadds flight hsent).resolve_left hnew
      exact .called id call rfl howner hcheck honline hpush
  | reply id reply =>
    rcases session.reply_cases id reply with hsame | harrives
    · rw [step, hsame] at hsent
      exact absurd hsent hnew
    · rw [step, harrives] at hsent
      exact harrive id _ hsent
  | expire id =>
    rcases session.expire_cases id with hsame | harrives
    · rw [step, hsame] at hsent
      exact absurd hsent hnew
    · rw [step, harrives] at hsent
      exact harrive id _ hsent
  | start pool =>
    cases pool with
    | refresh kind =>
      rw [isEndpointDemand_of_sent_refresh hsent hnew] at hendpoint
      exact absurd hendpoint Bool.false_ne_true
    | reconcile =>
      have hadds := (frame_adds fun owner => ∃ task, owner = .run .reconcile task).start session
        .reconcile fun task => ⟨task, rfl⟩
      obtain ⟨task, howner⟩ := (hadds flight hsent).resolve_left hnew
      exact hsends.passed hsound howner (.inl ⟨rfl, isOnline_of_sent_start hsent hnew⟩)
  | receive =>
    rw [step, flights_receive] at hsent
    exact absurd hsent hnew
  | wake pool task => cases pool <;> exact absurd hsent hnew
  | elapse | setRunning | setSupport | announce | closeFeed | reorder => exact absurd hsent hnew

/-- What a log calls for are endpoint requests. -/
theorem isEndpointDemand_of_demand? {entry : Intent.Entry kind.Registration} {demand : Demand}
    (hdemand : entry.demand? kind name = some demand) : demand.isEndpointDemand = true := by
  rcases Intent.Entry.demand?_cases hdemand with ⟨-, rfl⟩ | ⟨-, endpoint, -, rfl⟩
  · rfl
  · rfl

/-- A pass sends endpoint requests only. -/
theorem Sends.isEndpointDemand_of_pass (hsends : session.Sends move flight)
    (hsound : session.Sound) {task : Nat} (howner : flight.owner = .run .reconcile task) :
    flight.request.demand.isEndpointDemand = true := by
  obtain ⟨middle, honset, hsequel⟩ := hsound.step_course move
  rcases hsequel.flight_mem_or hsends.sent howner with hold | hpushed
  · exact absurd (honset.flights_subset hold) hsends.new
  · obtain ⟨_, _, _, -, -, -, hdemand, -⟩ := hpushed
    exact isEndpointDemand_of_demand? hdemand

/-! ## What is noted of it -/

/-- What follows the onset of a step sends one request at most, and notes it. -/
theorem Sequel.requested_or (hsequel : start.Sequel session next) :
    (next.requested = session.requested ∧ next.flights ⊆ session.flights) ∨
      ∃ flight, flight.id = session.nextFlight ∧ flight ∈ next.flights ∧
        (∀ other ∈ next.flights, other ∈ session.flights ∨ other = flight) ∧
        next.requested = session.requested ++ [flight.request.demand] := by
  have hsend : ∀ (session : Session) owner errand demand,
      ∃ flight, flight.id = session.nextFlight ∧
        flight ∈ (session.send owner errand demand).flights ∧
        (∀ other ∈ (session.send owner errand demand).flights,
          other ∈ session.flights ∨ other = flight) ∧
        (session.send owner errand demand).requested =
          session.requested ++ [flight.request.demand] := by
    intro session owner errand demand
    refine ⟨_, rfl, List.mem_append_right _ (List.mem_singleton_self _), ?_, requested_note _ _⟩
    intro other hother
    rcases List.mem_append.1 hother with hold | hnew
    · exact .inl hold
    · exact .inr (List.mem_singleton.1 hnew)
  induction hsequel with
  | rest session => exact .inl ⟨rfl, fun _ h => h⟩
  | aside haside _ ih =>
    rw [← haside.requested_eq, ← haside.nextFlight]
    rcases ih with ⟨hsame, hflights⟩ | ⟨flight, hid, hflight, hothers, hrequested⟩
    · exact .inl ⟨hsame, fun _ h => haside.flights (hflights h)⟩
    · refine .inr ⟨flight, hid, hflight, fun other hother => ?_, hrequested⟩
      rcases hothers other hother with hold | hnew
      · exact .inl (haside.flights hold)
      · exact .inr hnew
  | prune other target _ ih => exact ih
  | ask howner hmay => exact .inr (hsend _ _ _ _)
  | push other target entry confirmation remaining hentry hremaining hdemand hmay =>
    exact .inr (hsend _ _ _ _)

/-- A move brings no request by itself. -/
theorem Onset.requested_eq (honset : session.Onset move next) (hmove : move ≠ .receive) :
    next.requested = session.requested := by
  cases honset with
  | rest => rfl
  | intend => rfl
  | lose hreceive => exact absurd hreceive hmove
  | confirm found hfound other confirmation =>
    exact (Aside.land session found.id .acknowledgement).requested_eq

/-- Taking an event off the feed asks for nothing. -/
theorem requested_receive (session : Session) :
    session.receive.requested = session.requested := by
  rcases session.receive_cases with hsame | ⟨received, feed, -, -, htaken⟩
  · rw [hsame]
  · rw [htaken, requested_note]
    exact List.append_nil _

/-- A step sends nothing, or one request, and then this is the last one noted. -/
theorem Sound.step_requested (hsound : session.Sound) (hnumbered : session.Numbered)
    (move : Move) :
    ((session.step move).requested = session.requested ∧ ∀ flight, ¬ session.Sends move flight) ∨
      ∃ flight, session.Sends move flight ∧ (∀ other, session.Sends move other → other = flight) ∧
        (session.step move).requested = session.requested ++ [flight.request.demand] := by
  by_cases hmove : move = .receive
  · subst hmove
    refine .inl ⟨requested_receive session, fun flight hsends => ?_⟩
    have hsent := hsends.sent
    rw [step, flights_receive] at hsent
    exact hsends.new hsent
  · obtain ⟨middle, honset, hsequel⟩ := hsound.step_course move
    rw [← honset.requested_eq hmove]
    rcases hsequel.requested_or with ⟨hsame, hflights⟩ | ⟨flight, hid, hflight, hothers, hrequested⟩
    · exact .inl ⟨hsame, fun flight hsends =>
        hsends.new (honset.flights_subset (hflights hsends.sent))⟩
    · refine .inr ⟨flight, ⟨hflight, fun hold => ?_⟩, fun other hsends => ?_, hrequested⟩
      · have hlt := hnumbered.fresh flight hold
        rw [hid, honset.change.nextFlight_eq] at hlt
        exact Nat.lt_irrefl _ hlt
      · exact (hothers other hsends.sent).resolve_left fun hold =>
          hsends.new (honset.flights_subset hold)

end RegistrySession.Session
