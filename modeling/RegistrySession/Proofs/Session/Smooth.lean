import RegistrySession.Proofs.Session.Dispatch

/-!
# Smooth runs

A run goes smoothly if the session stays online throughout, every endpoint request that ends is
acknowledged in time, and nobody registers or deregisters a name while another call for it is on
its way.  Requests of calls are not given up in such a run, so each waits for its acknowledgement.
-/

namespace RegistrySession

/-- An endpoint request is about one name. -/
theorem Demand.exists_concerns {demand : Demand} (h : demand.isEndpointDemand = true) :
    ∃ kind name, demand.concerns kind name = true := by
  cases demand with
  | register kind name registration => exact ⟨kind, name, concerns_register kind name _⟩
  | withdraw kind name endpoint => exact ⟨kind, name, concerns_withdraw kind name _⟩
  | _ => exact absurd h Bool.false_ne_true

theorem Demand.isEndpointDemand_of_concerns {kind : Kind} {name : String} {demand : Demand}
    (h : demand.concerns kind name = true) : demand.isEndpointDemand = true := by
  rcases concerns_iff.1 h with ⟨registration, rfl⟩ | ⟨endpoint, rfl⟩
  · rfl
  · rfl

/-- A request concerns one name only. -/
theorem Demand.eq_of_concerns {kind other : Kind} {name target : String} {demand : Demand}
    (h : demand.concerns kind name = true) (hother : demand.concerns other target = true) :
    other = kind ∧ target = name := by
  rcases concerns_iff.1 h with ⟨registration, rfl⟩ | ⟨endpoint, rfl⟩
  · obtain ⟨rfl, rfl⟩ : kind = other ∧ name = target := by simpa [concerns] using hother
    exact ⟨rfl, rfl⟩
  · obtain ⟨rfl, rfl⟩ : kind = other ∧ name = target := by simpa [concerns] using hother
    exact ⟨rfl, rfl⟩

def Call.target? : Call → Option (Kind × String)
  | .register kind name _ => some (kind, name)
  | .deregisterAgent name _ => some (.agent, name)
  | .deregisterMcp name .. => some (.mcp, name)
  | _ => none

def Reply.isAcknowledgement : Reply → Bool
  | .response .acknowledged => true
  | _ => false

theorem Reply.eq_of_isAcknowledgement {reply : Reply} (h : reply.isAcknowledgement = true) :
    reply = .response .acknowledged := by
  cases reply with
  | response response =>
    cases response with
    | acknowledged => rfl
    | _ => exact absurd h Bool.false_ne_true
  | _ => exact absurd h Bool.false_ne_true

namespace Session

variable {session : Session} {flight : Flight}

/-! ## Smooth runs -/

/-- No call for a name is made while another one is on its way, and no endpoint request ends but
with its acknowledgement. -/
def permits (session : Session) : Move → Bool
  | .call _ call => call.target?.all fun target =>
    session.flights.all fun flight =>
      !(flight.owner.isCall && flight.request.demand.concerns target.1 target.2)
  | .reply id reply => (session.flight? id).all fun flight =>
    !flight.request.demand.isEndpointDemand || reply.isAcknowledgement
  | .expire id => (session.flight? id).all fun flight =>
    !flight.request.demand.isEndpointDemand || session.now < flight.deadline
  | _ => true

/-- The session stays online, and every move is permitted. -/
def goesSmoothly (session : Session) : List Move → Bool
  | [] => session.isOnline
  | move :: moves =>
    session.isOnline && session.permits move && (session.step move).goesSmoothly moves

theorem isOnline_of_goesSmoothly {moves : List Move} (h : session.goesSmoothly moves = true) :
    session.isOnline = true := by
  cases moves with
  | nil => exact h
  | cons move moves =>
    rw [goesSmoothly, Bool.and_eq_true, Bool.and_eq_true] at h
    exact h.1.1

theorem goesSmoothly_append_iff {earlier later : List Move} :
    session.goesSmoothly (earlier ++ later) = true ↔
      session.goesSmoothly earlier = true ∧ (session.run earlier).goesSmoothly later = true := by
  induction earlier generalizing session with
  | nil => exact ⟨fun h => ⟨isOnline_of_goesSmoothly h, h⟩, And.right⟩
  | cons move earlier ih =>
    rw [List.cons_append, goesSmoothly, goesSmoothly, Bool.and_eq_true, ih, Bool.and_eq_true _
      ((session.step move).goesSmoothly earlier), and_assoc]
    rfl

theorem goesSmoothly_cons_iff {moves : List Move} :
    session.goesSmoothly (move :: moves) = true ↔
      session.isOnline = true ∧ session.permits move = true ∧
        (session.step move).goesSmoothly moves = true := by
  rw [goesSmoothly, Bool.and_eq_true, Bool.and_eq_true, and_assoc]

/-- The endpoint request that a move asks for: that of a call which passes its check and records an
intent. -/
def asks? (session : Session) : Move → Option Demand
  | .call _ call =>
    match session.check call with
    | .ok () => session.push? call
    | .error _ => none
  | _ => none

theorem asks?_of_check {id : Nat} {call : Call} (hcheck : session.check call = .ok ()) :
    session.asks? (.call id call) = session.push? call := by
  rw [asks?, hcheck]

/-! ## Waits -/

/-- A flight is found by its number. -/
theorem Numbered.flight?_eq_some (hnumbered : session.Numbered)
    (hflight : flight ∈ session.flights) : session.flight? flight.id = some flight := by
  cases hfound : session.flight? flight.id with
  | none =>
    have habsent := List.find?_eq_none.1 hfound flight hflight
    exact absurd (decide_eq_true rfl) habsent
  | some found =>
    have hid : found.id = flight.id := by simpa using List.find?_some hfound
    rw [hnumbered.unique flight hflight found (List.mem_of_find?_eq_some hfound) hid]

/-- The end of one wait leaves the others alone. -/
theorem mem_flights_arrive {id : Nat} {arrival : Arrival} (hflight : flight ∈ session.flights)
    (hid : flight.id ≠ id) : flight ∈ (session.arrive id arrival).flights := by
  rw [arrive]
  cases session.flight? id with
  | none => exact hflight
  | some found =>
    have hlanded : flight ∈ (session.land id arrival).flights :=
      List.mem_filter.2 ⟨hflight, decide_eq_true hid⟩
    exact frame_keeps.resume (session.land id arrival) trivial _ hlanded

/-- A shutdown does not keep calls from waiting. -/
theorem mem_flights_shutdown (hflight : flight ∈ session.flights)
    (howner : flight.owner.isCall = true) : flight ∈ session.shutdown.flights := by
  have hkeeps : ∀ (session : Session) (pool : PoolName), flight ∈ session.flights →
      flight ∈ (session.cutOff pool).flights := by
    intro session pool hflight
    refine List.mem_filter.2 ⟨hflight, ?_⟩
    cases hcase : flight.owner with
    | call id => rfl
    | run other task =>
      rw [hcase] at howner
      exact absurd howner Bool.false_ne_true
  rcases session.shutdown_cases with ⟨-, heq⟩ | ⟨-, heq⟩
  · rwa [heq]
  · rw [heq]
    exact hkeeps _ _ (hkeeps _ _ (hkeeps _ _ hflight))

/-- A wait goes on, unless a step is about its own end or cuts its run off. -/
theorem mem_flights_step_of_stays (hflight : flight ∈ session.flights) {move : Move}
    (hstays : flight.owner.isCall = true ∨ ∀ id, move ≠ .call id .shutdown) :
    flight ∈ (session.step move).flights ∨ (∃ reply, move = .reply flight.id reply) ∨
      move = .expire flight.id := by
  cases move with
  | call other call =>
    rw [step, Session.call]
    cases session.check call with
    | error error => exact .inl hflight
    | ok _ =>
      by_cases hcall : call = .shutdown
      · subst hcall
        have howner := hstays.resolve_right fun h => h other rfl
        exact .inl (mem_flights_shutdown hflight howner)
      · exact .inl (frame_keeps.perform trivial session hcall hflight)
  | reply other reply =>
    by_cases hid : flight.id = other
    · exact .inr (.inl ⟨reply, by rw [hid]⟩)
    · rcases session.reply_cases other reply with hsame | harrives
      · exact .inl (by rwa [step, hsame])
      · exact .inl (by
          rw [step, harrives]
          exact mem_flights_arrive hflight hid)
  | expire other =>
    by_cases hid : flight.id = other
    · exact .inr (.inr (by rw [hid]))
    · rcases session.expire_cases other with hsame | harrives
      · exact .inl (by rwa [step, hsame])
      · exact .inl (by
          rw [step, harrives]
          exact mem_flights_arrive hflight hid)
  | receive => exact .inl (by rwa [step, flights_receive])
  | wake pool task => exact .inl (frame_keeps.wake session pool task hflight)
  | start pool => exact .inl (frame_keeps.start session pool (fun _ => trivial) hflight)
  | elapse | setRunning | setSupport | announce | closeFeed | reorder => exact .inl hflight

/-- The wait of a call goes on, unless a step is about its own end. -/
theorem mem_flights_step {id : Nat} (hflight : flight ∈ session.flights)
    (howner : flight.owner = .call id) (move : Move) :
    flight ∈ (session.step move).flights ∨ (∃ reply, move = .reply flight.id reply) ∨
      move = .expire flight.id :=
  mem_flights_step_of_stays hflight (.inl (by rw [howner]; rfl))

end Session

end RegistrySession
