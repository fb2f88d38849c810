import RegistrySession.Proofs.Session.Refusal

/-!
# What a call sends

A call that registers or deregisters sends one endpoint request, and that only if the session is
online and the call leaves an intent.  No other call sends an endpoint request.
-/

namespace RegistrySession.Session

variable {session : Session} {kind : Kind} {name : String} {flight : Flight}

/-- The endpoint request that goes with the intent of a call.  Deregistering a name that has no
entry records no intent. -/
def push? (session : Session) : Call → Option Demand
  | .register kind name registration => some (.register kind name registration)
  | .deregisterAgent name endpoint =>
    ((session.log .agent).find? name).map fun _ => .withdraw .agent name endpoint
  | .deregisterMcp name address port =>
    ((session.log .mcp).find? name).map fun _ =>
      .withdraw .mcp name (session.mcpEndpoint name address port)
  | _ => none

/-- A deregistration that sends a request has an entry to withdraw, and a connection. -/
theorem of_sent_deregister {owner : Owner} {endpoint : kind.Endpoint}
    (hsent : flight ∈ (session.deregister owner kind name endpoint).flights)
    (hnew : flight ∉ session.flights) :
    flight.request.demand = .withdraw kind name endpoint ∧ session.isOnline = true ∧
      ∃ entry, (session.log kind).find? name = some entry := by
  cases hentry : (session.log kind).find? name with
  | none =>
    rw [session.deregister_of_absent owner endpoint hentry, flights_conclude] at hsent
    exact absurd hsent hnew
  | some entry =>
    rcases session.deregister_cases_of_find? owner endpoint hentry with
      ⟨honline, heq⟩ | ⟨-, heq⟩
    · rw [heq] at hsent
      exact ⟨((mem_flights_send hsent).resolve_left hnew).2, honline, entry, rfl⟩
    · rw [heq, flights_conclude] at hsent
      exact absurd hsent hnew

/-- A registration that sends a request has a connection. -/
theorem of_sent_register {owner : Owner} {registration : kind.Registration}
    (hsent : flight ∈ (session.register owner kind name registration).flights)
    (hnew : flight ∉ session.flights) :
    flight.request.demand = .register kind name registration ∧ session.isOnline = true := by
  rcases session.register_cases owner name registration with ⟨honline, heq⟩ | ⟨-, heq⟩
  · rw [heq] at hsent
    exact ⟨((mem_flights_send hsent).resolve_left hnew).2, honline⟩
  · rw [heq, flights_conclude] at hsent
    exact absurd hsent hnew

/-- All that a subscription sends is the query for its key. -/
theorem demand_of_sent_subscribe {owner : Owner} {key : Key} {listener : Listener}
    (hsent : flight ∈ (session.subscribe owner kind key listener).flights)
    (hnew : flight ∉ session.flights) : flight.request.demand = .query kind key := by
  rcases session.subscribe_cases owner key listener with
    ⟨-, heq⟩ | ⟨list, handle, -, ⟨record, -, heq⟩ | ⟨-, heq⟩⟩
  · rw [heq, flights_conclude] at hsent
    exact absurd hsent hnew
  · obtain ⟨outcome, hcomplete, -⟩ :=
      (session.setWatchlist kind list).completeSubscription_eq_conclude owner handle record
    rw [heq, hcomplete, flights_conclude] at hsent
    have hnone := (frame_adds fun _ => False).deliverInitial (session.setWatchlist kind list) kind
      handle record
    exact absurd (hnone.subset hsent) hnew
  · rw [heq] at hsent
    exact ((mem_flights_send hsent).resolve_left hnew).2

theorem isEndpointDemand_query (kind : Kind) (key : Key) :
    (Demand.query kind key).isEndpointDemand = false := by
  cases kind <;> rfl

/-- A call sends an endpoint request online only, and only the one that goes with its intent. -/
theorem push?_of_sent {owner : Owner} {call : Call}
    (hsent : flight ∈ (session.perform owner call).flights) (hnew : flight ∉ session.flights)
    (hendpoint : flight.request.demand.isEndpointDemand = true) :
    session.isOnline = true ∧ session.push? call = some flight.request.demand := by
  cases call with
  | getAgent | getMcp | releaseAgent | releaseMcp =>
    rw [((mem_flights_send hsent).resolve_left hnew).2] at hendpoint
    exact absurd hendpoint Bool.false_ne_true
  | register other target registration =>
    obtain ⟨hdemand, honline⟩ := of_sent_register hsent hnew
    rw [hdemand]
    exact ⟨honline, rfl⟩
  | deregisterAgent target endpoint =>
    obtain ⟨hdemand, honline, known, hknown⟩ := of_sent_deregister hsent hnew
    rw [hdemand, push?, hknown]
    exact ⟨honline, rfl⟩
  | deregisterMcp target address port =>
    obtain ⟨hdemand, honline, known, hknown⟩ := of_sent_deregister hsent hnew
    rw [hdemand, push?, hknown]
    exact ⟨honline, rfl⟩
  | subscribe other =>
    rw [demand_of_sent_subscribe hsent hnew, isEndpointDemand_query] at hendpoint
    exact absurd hendpoint Bool.false_ne_true
  | unsubscribe =>
    rw [perform, flights_conclude] at hsent
    exact absurd hsent hnew
  | shutdown =>
    rw [perform, flights_conclude] at hsent
    exact absurd ((Aside.shutdown session).flights hsent) hnew

end RegistrySession.Session
