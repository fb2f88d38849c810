import RegistrySession.Proofs.Session.Connection
import RegistrySession.Proofs.Session.Origin

/-!
# Requests that the server does not support

A call asks whether the server has the feature before it leaves an intent, and nobody asks again.
So the request of a call is one that the server is not known to refuse.  A pass may send it when
the server has changed since, or when nothing was known of it at the time of the call, for want of
a connection.
-/

namespace RegistrySession

theorem Link.supportOf_eq_notSupported_iff (link : Link) (kind : Kind) :
    link.supportOf kind = .notSupported ↔
      link.isRunning = true ∧ link.support.get kind = .notSupported := by
  rw [supportOf]
  cases link.isRunning with
  | false => simp
  | true => simp

namespace Session

variable {session : Session} {kind : Kind}

/-- A call that passes its check meets no server that says it lacks the feature. -/
theorem supportOf_of_requireSupport (h : session.requireSupport kind = .ok ()) :
    session.link.supportOf kind ≠ .notSupported := by
  intro hlacks
  rw [requireSupport, if_pos hlacks] at h
  cases h

/-- A call that passed its check asks for nothing that the server is known to lack. -/
theorem supportOf_of_check {call : Call} {demand : Demand} (hasks : call.AsksFor demand)
    (hcheck : session.check call = .ok ()) :
    session.link.supportOf demand.kind ≠ .notSupported := by
  cases hasks with
  | register kind name registration => exact supportOf_of_requireSupport (of_check hcheck).2.2
  | deregisterAgent name named endpoint =>
    exact supportOf_of_requireSupport (of_check hcheck).2.2
  | deregisterMcp name address port endpoint =>
    exact supportOf_of_requireSupport (of_check hcheck).2.2

/-- What was not known to be missing is known to be missing later just if it was reported missing
last, or was missing before and not reported on, without a connection to tell. -/
theorem supportOf_run_iff (hsupport : session.link.supportOf kind ≠ .notSupported)
    (moves : List Move) :
    (session.run moves).link.supportOf kind = .notSupported ↔
      (session.run moves).link.isRunning = true ∧
        ((moves.filterMap (Move.support? kind)).getLast? = some .notSupported ∨
          (moves.filterMap (Move.support? kind)).getLast? = none ∧
            session.link.isRunning = false ∧ session.link.support.get kind = .notSupported) := by
  rw [Link.supportOf_eq_notSupported_iff, support_run]
  rw [Ne, Link.supportOf_eq_notSupported_iff, not_and] at hsupport
  refine and_congr_right fun _ => ?_
  cases (moves.filterMap (Move.support? kind)).getLast? with
  | some support => simp
  | none =>
    cases hrunning : session.link.isRunning with
    | true => simpa using hsupport hrunning
    | false => simp

/-- Every endpoint request goes back to a call that passed its check.  When a call itself sends it,
the server is not known to lack the feature.  When a pass sends it, the server is, just if the
transport runs and the feature was reported missing last since the call, or was missing all along,
and the call was made without a connection. -/
theorem endpoint_request_unsupported_iff (config : Config) (link : Link) (feed : Feed)
    (moves : List Move) (move : Move) (flight : Flight)
    (hsent : flight ∈ ((ofConfig config link feed).run (moves ++ [move])).flights)
    (hnew : flight ∉ ((ofConfig config link feed).run moves).flights)
    (hendpoint : flight.request.demand.isEndpointDemand = true) :
    let start := ofConfig config link feed
    let session := start.run (moves ++ [move])
    let kind := flight.request.demand.kind
    ∃ earlier id call later, moves ++ [move] = earlier ++ .call id call :: later ∧
      (start.run earlier).check call = .ok () ∧ call.AsksFor flight.request.demand ∧
      (flight.owner = .call id ∧ later = [] ∧ session.link.supportOf kind ≠ .notSupported ∨
        (∃ task, flight.owner = .run .reconcile task) ∧
          (session.link.supportOf kind = .notSupported ↔
            session.link.isRunning = true ∧
              ((later.filterMap (Move.support? kind)).getLast? = some .notSupported ∨
                (later.filterMap (Move.support? kind)).getLast? = none ∧
                  (start.run earlier).link.isRunning = false ∧
                  (start.run earlier).link.support.get kind = .notSupported))) := by
  intro start session kind
  have hsends : (start.run moves).Sends move flight := ⟨by rwa [run_snoc] at hsent, hnew⟩
  have hsound := (sound_ofConfig config link feed).run moves
  obtain ⟨earlier, id, call, later, hsplit, hcheck, hasks, howner⟩ :=
    (hsends.pushes hsound hendpoint).exists_call
  have hsession : session = (start.run earlier).run (.call id call :: later) := by
    rw [← run_append, ← hsplit]
  have hchecked : (start.run earlier).link.supportOf kind ≠ .notSupported :=
    supportOf_of_check hasks hcheck
  have hiff := supportOf_run_iff hchecked (.call id call :: later)
  rw [← hsession] at hiff
  refine ⟨earlier, id, call, later, hsplit, hcheck, hasks, ?_⟩
  rcases howner with ⟨hcall, rfl, honline⟩ | hpass
  · refine .inl ⟨hcall, rfl, fun hlacks => ?_⟩
    obtain ⟨-, hrunning⟩ := (Bool.and_eq_true _ _).mp honline
    rcases (hiff.1 hlacks).2 with hreported | ⟨-, hdown, -⟩
    · exact absurd hreported nofun
    · exact absurd (hrunning.symm.trans hdown) Bool.noConfusion
  · exact .inr ⟨hpass, hiff⟩

/-- A server without agents, to which there is no connection yet. -/
def agentless : Link where
  isRunning := false
  support := ⟨.notSupported, .supported⟩

/-- An agent is registered without a connection, and the connection comes up. -/
def registeredBlindly : List Move :=
  registering 0 "svc-a" :: goingOnline.dropLast

/-- The first pass pushes the registration to the server that has no use for it. -/
theorem exists_unsupported_request :
    let start := ofConfig {} agentless (.ofCapacity 16)
    let session := start.run (registeredBlindly ++ [.start .reconcile])
    ∃ flight ∈ session.flights, flight ∉ (start.run registeredBlindly).flights ∧
      flight.request.demand.isEndpointDemand = true ∧ flight.request.demand.kind = .agent ∧
      session.link.isRunning = true ∧ session.link.supportOf .agent = .notSupported := by
  intro start session
  have hsent : session.flights.any (fun flight =>
      flight.request.demand.isEndpointDemand && decide (flight.request.demand.kind = .agent)) =
      true := by decide +kernel
  have hnone : (start.run registeredBlindly).flights = [] :=
    List.isEmpty_iff.1 (by decide +kernel)
  obtain ⟨flight, hflight, hfacts⟩ := List.any_eq_true.1 hsent
  obtain ⟨hendpoint, hkind⟩ := (Bool.and_eq_true _ _).mp hfacts
  refine ⟨flight, hflight, ?_, hendpoint, of_decide_eq_true hkind, by decide +kernel,
    by decide +kernel⟩
  rw [hnone]
  exact List.not_mem_nil

/-- Nothing was known of the server when the call was made. -/
theorem endpoint_request_unsupported_iff_blindly :
    let start := ofConfig {} agentless (.ofCapacity 16)
    let session := start.run (registeredBlindly ++ [.start .reconcile])
    ∃ flight ∈ session.flights, flight ∉ (start.run registeredBlindly).flights ∧
      flight.request.demand.isEndpointDemand = true ∧
      ∃ earlier id call later,
        registeredBlindly ++ [.start .reconcile] = earlier ++ .call id call :: later ∧
        (start.run earlier).check call = .ok () ∧ call.AsksFor flight.request.demand ∧
        (∃ task, flight.owner = .run .reconcile task) ∧
        ((later.filterMap (Move.support? .agent)).getLast? = some .notSupported ∨
          (later.filterMap (Move.support? .agent)).getLast? = none ∧
            (start.run earlier).link.isRunning = false ∧
            (start.run earlier).link.support.get .agent = .notSupported) := by
  intro start session
  obtain ⟨flight, hflight, hnew, hendpoint, hkind, -, hlacks⟩ := exists_unsupported_request
  refine ⟨flight, hflight, hnew, hendpoint, ?_⟩
  obtain ⟨earlier, id, call, later, hsplit, hcheck, hasks, hsender⟩ :=
    endpoint_request_unsupported_iff {} agentless (.ofCapacity 16) registeredBlindly
      (.start .reconcile) flight hflight hnew hendpoint
  rw [hkind] at hsender
  refine ⟨earlier, id, call, later, hsplit, hcheck, hasks, ?_⟩
  rcases hsender with ⟨-, -, hhas⟩ | ⟨hpass, hiff⟩
  · exact absurd hlacks hhas
  · exact ⟨hpass, (hiff.1 hlacks).2⟩

/-- So a pass can push to a server what the server is known not to support. -/
theorem not_forall_endpoint_request_supported :
    ¬ ∀ (config : Config) (link : Link) (feed : Feed) (moves : List Move) (move : Move)
      (flight : Flight),
      let start := ofConfig config link feed
      let session := start.run (moves ++ [move])
      flight ∈ session.flights → flight ∉ (start.run moves).flights →
        flight.request.demand.isEndpointDemand = true → session.link.isRunning = true →
          session.link.supportOf flight.request.demand.kind ≠ .notSupported := by
  intro hall
  obtain ⟨flight, hflight, hnew, hendpoint, hkind, hrunning, hlacks⟩ := exists_unsupported_request
  have hhas := hall {} agentless (.ofCapacity 16) registeredBlindly (.start .reconcile) flight
    hflight hnew hendpoint hrunning
  rw [hkind] at hhas
  exact hhas hlacks

end Session

end RegistrySession
