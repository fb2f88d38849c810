import RegistrySession.Proofs.Session.Connection
import RegistrySession.Proofs.Session.Dispatch

/-!
# Requests into an outage

A call looks at the connection at the moment at which it sends.  A pass looks at it once, when it
begins, and then sends one request after the other as the replies come.  So a connection that is
lost while the pass waits does not keep it from sending on.
-/

namespace RegistrySession.Session

variable {start session next : Session} {kind : Kind} {name : String} {move : Move}
  {flight : Flight}

/-- A pass that began online after one part of a run, and has waited for some reply ever since. -/
structure Underway (start : Session) (owner : Owner) (earlier later : List Move) : Prop where
  online : (start.run earlier).isOnline = true
  waits : ∀ middle, middle <+: later →
    ∃ flight ∈ (start.run (earlier ++ .start .reconcile :: middle)).flights, flight.owner = owner

theorem Underway.snoc {earlier later : List Move}
    (hunderway : start.Underway flight.owner earlier later)
    (hflight : flight ∈ (start.run (earlier ++ .start .reconcile :: (later ++ [move]))).flights) :
    start.Underway flight.owner earlier (later ++ [move]) := by
  refine ⟨hunderway.online, fun middle hinitial => ?_⟩
  rcases List.prefix_concat_iff.1 hinitial with rfl | hbefore
  · exact ⟨flight, hflight, rfl⟩
  · exact hunderway.waits middle hbefore

/-- Whatever a pass waits for, it began online, and has waited since. -/
theorem exists_underway (hsound : start.Sound) (hstart : start.flights = []) {moves : List Move}
    {task : Nat} (hflight : flight ∈ (start.run moves).flights)
    (howner : flight.owner = .run .reconcile task) :
    ∃ earlier later, moves = earlier ++ .start .reconcile :: later ∧
      start.Underway flight.owner earlier later := by
  induction moves using List.reverseRecOn generalizing flight with
  | nil =>
    change flight ∈ start.flights at hflight
    rw [hstart] at hflight
    exact absurd hflight List.not_mem_nil
  | append_singleton moves move ih =>
    -- A flight that is still on its way, or the reply to which lets the pass send, was there.
    have hlonger : ∀ waiting ∈ (start.run moves).flights, waiting.owner = flight.owner →
        ∃ earlier later, moves ++ [move] = earlier ++ .start .reconcile :: later ∧
          start.Underway flight.owner earlier later := by
      intro waiting hwaiting hsame
      obtain ⟨earlier, later, rfl, hunderway⟩ := ih hwaiting (hsame.trans howner)
      rw [hsame] at hunderway
      have hsplit : (earlier ++ .start .reconcile :: later) ++ [move] =
          earlier ++ .start .reconcile :: (later ++ [move]) := by simp
      rw [hsplit] at hflight
      exact ⟨earlier, later ++ [move], hsplit, hunderway.snoc hflight⟩
    by_cases hold : flight ∈ (start.run moves).flights
    · exact hlonger flight hold rfl
    · have hsends : (start.run moves).Sends move flight := ⟨by rwa [run_snoc] at hflight, hold⟩
      have hendpoint := hsends.isEndpointDemand_of_pass (hsound.run moves) howner
      cases hsends.pushes (hsound.run moves) hendpoint with
      | called id call hmove hcall =>
        exact absurd (hcall.symm.trans howner) (Owner.call_ne_run id .reconcile task)
      | passed _ _ _ _ _ _ _ hpass =>
        rcases hpass with ⟨rfl, honline⟩ | ⟨waiting, hwaiting, hsame⟩
        · refine ⟨moves, [], rfl, honline, fun middle hinitial => ?_⟩
          rw [List.prefix_nil.1 hinitial]
          exact ⟨flight, hflight, rfl⟩
        · exact hlonger waiting hwaiting hsame

/-- A call leaves the session online. -/
theorem isOnline_step_call (honline : session.isOnline = true) (id : Nat) (call : Call) :
    (session.step (.call id call)).isOnline = true :=
  (isOnline_run_iff honline [.call id call]).2 ⟨nofun, nofun⟩

/-- Every endpoint request of a call is sent online.  One of a pass is sent while the pass is under
way, and online just if, since the pass began online, neither what the session took off the feed
nor what the transport reported ended with the loss of the connection. -/
theorem endpoint_request_online_iff (config : Config) (link : Link) (feed : Feed)
    (moves : List Move) (move : Move) (flight : Flight)
    (hsent : flight ∈ ((ofConfig config link feed).run (moves ++ [move])).flights)
    (hnew : flight ∉ ((ofConfig config link feed).run moves).flights)
    (hendpoint : flight.request.demand.isEndpointDemand = true) :
    let start := ofConfig config link feed
    let session := start.run (moves ++ [move])
    (∃ id, flight.owner = .call id ∧ session.isOnline = true) ∨
      ∃ task earlier later, flight.owner = .run .reconcile task ∧
        moves ++ [move] = earlier ++ .start .reconcile :: later ∧
        start.Underway flight.owner earlier later ∧
        (session.isOnline = true ↔
          ((start.run earlier).reports (.start .reconcile :: later)).getLast? ≠ some false ∧
            ((Move.start .reconcile :: later).filterMap Move.running?).getLast? ≠ some false) := by
  intro start session
  have hsound : start.Sound := sound_ofConfig config link feed
  have hsends : (start.run moves).Sends move flight := ⟨by rwa [run_snoc] at hsent, hnew⟩
  cases hsends.pushes (hsound.run moves) hendpoint with
  | called id call hmove howner hcheck honline hpush =>
    have hsession : session = (start.run moves).step (.call id call) := by
      rw [← hmove, ← run_snoc]
    refine .inl ⟨id, howner, ?_⟩
    rw [hsession]
    exact isOnline_step_call honline id call
  | passed task kind name entry howner =>
    obtain ⟨earlier, later, hsplit, hunderway⟩ := exists_underway hsound rfl hsent howner
    have hsession : session = (start.run earlier).run (.start .reconcile :: later) := by
      rw [← run_append, ← hsplit]
    refine .inr ⟨task, earlier, later, howner, hsplit, hunderway, ?_⟩
    rw [hsession]
    exact isOnline_run_iff hunderway.online _

/-- The connection is lost while a pass waits with an agent, before it has come to the log of the
other kind. -/
def lostConnection : List Move :=
  [registering 0 "svc-a", .call 1 (.register .mcp "svc-b" ⟨"10.0.0.2", 9001, none⟩)] ++
    goingOnline ++ [.setRunning false, .announce .disconnected, .receive]

/-- The pass goes on, although the session knows that it is not online. -/
theorem exists_offline_request :
    let session := (opened false).run (lostConnection ++ [acknowledging 0])
    ∃ flight ∈ session.flights, flight ∉ ((opened false).run lostConnection).flights ∧
      flight.request.demand = .register .mcp "svc-b" ⟨"10.0.0.2", 9001, none⟩ ∧
      session.ledger.isConnected = false ∧ session.link.isRunning = false := by
  intro session
  have hdemands : session.flights.map (fun flight => (flight.id, flight.request.demand)) =
      [(1, .register .mcp "svc-b" ⟨"10.0.0.2", 9001, none⟩)] := rfl
  have hearlier : ((opened false).run lostConnection).flights.map Flight.id = [0] := rfl
  obtain ⟨flight, hflight, hsame⟩ := List.mem_map.1 (hdemands ▸ List.mem_singleton_self _)
  obtain ⟨hid, hdemand⟩ := Prod.mk.inj hsame
  refine ⟨flight, hflight, fun hold => ?_, hdemand, rfl, rfl⟩
  have hzero : flight.id ∈ [0] := hearlier ▸ List.mem_map_of_mem hold
  rw [hid] at hzero
  exact absurd hzero (by decide)

/-- The pass began online, and the connection was lost under it. -/
theorem endpoint_request_online_iff_lost :
    let start := opened false
    let session := start.run (lostConnection ++ [acknowledging 0])
    ∃ flight ∈ session.flights, flight ∉ (start.run lostConnection).flights ∧
      flight.request.demand.isEndpointDemand = true ∧
      ∃ task earlier later, flight.owner = .run .reconcile task ∧
        lostConnection ++ [acknowledging 0] = earlier ++ .start .reconcile :: later ∧
        start.Underway flight.owner earlier later ∧
        ¬ (((start.run earlier).reports (.start .reconcile :: later)).getLast? ≠ some false ∧
          ((Move.start .reconcile :: later).filterMap Move.running?).getLast? ≠ some false) := by
  intro start session
  obtain ⟨flight, hflight, hnew, hdemand, hconnected, -⟩ := exists_offline_request
  have hendpoint : flight.request.demand.isEndpointDemand = true := by
    rw [hdemand]
    rfl
  have hoffline : session.isOnline ≠ true := by
    rw [isOnline, hconnected]
    exact Bool.false_ne_true
  refine ⟨flight, hflight, hnew, hendpoint, ?_⟩
  rcases endpoint_request_online_iff {} { isRunning := false } (.ofCapacity 16) lostConnection
      (acknowledging 0) flight hflight hnew hendpoint with
    ⟨-, -, honline⟩ | ⟨task, earlier, later, howner, hsplit, hunderway, hiff⟩
  · exact absurd honline hoffline
  · exact ⟨task, earlier, later, howner, hsplit, hunderway, mt hiff.2 hoffline⟩

/-- So a pass can hand a request to a transport that is not running, in a session that took the
loss of its connection before. -/
theorem not_forall_endpoint_request_online :
    ¬ ∀ (config : Config) (link : Link) (feed : Feed) (moves : List Move) (move : Move)
      (flight : Flight),
      let start := ofConfig config link feed
      let session := start.run (moves ++ [move])
      flight ∈ session.flights → flight ∉ (start.run moves).flights →
        flight.request.demand.isEndpointDemand = true →
          session.ledger.isConnected = true ∧ session.link.isRunning = true := by
  intro hall
  obtain ⟨flight, hflight, hnew, hdemand, hconnected, -⟩ := exists_offline_request
  have hendpoint : flight.request.demand.isEndpointDemand = true := by
    rw [hdemand]
    rfl
  obtain ⟨honline, -⟩ := hall {} { isRunning := false } (.ofCapacity 16) lostConnection
    (acknowledging 0) flight hflight hnew hendpoint
  exact Bool.false_ne_true (hconnected.symm.trans honline)

end RegistrySession.Session
