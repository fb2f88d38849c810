import RegistrySession.Proofs.Session.Fates
import RegistrySession.Proofs.Wire.Settlement

/-!
# Answers in time

A request waits for the first reply that comes by its deadline, and without one it is given up.
That reply alone decides what the request comes to.  What a step does to the clock, to the waits
and to the count of refreshed credentials is shown once of the small steps, so that a wait can be
followed through any run.
-/

namespace RegistrySession

/-! ## The wait -/

def Move.span : Move → Millis
  | .elapse span => span
  | _ => 0

def Reply.deniesPermission : Reply → Bool
  | .response (.failed .noRight _) => true
  | _ => false

theorem Arrival.deniesPermission_reply (reply : Reply) :
    (Arrival.reply reply).deniesPermission = reply.deniesPermission := by
  cases reply with
  | response response =>
    cases response with
    | failed code reason => cases code <;> rfl
    | record | released | acknowledged => rfl
  | failure | breakdown => rfl

theorem Arrival.deniesPermission_ofReply? (timeout : Millis) (reply? : Option Reply) :
    (ofReply? timeout reply?).deniesPermission = reply?.any Reply.deniesPermission := by
  cases reply? with
  | none => rfl
  | some reply => exact deniesPermission_reply reply

namespace Flight

/-- The reply that a move brings at a moment, if it is for this flight and in time. -/
def reply? (flight : Flight) (now : Nat) : Move → Option Reply
  | .reply id reply => if id = flight.id ∧ now ≤ flight.deadline then some reply else none
  | _ => none

def firstReply? (flight : Flight) (now : Nat) : List Move → Option Reply
  | [] => none
  | move :: moves => (flight.reply? now move).or (flight.firstReply? (now + move.span) moves)

theorem reply?_eq_some_iff {flight : Flight} {now : Nat} {move : Move} {given : Reply} :
    flight.reply? now move = some given ↔
      move = .reply flight.id given ∧ now ≤ flight.deadline := by
  cases move with
  | reply id reply =>
    simp only [reply?, Option.ite_none_right_eq_some, Option.some.injEq, Move.reply.injEq]
    constructor
    · rintro ⟨⟨rfl, hdue⟩, rfl⟩
      exact ⟨⟨rfl, rfl⟩, hdue⟩
    · rintro ⟨⟨rfl, rfl⟩, hdue⟩
      exact ⟨⟨rfl, hdue⟩, rfl⟩
  | _ => simp [reply?]

/-- The deadline has come, and the flight is given up. -/
def isGivenUp (flight : Flight) (now : Nat) : Move → Bool
  | .expire id => id = flight.id && flight.deadline ≤ now
  | _ => false

theorem isGivenUp_iff {flight : Flight} {now : Nat} {move : Move} :
    flight.isGivenUp now move = true ↔ move = .expire flight.id ∧ flight.deadline ≤ now := by
  cases move with
  | expire id => simp [isGivenUp]
  | _ => simp [isGivenUp]

/-- The moves last until the wait is over, and where a reply comes right at the deadline, the flight
is not given up before it. -/
def isWaitedFor (flight : Flight) (now : Nat) : List Move → Bool
  | [] => false
  | move :: moves =>
    (flight.reply? now move).isSome ||
      if flight.isGivenUp now move then (flight.firstReply? now moves).isNone
      else flight.isWaitedFor (now + move.span) moves

/-- Whatever the reply to a request is and however long it takes, the wait for it comes to an
end. -/
theorem waited_of_fate {flight : Flight} {timeout : Millis} {now : Nat}
    (hdeadline : flight.deadline = timeout.after now) (fate : Fate) :
    flight.isWaitedFor now (fate.moves timeout flight.id) = true ∧
      flight.firstReply? now (fate.moves timeout flight.id) =
        if fate.isInTime timeout then some fate.reply else none := by
  cases htime : fate.isInTime timeout with
  | true =>
    have hdue : now + fate.span timeout ≤ flight.deadline := by
      rw [hdeadline]
      exact fate.span_le_deadline timeout now
    simp [Fate.moves, htime, isWaitedFor, firstReply?, reply?, isGivenUp, Move.span, hdue]
  | false =>
    have hover : flight.deadline ≤ now + fate.span timeout := by
      rw [hdeadline]
      exact Fate.deadline_le_span htime now
    simp [Fate.moves, htime, isWaitedFor, firstReply?, reply?, isGivenUp, Move.span, hover]

end Flight

namespace Session

variable {session next last : Session} {flight : Flight}

/-- A reply that denies permission comes in time for a request that waits. -/
def isDenied (session : Session) : Move → Bool
  | .reply id reply =>
    reply.deniesPermission && (session.flight? id).any fun flight => session.now ≤ flight.deadline
  | _ => false

def denials (session : Session) : List Move → Nat
  | [] => 0
  | move :: moves =>
    (if session.isDenied move then 1 else 0) + (session.step move).denials moves

/-! ### What steps do to it -/

/-- Time goes by, credentials are refreshed a number of times, and whoever waits in the end waited
before or has a number that is new. -/
structure Advances (span : Millis) (refreshes : Nat) (session next : Session) : Prop where
  now : next.now = session.now + span
  timeout : next.timeout = session.timeout
  refreshes : next.credentialRefreshes = session.credentialRefreshes + refreshes
  nextFlight : session.nextFlight ≤ next.nextFlight
  flights : ∀ flight ∈ next.flights, flight ∈ session.flights ∨ session.nextFlight ≤ flight.id
  numbered : session.Numbered → next.Numbered

namespace Advances

variable {span more : Millis} {refreshes others : Nat}

theorem trans (hfirst : Advances span refreshes session next)
    (hsecond : Advances more others next last) :
    Advances (span + more) (refreshes + others) session last := by
  constructor
  case now => rw [hsecond.now, hfirst.now, Nat.add_assoc]
  case timeout => rw [hsecond.timeout, hfirst.timeout]
  case refreshes => rw [hsecond.refreshes, hfirst.refreshes, Nat.add_assoc]
  case nextFlight => exact Nat.le_trans hfirst.nextFlight hsecond.nextFlight
  case flights =>
    intro flight hflight
    rcases hsecond.flights flight hflight with hold | hnew
    · exact hfirst.flights flight hold
    · exact .inr (Nat.le_trans hfirst.nextFlight hnew)
  case numbered => exact fun hnumbered => hsecond.numbered (hfirst.numbered hnumbered)

/-- Where nobody begins to wait, only the clock and the count matter. -/
theorem of_subset (hnow : next.now = session.now + span) (htimeout : next.timeout = session.timeout)
    (hrefreshes : next.credentialRefreshes = session.credentialRefreshes + refreshes)
    (hnext : next.nextFlight = session.nextFlight) (hflights : next.flights ⊆ session.flights) :
    Advances span refreshes session next := by
  constructor
  case now => exact hnow
  case timeout => exact htimeout
  case refreshes => exact hrefreshes
  case nextFlight => exact Nat.le_of_eq hnext.symm
  case flights => exact fun flight hflight => .inl (hflights hflight)
  case numbered => exact fun hnumbered => hnumbered.of_subset hflights hnext

theorem send (session : Session) (owner : Owner) (errand : Errand) (demand : Demand) :
    Advances 0 0 session (session.send owner errand demand) := by
  constructor
  case now => rfl
  case timeout => rfl
  case refreshes => rfl
  case nextFlight => exact Nat.le_succ _
  case flights =>
    intro flight hflight
    rcases List.mem_append.1 hflight with hold | hnew
    · exact .inl hold
    · obtain rfl := List.mem_singleton.1 hnew
      exact .inr (Nat.le_refl _)
  case numbered => exact fun hnumbered => hnumbered.send owner errand demand

theorem land (session : Session) (id : Nat) (arrival : Arrival) :
    Advances 0 (if arrival.deniesPermission then 1 else 0) session (session.land id arrival) :=
  .of_subset rfl rfl rfl rfl List.filter_sublist.subset

/-- Nothing but the end of a wait counts, and time goes by only on its own. -/
theorem frame : WideSteadyFrame (fun _ => True) (Advances 0 0) where
  refl _ := .of_subset rfl rfl rfl rfl fun _ hflight => hflight
  trans hfirst hsecond := hfirst.trans hsecond
  delivered _ _ _ := .of_subset rfl rfl rfl rfl fun _ hflight => hflight
  modifyLog _ _ _ := .of_subset rfl rfl rfl rfl fun _ hflight => hflight
  setWatchlist _ _ _ _ := .of_subset rfl rfl rfl rfl fun _ hflight => hflight
  setAnyWatchlist _ _ _ := .of_subset rfl rfl rfl rfl fun _ hflight => hflight
  setReconciler _ _ := .of_subset rfl rfl rfl rfl fun _ hflight => hflight
  send session _ _ errand demand := .send session _ errand demand
  conclude session owner _ outcome := by
    rcases owner with id | ⟨_ | _, task⟩
    · exact .of_subset rfl rfl rfl rfl fun _ hflight => hflight
    · exact .of_subset rfl rfl rfl rfl fun _ hflight => hflight
    · exact .of_subset rfl rfl rfl rfl fun _ hflight => hflight

theorem shutdown (session : Session) : Advances 0 0 session session.shutdown := by
  have haside := Aside.shutdown session
  rcases session.shutdown_cases with ⟨-, heq⟩ | ⟨-, heq⟩
  · rw [heq]
    exact frame.refl session
  · rw [heq] at haside ⊢
    exact .of_subset rfl haside.timeout rfl haside.nextFlight haside.flights

theorem arrive {id : Nat} (hfound : session.flight? id = some flight) (arrival : Arrival) :
    Advances 0 (if arrival.deniesPermission then 1 else 0) session (session.arrive id arrival) := by
  rw [Session.arrive, hfound]
  have hresumed : Advances 0 0 (session.land id arrival)
      ((session.land id arrival).resume flight (flight.request.demand.conclude arrival)) :=
    frame.resume _ trivial _
  exact (land session id arrival).trans hresumed

theorem call (session : Session) (id : Nat) (call : Call) :
    Advances 0 0 session (session.call id call) := by
  rw [Session.call]
  cases session.check call with
  | error error => exact frame.conclude session trivial _
  | ok _ =>
    by_cases hcall : call = .shutdown
    · subst hcall
      have hconcluded : Advances 0 0 session.shutdown
          (session.shutdown.conclude (.call id) (.done .nothing)) := frame.conclude _ trivial _
      exact (shutdown session).trans hconcluded
    · exact frame.perform trivial session hcall

theorem reply (session : Session) (id : Nat) (reply : Reply) :
    Advances 0 (if session.isDenied (.reply id reply) then 1 else 0) session
      (session.reply id reply) := by
  rw [Session.reply]
  cases hfound : session.flight? id with
  | none =>
    have hdenied : session.isDenied (.reply id reply) = false := by simp [isDenied, hfound]
    rw [hdenied]
    exact frame.refl session
  | some flight =>
    by_cases hdue : session.now ≤ flight.deadline
    · have hdenied : session.isDenied (.reply id reply) =
          (Arrival.reply reply).deniesPermission := by
        simp [isDenied, hfound, hdue, Arrival.deniesPermission_reply]
      rw [hdenied]
      simp only [if_pos hdue]
      exact arrive hfound _
    · have hdenied : session.isDenied (.reply id reply) = false := by
        simp [isDenied, hfound, Nat.lt_of_not_le hdue]
      rw [hdenied]
      simp only [if_neg hdue]
      exact frame.refl session

theorem expire (session : Session) (id : Nat) : Advances 0 0 session (session.expire id) := by
  rw [Session.expire]
  cases hfound : session.flight? id with
  | none => exact frame.refl session
  | some flight =>
    by_cases hdue : flight.deadline ≤ session.now
    · simp only [if_pos hdue]
      exact arrive hfound (.expired session.timeout)
    · simp only [if_neg hdue]
      exact frame.refl session

theorem receive (session : Session) : Advances 0 0 session session.receive := by
  rcases session.receive_cases with hsame | ⟨received, feed, -, -, htaken⟩
  · rw [hsame]
    exact frame.refl session
  · rw [htaken]
    exact .of_subset rfl rfl rfl rfl fun _ hflight => hflight

/-- A step takes the time that its move does, and fetches credentials just if permission is denied.
-/
theorem step (session : Session) (move : Move) :
    Advances move.span (if session.isDenied move then 1 else 0) session (session.step move) := by
  cases move with
  | call id call => exact Advances.call session id call
  | reply id reply => exact Advances.reply session id reply
  | expire id => exact Advances.expire session id
  | receive => exact receive session
  | wake pool task => exact frame.wake session pool task
  | start pool => exact frame.start session pool fun _ => trivial
  | elapse | setRunning | setSupport | announce | closeFeed | reorder =>
    exact .of_subset rfl rfl rfl rfl fun _ hflight => hflight

end Advances

/-- Permission denied in time, and nothing else, has the credentials refreshed, once each time. -/
theorem exists_advances_run (session : Session) (moves : List Move) :
    ∃ span, Advances span (session.denials moves) session (session.run moves) := by
  induction moves generalizing session with
  | nil => exact ⟨0, Advances.frame.refl session⟩
  | cons move moves ih =>
    obtain ⟨span, hrest⟩ := ih (session.step move)
    exact ⟨_, (Advances.step session move).trans hrest⟩

/-! ### The end of a wait -/

/-- A move ends the wait of a flight for good: whoever sent the request goes on with its outcome,
and the credentials are refreshed once if permission was denied. -/
structure Returns (session : Session) (flight : Flight) (move : Move) (reply? : Option Reply)
    (outcome : Outcome Answer) : Prop where
  waits : flight ∈ session.flights
  goesOn : session.step move =
    (session.land flight.id (.ofReply? session.timeout reply?)).resume flight outcome
  refreshes : (session.step move).credentialRefreshes =
    session.credentialRefreshes + if reply?.any Reply.deniesPermission then 1 else 0
  isOver : ∀ moves, flight ∉ ((session.step move).run moves).flights

/-- Once a wait has ended, no run takes it up again. -/
theorem Numbered.not_mem_flights_run (hnumbered : session.Numbered)
    (hflight : flight ∈ session.flights) {arrival : Arrival} {outcome : Outcome Answer}
    (hnext : next = (session.land flight.id arrival).resume flight outcome) (moves : List Move) :
    flight ∉ (next.run moves).flights := by
  have hfresh := hnumbered.fresh flight hflight
  have hresumed : Advances 0 0 (session.land flight.id arrival) next := by
    rw [hnext]
    exact Advances.frame.resume _ trivial _
  obtain ⟨span, hrun⟩ := exists_advances_run next moves
  intro hlater
  rcases (hresumed.trans hrun).flights flight hlater with hold | hnew
  · exact absurd rfl (of_decide_eq_true (List.mem_filter.1 hold).2)
  · exact absurd hfresh (Nat.not_lt.2 hnew)

theorem Numbered.returns_of_arrive (hnumbered : session.Numbered)
    (hflight : flight ∈ session.flights) {move : Move} (reply? : Option Reply)
    (hstep : session.step move = session.arrive flight.id (.ofReply? session.timeout reply?)) :
    session.Returns flight move reply?
      (flight.request.demand.conclude (.ofReply? session.timeout reply?)) := by
  have hfound := hnumbered.flight?_eq_some hflight
  have hgoesOn : session.step move =
      (session.land flight.id (.ofReply? session.timeout reply?)).resume flight
        (flight.request.demand.conclude (.ofReply? session.timeout reply?)) := by
    rw [hstep, arrive, hfound]
  constructor
  case waits => exact hflight
  case goesOn => exact hgoesOn
  case refreshes =>
    rw [hstep, (Advances.arrive hfound _).refreshes, Arrival.deniesPermission_ofReply?]
  case isOver => exact hnumbered.not_mem_flights_run hflight hgoesOn

/-- A reply that comes in time ends the wait for it. -/
theorem Numbered.returns_of_reply? (hnumbered : session.Numbered)
    (hflight : flight ∈ session.flights) {move : Move} {reply : Reply}
    (hreply : flight.reply? session.now move = some reply) :
    session.Returns flight move (some reply)
      (flight.request.demand.conclude (.ofReply? session.timeout (some reply))) := by
  obtain ⟨rfl, hdue⟩ := Flight.reply?_eq_some_iff.1 hreply
  refine hnumbered.returns_of_arrive hflight (some reply) ?_
  rw [step, Session.reply, hnumbered.flight?_eq_some hflight]
  exact if_pos hdue

/-- A wait that is given up ends without a reply. -/
theorem Numbered.returns_of_isGivenUp (hnumbered : session.Numbered)
    (hflight : flight ∈ session.flights) {move : Move}
    (hgivenUp : flight.isGivenUp session.now move = true) :
    session.Returns flight move none
      (flight.request.demand.conclude (.ofReply? session.timeout none)) := by
  obtain ⟨rfl, hdue⟩ := Flight.isGivenUp_iff.1 hgivenUp
  refine hnumbered.returns_of_arrive hflight none ?_
  rw [step, Session.expire, hnumbered.flight?_eq_some hflight]
  exact if_pos hdue

/-- A wait goes on as long as no reply comes in time and nobody gives it up. -/
theorem Numbered.mem_flights_step (hnumbered : session.Numbered)
    (hflight : flight ∈ session.flights) {move : Move}
    (hstays : flight.owner.isCall = true ∨ ∀ id, move ≠ .call id .shutdown)
    (hreply : flight.reply? session.now move = none)
    (hgivenUp : flight.isGivenUp session.now move = false) :
    flight ∈ (session.step move).flights := by
  have hfound := hnumbered.flight?_eq_some hflight
  rcases mem_flights_step_of_stays hflight hstays with hkept | ⟨reply, rfl⟩ | rfl
  · exact hkept
  · have hlate : ¬ session.now ≤ flight.deadline := by
      intro hdue
      exact absurd (hreply.symm.trans (Flight.reply?_eq_some_iff.2 ⟨rfl, hdue⟩)) (by simp)
    rw [step, Session.reply, hfound]
    simpa only [if_neg hlate] using hflight
  · have hearly : ¬ flight.deadline ≤ session.now := by
      intro hdue
      exact absurd (hgivenUp.symm.trans (Flight.isGivenUp_iff.2 ⟨rfl, hdue⟩)) (by simp)
    rw [step, Session.expire, hfound]
    simpa only [if_neg hearly] using hflight

/-- The induction is on the moves: each of them ends the wait or leaves it as it was. -/
theorem Numbered.exists_returns (hnumbered : session.Numbered) (hflight : flight ∈ session.flights)
    {moves : List Move}
    (hstays : flight.owner.isCall = true ∨ ∀ id, Move.call id .shutdown ∉ moves)
    (hwaited : flight.isWaitedFor session.now moves = true) :
    ∃ earlier move later, moves = earlier ++ move :: later ∧
      (session.run earlier).Returns flight move (flight.firstReply? session.now moves)
        (flight.request.demand.conclude
          (.ofReply? session.timeout (flight.firstReply? session.now moves))) := by
  induction moves generalizing session with
  | nil => exact absurd hwaited Bool.false_ne_true
  | cons move moves ih =>
    rw [Flight.isWaitedFor] at hwaited
    rw [Flight.firstReply?]
    cases hreply : flight.reply? session.now move with
    | some reply => exact ⟨[], move, moves, rfl, hnumbered.returns_of_reply? hflight hreply⟩
    | none =>
      rw [hreply, Option.isSome_none, Bool.false_or] at hwaited
      rw [Option.none_or]
      cases hgivenUp : flight.isGivenUp session.now move with
      | true =>
        rw [hgivenUp, if_pos rfl, Option.isNone_iff_eq_none] at hwaited
        obtain ⟨rfl, -⟩ := Flight.isGivenUp_iff.1 hgivenUp
        have hnone : flight.firstReply? (session.now + (Move.expire flight.id).span) moves = none :=
          hwaited
        rw [hnone]
        exact ⟨[], _, moves, rfl, hnumbered.returns_of_isGivenUp hflight hgivenUp⟩
      | false =>
        rw [hgivenUp, if_neg Bool.false_ne_true] at hwaited
        have hadvances := Advances.step session move
        have hkept := hnumbered.mem_flights_step hflight
          (hstays.imp_right fun h id hmove => h id (hmove ▸ List.mem_cons_self)) hreply hgivenUp
        rw [← hadvances.now] at hwaited ⊢
        obtain ⟨earlier, last, later, hmoves, hreturns⟩ := ih (hadvances.numbered hnumbered) hkept
          (hstays.imp_right fun h id hmem => h id (List.mem_cons_of_mem _ hmem)) hwaited
        rw [hadvances.timeout] at hreturns
        exact ⟨move :: earlier, last, later, by rw [hmoves, List.cons_append], hreturns⟩

/-- A request returns once. It goes well if the first reply that comes by its deadline is one meant
for it and not otherwise, it reports the resource that it asked for as missing if that reply says
so and not otherwise, and without a reply by the deadline it is reported late. The deadline is when
the timeout is over, for every moment as late as anything is waited for, and a wait ends whatever
comes and however long it takes. The credentials are refreshed once for each reply in time that
denies permission. -/
theorem request_returns_by_answer (session : Session) (hnumbered : session.Numbered) :
    (∀ owner errand demand,
      let sent := session.send owner errand demand
      let flight := session.flightFor owner errand demand
      (∀ moment ≤ session.now + Millis.longest,
        moment ≤ flight.deadline ↔ moment ≤ session.now + session.timeout) ∧
      (∀ fate : Fate,
        let moves := fate.moves session.timeout flight.id
        flight.isWaitedFor session.now moves = true ∧
        flight.firstReply? session.now moves =
          if fate.isInTime session.timeout then some fate.reply else none) ∧
      ∀ moves, (owner.isCall = true ∨ ∀ id, Move.call id .shutdown ∉ moves) →
        flight.isWaitedFor session.now moves = true →
        ∃ earlier move later outcome, moves = earlier ++ move :: later ∧
          (sent.run earlier).Returns flight move (flight.firstReply? session.now moves) outcome ∧
          demand.Settles session.timeout (flight.firstReply? session.now moves) outcome) ∧
    ∀ moves, (session.run moves).credentialRefreshes =
      session.credentialRefreshes + session.denials moves := by
  constructor
  · intro owner errand demand sent flight
    refine ⟨fun moment hmoment => Millis.le_after_iff hmoment, Flight.waited_of_fate rfl,
      fun moves hstays hwaited => ?_⟩
    have hflight : flight ∈ sent.flights := List.mem_append_right _ List.mem_cons_self
    obtain ⟨earlier, move, later, hmoves, hreturns⟩ :=
      (hnumbered.send owner errand demand).exists_returns hflight hstays hwaited
    exact ⟨earlier, move, later, _, hmoves, hreturns, demand.settles_conclude session.timeout _⟩
  · intro moves
    obtain ⟨span, hrun⟩ := exists_advances_run session moves
    exact hrun.refreshes

/-- Permission is denied at the very deadline, and the timer goes off right after it. -/
def deniedLate : List Move :=
  [.elapse 3000, .reply 0 (.response (.failed .noRight "not yours")), .expire 0]

theorem request_returns_by_answer_denied :
    let session := opened true
    let demand := Demand.queryAgent (.latest "svc-a") none
    let sent := session.send (.call 0) .handOn demand
    let flight := session.flightFor (.call 0) .handOn demand
    session.Numbered ∧ flight.isWaitedFor session.now deniedLate = true ∧
      (∃ earlier move later outcome, deniedLate = earlier ++ move :: later ∧
        (sent.run earlier).Returns flight move
          (some (.response (.failed .noRight "not yours"))) outcome ∧
        demand.Settles session.timeout
          (some (.response (.failed .noRight "not yours"))) outcome) ∧
      (sent.run deniedLate).credentialRefreshes = 1 := by
  have hnumbered : (opened true).Numbered := numbered_ofConfig _ _ _
  let demand := Demand.queryAgent (.latest "svc-a") none
  have hsent := hnumbered.send (.call 0) .handOn demand
  refine ⟨hnumbered, rfl, ?_, ?_⟩
  · exact ((request_returns_by_answer (opened true) hnumbered).1 (.call 0) .handOn demand).2.2
      deniedLate (.inl rfl) rfl
  · have hcount : ((opened true).send (.call 0) .handOn demand).denials deniedLate = 1 := by decide
    rw [(request_returns_by_answer _ hsent).2 deniedLate, hcount]
    rfl

end Session

end RegistrySession
