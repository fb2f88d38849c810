import RegistrySession.Proofs.Session.Convergence
import RegistrySession.Proofs.Session.Provenance
import RegistrySession.Proofs.Session.Retrying
import RegistrySession.Proofs.Session.Sending
import RegistrySession.Proofs.Session.Staleness

/-!
# Which endpoint is withdrawn

Two ways lead to the request that withdraws a registration.  A call that deregisters online names
the endpoint itself, except for the version of an MCP server.  A pass names the endpoint that stands
for the registration in the log.  The acknowledgement of either settles the entry, so the two had
better name the same endpoint.  They do just if the call names the one that the log would.
-/

namespace RegistrySession.Session

open Intent (Operation Wish)

variable {start session next : Session} {kind : Kind} {name : String} {move : Move}
  {flight : Flight}

/-- The name and the endpoint that a call withdraws. -/
def withdrawal? (session : Session) : (kind : Kind) → Call → Option (String × kind.Endpoint)
  | .agent, .deregisterAgent name endpoint => some (name, endpoint)
  | .mcp, .deregisterMcp name address port => some (name, session.mcpEndpoint name address port)
  | _, _ => none

def registeredLast? (session : Session) (kind : Kind) (name : String) (moves : List Move) :
    Option kind.Registration :=
  ((session.wishes kind name moves).filterMap Wish.registration?).getLast?

/-- Something is to be done for a name, or confirmed for it, until a request is acknowledged. -/
structure Settles (session : Session) (flight : Flight) (kind : Kind) (name : String) : Prop where
  flight_mem : flight ∈ session.flights
  before : session.IsOpen kind name
  after : ¬ (session.step (.reply flight.id (.response .acknowledged))).IsOpen kind name

structure Sends (session : Session) (move : Move) (flight : Flight) : Prop where
  sent : flight ∈ (session.step move).flights
  new : flight ∉ session.flights

/-- Why a request withdraws an endpoint: a call named it after the first part of a run, when the log
had the entry, or a pass found the entry in the log then and took the endpoint from there. -/
inductive Withdraws (start : Session) (flight : Flight) (kind : Kind) (name : String)
    (endpoint : kind.Endpoint) (entry : Intent.Entry kind.Registration) (earlier : List Move) :
    List Move → Prop
  | called (id : Nat) (call : Call) (later : List Move) (howner : flight.owner = .call id)
      (hsends : (start.run earlier).Sends (.call id call) flight)
      (hcheck : (start.run earlier).check call = .ok ())
      (honline : (start.run earlier).isOnline = true)
      (hwithdrawal : (start.run earlier).withdrawal? kind call = some (name, endpoint))
      (hentry : ((start.run earlier).log kind).find? name = some entry) :
      Withdraws start flight kind name endpoint entry earlier (.call id call :: later)
  | passed (task : Nat) (carrying : List Move) (move : Move) (later : List Move)
      (howner : flight.owner = .run .reconcile task)
      (hsends : (start.run (earlier ++ carrying)).Sends move flight)
      (hsnapshot : start.Snapshot flight.owner kind (name, entry) earlier carrying)
      (hprimary : kind.primary? entry.desired = some endpoint) :
      Withdraws start flight kind name endpoint entry earlier (carrying ++ move :: later)

/-! ## What settles a name -/

/-- A name is open while its entry is not settled. -/
theorem isOpen_iff :
    session.IsOpen kind name ↔
      ((session.log kind).find? name).any (fun entry => !entry.isSettled) = true := by
  simp only [IsOpen, Option.any_eq_true, Bool.not_eq_true']

theorem IsOpen.of_find? (hopen : session.IsOpen kind name)
    (hfind : (next.log kind).find? name = (session.log kind).find? name) :
    next.IsOpen kind name := by
  rwa [IsOpen, hfind]

/-- An operation on a log leaves the names of the other open. -/
theorem IsOpen.modifyLog_of_ne (hopen : session.IsOpen kind name) {other : Kind}
    (hkind : kind ≠ other) (f : Intent.Log other.Registration → Intent.Log other.Registration) :
    (session.modifyLog other f).IsOpen kind name :=
  hopen.of_find? (by rw [log_modifyLog_of_ne _ _ hkind])

/-- A name stays open until its withdrawal is confirmed. -/
theorem IsOpen.apply (hopen : session.IsOpen kind name) {operation : Operation kind.Registration}
    (hlose : operation ≠ .loseSession) (hremove : operation ≠ .remove name)
    (hconfirm : operation ≠ .confirmDeregistered name (session.log kind).session) :
    (session.modifyLog kind fun log => log.apply operation).IsOpen kind name := by
  obtain ⟨entry, hentry, hunsettled⟩ := hopen
  obtain ⟨found, hfound, hstays⟩ :=
    Operation.exists_unsettled_of_revise hunsettled hlose hremove hconfirm
  refine ⟨found, ?_, hstays⟩
  rw [log_modifyLog_self, Intent.Log.find?_apply, hentry, hfound]

/-- What follows a move leaves open names open. -/
theorem Sequel.isOpen (hsequel : start.Sequel session next) (hopen : session.IsOpen kind name) :
    next.IsOpen kind name := by
  induction hsequel with
  | rest session => exact hopen
  | aside haside _ ih => exact ih (hopen.of_find? (haside.find? kind name))
  | prune other target _ ih =>
    by_cases hkind : kind = other
    · subst hkind
      exact ih (hopen.apply nofun nofun nofun)
    · exact ih (hopen.modifyLog_of_ne hkind _)
  | ask howner hsend => exact hopen
  | push other target entry confirmation remaining hentry hremaining hdemand hsend => exact hopen

/-- What settles a name is the acknowledgement of a withdrawal of it, sent for a call or in a
pass. -/
theorem Settles.exists_demand (hsettles : session.Settles flight kind name)
    (hsound : session.Sound) (hnumbered : session.Numbered) :
    (∃ endpoint, flight.request.demand = .withdraw kind name endpoint) ∧
      ((∃ id, flight.owner = .call id) ∨ ∃ task, flight.owner = .run .reconcile task) := by
  obtain ⟨hflight, hopen, hsettled⟩ := hsettles
  obtain ⟨middle, honset, hsequel⟩ :=
    hsound.step_course (.reply flight.id (.response .acknowledged))
  -- What follows the acknowledgement in the step leaves an open name open.
  have hshut : ¬ middle.IsOpen kind name := mt hsequel.isOpen hsettled
  cases honset with
  | rest hquiet => exact absurd hopen hshut
  | intend other operation hintent => exact absurd hintent (Option.some_ne_none _).symm
  | lose hmove => exact absurd hmove Move.noConfusion
  | confirm found hfound other confirmation hconfirms hmove hdue =>
    have hid : found.id = flight.id := (Move.reply.inj hmove).1.symm
    obtain rfl := hnumbered.unique flight hflight found hfound hid
    have hfits := hsound.fits found hfound
    have hlanded : (session.land found.id .acknowledgement).IsOpen kind name := hopen
    rw [confirm_eq_apply] at hshut
    refine ⟨?_, hfits.owner hconfirms⟩
    by_cases hkind : kind = other
    · subst hkind
      have hoperation : confirmation.operation =
          .confirmDeregistered name (session.log kind).session := by
        by_contra hother
        refine hshut (hlanded.apply ?_ ?_ hother)
        · cases confirmation <;> exact nofun
        · cases confirmation <;> exact nofun
      cases confirmation with
      | pushed target registration started => exact absurd hoperation nofun
      | withdrawn target started =>
        obtain ⟨rfl, -⟩ := Operation.confirmDeregistered.inj hoperation
        exact hfits.answers hconfirms
    · exact absurd (hlanded.modifyLog_of_ne hkind _) hshut

/-! ## Where a request comes from -/

/-- Whatever is on its way after a run was sent in some step of it. -/
theorem exists_sent (hstart : start.flights = []) {moves : List Move}
    (hflight : flight ∈ (start.run moves).flights) :
    ∃ earlier move later, moves = earlier ++ move :: later ∧
      (start.run earlier).Sends move flight := by
  induction moves using List.reverseRecOn with
  | nil =>
    change flight ∈ start.flights at hflight
    rw [hstart] at hflight
    exact absurd hflight List.not_mem_nil
  | append_singleton moves move ih =>
    by_cases hold : flight ∈ (start.run moves).flights
    · obtain ⟨earlier, sending, later, rfl, hsends⟩ := ih hold
      exact ⟨earlier, sending, later ++ [move], by simp, hsends⟩
    · exact ⟨moves, move, [], rfl, by rwa [run_snoc] at hflight, hold⟩

/-- What is sent for a call is sent when the call is made. -/
theorem Word.exists_call {id : Nat} (hword : session.Word move id next)
    (hsent : flight ∈ next.flights) (hnew : flight ∉ session.flights)
    (howner : flight.owner = .call id) :
    ∃ call, move = .call id call ∧ session.check call = .ok () := by
  cases hword with
  | silent hspares => exact absurd howner ((hspares.flights flight hsent).resolve_left hnew)
  | refused call error => exact absurd hsent hnew
  | accepted call hmove hcheck => exact ⟨call, hmove, hcheck⟩
  | answered found hfound hfoundOwner hflights => exact absurd (hflights hsent) hnew

/-- A call that withdraws an endpoint is a deregistration. -/
theorem perform_of_withdrawal? {call : Call} {endpoint : kind.Endpoint}
    (hwithdrawal : session.withdrawal? kind call = some (name, endpoint)) (owner : Owner) :
    session.perform owner call = session.deregister owner kind name endpoint := by
  cases kind <;> cases call <;> try exact absurd hwithdrawal (Option.some_ne_none _).symm
  case agent.deregisterAgent =>
    obtain ⟨rfl, rfl⟩ := Prod.mk.inj (Option.some.inj hwithdrawal)
    rfl
  case mcp.deregisterMcp =>
    obtain ⟨rfl, rfl⟩ := Prod.mk.inj (Option.some.inj hwithdrawal)
    rfl

/-- Of all calls only one that withdraws an endpoint sends the request for it. -/
theorem withdrawal?_of_sent {owner : Owner} {call : Call} {endpoint : kind.Endpoint}
    (hsent : flight ∈ (session.perform owner call).flights) (hnew : flight ∉ session.flights)
    (hdemand : flight.request.demand = .withdraw kind name endpoint) :
    session.withdrawal? kind call = some (name, endpoint) := by
  have hpush : session.push? call = some flight.request.demand :=
    (push?_of_sent hsent hnew (by rw [hdemand]; rfl)).2
  rw [hdemand] at hpush
  cases call with
  | register => exact absurd (Option.some.inj hpush) Demand.noConfusion
  | deregisterAgent target given =>
    obtain ⟨-, -, hsame⟩ := Option.map_eq_some_iff.1 hpush
    obtain ⟨rfl, rfl, hgiven⟩ := Demand.withdraw.inj hsame
    rw [← eq_of_heq hgiven]
    rfl
  | deregisterMcp target address port =>
    obtain ⟨-, -, hsame⟩ := Option.map_eq_some_iff.1 hpush
    obtain ⟨rfl, rfl, hgiven⟩ := Demand.withdraw.inj hsame
    rw [← eq_of_heq hgiven]
    rfl
  | _ => exact absurd hpush (Option.some_ne_none _).symm

/-- The request that settles a name goes back to a call that withdraws it, or to what a pass found
in the log. -/
theorem Settles.exists_withdraws (hsound : start.Sound) (hnumbered : start.Numbered)
    (hstart : start.flights = []) {moves : List Move}
    (hsettles : (start.run moves).Settles flight kind name) :
    ∃ endpoint known earlier later, moves = earlier ++ later ∧
      flight.request.demand = .withdraw kind name endpoint ∧
      start.Withdraws flight kind name endpoint known earlier later := by
  obtain ⟨⟨endpoint, hdemand⟩, howner⟩ :=
    hsettles.exists_demand (hsound.run moves) (hnumbered.run hsound moves)
  obtain ⟨sending, move, later, rfl, hsends⟩ := exists_sent hstart hsettles.flight_mem
  have hsent := hsends.sent
  have hnew := hsends.new
  rcases howner with ⟨id, howner⟩ | ⟨task, howner⟩
  · obtain ⟨call, rfl, hcheck⟩ :=
      ((hsound.run sending).word_step move id).exists_call hsent hnew howner
    rw [step, Session.call, hcheck] at hsent
    have hwithdrawal := withdrawal?_of_sent hsent hnew hdemand
    simp only [perform_of_withdrawal? hwithdrawal] at hsent
    obtain ⟨-, honline, known, hknown⟩ := of_sent_deregister hsent hnew
    exact ⟨endpoint, known, sending, _, rfl, hdemand,
      .called id call later howner hsends hcheck honline hwithdrawal hknown⟩
  · obtain ⟨middle, honset, hsequel⟩ := (hsound.run sending).step_course move
    rcases hsequel.flight_mem_or hsent howner with hold | hpushed
    · exact absurd (honset.flights_subset hold) hnew
    · -- The pass may have found the entry long before the step that sends the request.
      obtain ⟨other, target, known, -, -, -, hpushes, hholds, -⟩ := hpushed
      have hblank : ∀ owner kind entry, ¬ start.Carries owner kind entry := by
        rintro owner kind entry ⟨waiting, hwaiting, -⟩
        rw [hstart] at hwaiting
        exact absurd hwaiting List.not_mem_nil
      obtain ⟨earlier, carrying, rfl, hsnapshot⟩ := hholds.exists_snapshot hsound hblank
      rcases Intent.Entry.demand?_cases hpushes with
        ⟨-, hregister⟩ | ⟨-, primary, hprimary, hwithdraw⟩
      · exact absurd (hdemand.symm.trans hregister) Demand.noConfusion
      · obtain ⟨rfl, rfl, hsame⟩ := Demand.withdraw.inj (hdemand.symm.trans hwithdraw)
        obtain rfl := eq_of_heq hsame
        exact ⟨endpoint, known, earlier, _, List.append_assoc _ _ _, hdemand,
          .passed task carrying move later howner hsends hsnapshot hprimary⟩

theorem Withdraws.find? {endpoint : kind.Endpoint} {known : Intent.Entry kind.Registration}
    {earlier later : List Move}
    (hwithdraws : start.Withdraws flight kind name endpoint known earlier later) :
    ((start.run earlier).log kind).find? name = some known := by
  cases hwithdraws with
  | called _ _ _ _ _ _ _ _ hentry => exact hentry
  | passed _ _ _ _ _ _ hsnapshot _ => exact hsnapshot.listed

/-! ## What the log keeps -/

/-- A step leaves the registration of an entry as it is, unless it wishes for another. -/
theorem Onset.desired (honset : session.Onset move next) {entry : Intent.Entry kind.Registration}
    (hentry : (next.log kind).find? name = some entry) :
    session.wish? kind name move = some (.register entry.desired) ∨
      (session.wish? kind name move).bind Wish.registration? = none ∧
        ∃ old, (session.log kind).find? name = some old ∧ old.desired = entry.desired := by
  cases honset with
  | rest hquiet =>
    rw [wish?, hquiet]
    exact .inr ⟨rfl, entry, hentry, rfl⟩
  | intend other operation hintent hspontaneous =>
    by_cases hkind : kind = other
    · subst hkind
      rw [log_modifyLog_self, Intent.Log.find?_apply] at hentry
      rw [wish?, hintent, Option.bind_some]
      cases hwish : operation.wish? name with
      | none =>
        obtain ⟨old, hold, -, hdesired⟩ := Operation.revise_of_wish?_eq_none hwish hentry
        exact .inr ⟨rfl, old, hold, hdesired.symm⟩
      | some wish =>
        cases wish with
        | register desired =>
          obtain ⟨found, hfound, -, rfl⟩ :=
            Operation.revise_of_wish?_eq_register (session.log kind).session
              ((session.log kind).find? name) hwish
          obtain rfl := Option.some.inj (hfound.symm.trans hentry)
          exact .inl rfl
        | deregister =>
          rw [Operation.revise_of_wish?_eq_deregister hwish] at hentry
          obtain ⟨old, hold, rfl⟩ := Option.map_eq_some_iff.1 hentry
          exact .inr ⟨rfl, old, hold, rfl⟩
    · rw [log_modifyLog_of_ne _ _ hkind] at hentry
      rw [wish?, intent?_of_ne hintent hkind]
      exact .inr ⟨rfl, entry, hentry, rfl⟩
  | lose hmove hlog =>
    rw [hlog, Intent.Log.find?_loseSession] at hentry
    obtain ⟨old, hold, rfl⟩ := Option.map_eq_some_iff.1 hentry
    rw [hmove]
    exact .inr ⟨rfl, old, hold, rfl⟩
  | confirm found hfound other confirmation hconfirms hmove hdue =>
    rw [hmove]
    refine .inr ⟨rfl, ?_⟩
    rw [confirm_eq_apply] at hentry
    by_cases hkind : kind = other
    · subst hkind
      rw [log_modifyLog_self, Intent.Log.find?_apply, log_land] at hentry
      have hwish : confirmation.operation.wish? name = none := by cases confirmation <;> rfl
      obtain ⟨old, hold, -, hdesired⟩ := Operation.revise_of_wish?_eq_none hwish hentry
      exact ⟨old, hold, hdesired.symm⟩
    · rw [log_modifyLog_of_ne _ _ hkind, log_land] at hentry
      exact ⟨entry, hentry, rfl⟩

/-- An entry that was there before a run has the registration that the run wishes for last, or else
the one that it had. -/
theorem desired_run (hsound : session.Sound) {known : Intent.Entry kind.Registration}
    (hknown : (session.log kind).find? name = some known) {moves : List Move}
    {entry : Intent.Entry kind.Registration}
    (hentry : ((session.run moves).log kind).find? name = some entry) :
    entry.desired = (session.registeredLast? kind name moves).getD known.desired := by
  induction moves using List.reverseRecOn generalizing entry with
  | nil =>
    obtain rfl := Option.some.inj (hknown.symm.trans hentry)
    rfl
  | append_singleton moves move ih =>
    rw [run_snoc] at hentry
    obtain ⟨middle, honset, hsequel⟩ := (hsound.run moves).step_course move
    rw [registeredLast?, wishes_snoc, List.filterMap_append, List.getLast?_append]
    -- An entry that the step leaves was there before, unless the step wishes for it.
    rcases honset.desired (hsequel.find?_of_find? hentry) with hwish | ⟨hnone, old, hold, hdesired⟩
    · rw [hwish]
      rfl
    · rw [← hdesired, ih hold, registeredLast?]
      cases hwish : (session.run moves).wish? kind name move with
      | none => rfl
      | some wish =>
        rw [hwish, Option.bind_some] at hnone
        simp [hnone]

/-! ## At once or later -/

/-- Online a call that withdraws an endpoint sends the request for it, offline it sends none, and
either way it leaves an entry for which a pass would withdraw what the log wants. -/
theorem step_of_withdrawal? (id : Nat) {call : Call} {endpoint : kind.Endpoint}
    {known : Intent.Entry kind.Registration} (hcheck : session.check call = .ok ())
    (hwithdrawal : session.withdrawal? kind call = some (name, endpoint))
    (hknown : (session.log kind).find? name = some known) :
    (session.step (.call id call)).requested =
        session.requested ++ (if session.isOnline then [.withdraw kind name endpoint] else []) ∧
      ∃ left, ((session.step (.call id call)).log kind).find? name = some left ∧
        left.demand? kind name = (kind.primary? known.desired).map (.withdraw kind name) := by
  have hstep : session.step (.call id call) =
      session.deregister (.call id) kind name endpoint := by
    rw [step, Session.call, hcheck]
    exact perform_of_withdrawal? hwithdrawal (.call id)
  rw [hstep]
  constructor
  · rcases session.deregister_cases_of_find? (.call id) endpoint hknown with
      ⟨honline, heq⟩ | ⟨honline, heq⟩
    · rw [heq, if_pos honline]
      exact requested_note _ _
    · rw [heq, honline]
      exact requested_note _ _
  · refine ⟨{ known with isUnregistering := true, isExpected := false }, ?_, ?_⟩
    · have hwish : (Operation.intendDeregister name : Operation kind.Registration).wish? name =
          some .deregister := if_pos rfl
      rw [log_deregister, Intent.Log.find?_apply, hknown,
        Operation.revise_of_wish?_eq_deregister hwish]
      rfl
    · have haction : Intent.Entry.action
          { known with isUnregistering := true, isExpected := false } = some .deregister :=
        (Intent.Entry.action_eq_deregister_iff _).2 ⟨rfl, by simp [Intent.Entry.isSettled]⟩
      simp only [Intent.Entry.demand?, haction]

/-- Online a call that withdraws a registration sends the endpoint that it names, and offline it
leaves an entry for which a pass sends the endpoint that stands for the registration: the same just
if the call names that one.  In every run, a request that settles an entry goes back to such a call
or such a pass, and the entry has the registration that it had then, unless another was wished for
since. -/
theorem withdrawal_agrees_iff (config : Config) (link : Link) (feed : Feed) (moves : List Move) :
    let start := ofConfig config link feed
    let session := start.run moves
    (∀ id call kind name endpoint known, session.check call = .ok () →
      session.withdrawal? kind call = some (name, endpoint) →
      (session.log kind).find? name = some known →
      let called := session.step (.call id call)
      let request := Demand.withdraw kind name endpoint
      called.requested = session.requested ++ (if session.isOnline then [request] else []) ∧
        ∃ left, (called.log kind).find? name = some left ∧
          (left.demand? kind name = some request ↔
            kind.primary? known.desired = some endpoint)) ∧
    ∀ flight kind name entry, session.Settles flight kind name →
      (session.log kind).find? name = some entry →
      ∃ endpoint known earlier later, moves = earlier ++ later ∧
        flight.request.demand = .withdraw kind name endpoint ∧
        start.Withdraws flight kind name endpoint known earlier later ∧
        entry.desired =
          ((start.run earlier).registeredLast? kind name later).getD known.desired := by
  intro start session
  have hstart : start.Sound := sound_ofConfig config link feed
  constructor
  · intro id call kind name endpoint known hcheck hwithdrawal hknown called request
    obtain ⟨hrequested, left, hleft, hdemand⟩ :=
      step_of_withdrawal? id hcheck hwithdrawal hknown
    refine ⟨hrequested, left, hleft, ?_⟩
    rw [hdemand]
    simp [request]
  · intro flight kind name entry hsettles hentry
    obtain ⟨endpoint, known, earlier, later, rfl, hdemand, hwithdraws⟩ :=
      hsettles.exists_withdraws hstart (numbered_ofConfig config link feed) rfl
    refine ⟨endpoint, known, earlier, later, rfl, hdemand, hwithdraws, ?_⟩
    have hsince : (((start.run earlier).run later).log kind).find? name = some entry := by
      rwa [← run_append]
    exact desired_run (hstart.run earlier) hwithdraws.find? hsince

/-- Another endpoint than the one that `registering` registers. -/
def elsewhere : Agent.Endpoint :=
  { sampleEndpoint with address := "10.0.0.2" }

def registered : List Move :=
  [registering 0 "svc-a", acknowledging 0]

/-- Online a call withdraws an endpoint that is not the one registered. -/
def withdrawnElsewhere : List Move :=
  registered ++ [.call 1 (.deregisterAgent "svc-a" elsewhere)]

/-- The request of the call settles the name. -/
theorem exists_settles_elsewhere :
    let session := (opened true).run withdrawnElsewhere
    ∃ flight entry, session.Settles flight .agent "svc-a" ∧
      flight.request.demand = .withdraw .agent "svc-a" elsewhere ∧
      (session.log .agent).find? "svc-a" = some entry ∧
      entry.desired = Agent.Registration.single sampleEndpoint := by
  intro session
  have hdemands : session.flights.map (fun flight => (flight.id, flight.request.demand)) =
      [(1, .withdraw .agent "svc-a" elsewhere)] := rfl
  obtain ⟨flight, hflight, hsame⟩ := List.mem_map.1 (hdemands ▸ List.mem_singleton_self _)
  obtain ⟨hid, hdemand⟩ := Prod.mk.inj hsame
  have hentry : (session.log .agent).find? "svc-a" =
      some ⟨Agent.Registration.single sampleEndpoint, true, true, false⟩ := by decide +kernel
  refine ⟨flight, _, ⟨hflight, ⟨_, hentry, rfl⟩, ?_⟩, hdemand, hentry, rfl⟩
  rw [hid, isOpen_iff]
  decide +kernel

/-- Online the call names the other endpoint in its request, and the request settles the name. -/
theorem withdrawal_agrees_iff_elsewhere :
    let start := opened true
    let session := start.run registered
    let call : Call := .deregisterAgent "svc-a" elsewhere
    let last := start.run withdrawnElsewhere
    (∃ known, session.check call = .ok () ∧
      session.withdrawal? .agent call = some ("svc-a", elsewhere) ∧
      (session.log .agent).find? "svc-a" = some known ∧
      ∃ left, ((session.step (.call 1 call)).log .agent).find? "svc-a" = some left ∧
        left.demand? .agent "svc-a" ≠ some (.withdraw .agent "svc-a" elsewhere)) ∧
    ∃ flight entry, last.Settles flight .agent "svc-a" ∧
      (last.log .agent).find? "svc-a" = some entry ∧
      ∃ endpoint known earlier later, withdrawnElsewhere = earlier ++ later ∧
        flight.request.demand = .withdraw .agent "svc-a" endpoint ∧
        start.Withdraws flight .agent "svc-a" endpoint known earlier later := by
  intro start session call last
  constructor
  · have hentry : (session.log .agent).find? "svc-a" =
        some ⟨Agent.Registration.single sampleEndpoint, true, false, true⟩ := by decide +kernel
    have hcheck : session.check call = .ok () := rfl
    obtain ⟨-, left, hleft, hagrees⟩ :=
      (withdrawal_agrees_iff {} { isRunning := true } (.ofCapacity 16) registered).1 1 call .agent
        "svc-a" elsewhere _ hcheck rfl hentry
    refine ⟨_, hcheck, rfl, hentry, left, hleft, fun hsame => ?_⟩
    exact absurd (hagrees.1 hsame) (by decide)
  · obtain ⟨flight, entry, hsettles, -, hentry, -⟩ := exists_settles_elsewhere
    obtain ⟨endpoint, known, earlier, later, hmoves, hdemand, hwithdraws, -⟩ :=
      (withdrawal_agrees_iff {} { isRunning := true } (.ofCapacity 16) withdrawnElsewhere).2 flight
        .agent "svc-a" entry hsettles hentry
    exact ⟨flight, entry, hsettles, hentry, endpoint, known, earlier, later, hmoves, hdemand,
      hwithdraws⟩

/-- So an entry may be settled although the endpoint that it stands for was not withdrawn. -/
theorem not_forall_settling_primary :
    ¬ ∀ (config : Config) (link : Link) (feed : Feed) (moves : List Move) (flight : Flight)
      (kind : Kind) (name : String) (entry : Intent.Entry kind.Registration)
      (endpoint : kind.Endpoint),
      let session := (ofConfig config link feed).run moves
      session.Settles flight kind name → (session.log kind).find? name = some entry →
        flight.request.demand = .withdraw kind name endpoint →
          kind.primary? entry.desired = some endpoint := by
  intro hall
  obtain ⟨flight, entry, hsettles, hdemand, hentry, hdesired⟩ := exists_settles_elsewhere
  have hprimary := hall {} { isRunning := true } (.ofCapacity 16) withdrawnElsewhere flight .agent
    "svc-a" entry elsewhere hsettles hentry hdemand
  rw [hdesired] at hprimary
  exact absurd hprimary (by decide)

end RegistrySession.Session
