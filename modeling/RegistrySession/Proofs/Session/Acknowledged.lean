import RegistrySession.Proofs.Session.Standing

/-!
# What the server was left with

The endpoint request for a name that was acknowledged last decides what the server holds under it.
A session can be wrong about that in two ways only: a pass pushed what the log did not want any
more, or a push overtook an opposite one whose acknowledgement then counted for a later intent.
Short of these a settled name is withdrawn, and a confirmed registration is held.
-/

namespace RegistrySession.Session

variable {session : Session} {kind : Kind} {name : String}

/-- Of the acknowledged requests for a name, the others were sent before the last one. -/
theorem sent_eq_or_mem_earlier {later earlier : List Note} {flight other : Nat}
    {owner otherOwner : Owner} {request otherRequest : Request}
    (hsplit : session.recent = later ++ .sent flight owner request :: earlier)
    (hlater : ∀ other otherOwner otherRequest, .sent other otherOwner otherRequest ∈ later →
      otherRequest.demand.concerns kind name = true →
        .arrived other .acknowledgement ∉ session.recent)
    (hsent : .sent other otherOwner otherRequest ∈ session.recent)
    (hconcerns : otherRequest.demand.concerns kind name = true)
    (harrived : .arrived other .acknowledgement ∈ session.recent) :
    otherRequest = request ∨ .sent other otherOwner otherRequest ∈ earlier := by
  rw [hsplit] at hsent
  rcases List.mem_append.1 hsent with h | h
  · exact absurd harrived (hlater other otherOwner otherRequest h hconcerns)
  · rcases List.mem_cons.1 h with heq | hearlier
    · exact .inl (Note.sent.inj heq).2.2
    · exact .inr hearlier

/-- An acknowledgement came either before a request was sent or after it. -/
theorem sent_mem_or_arrived_mem {notes later earlier after before : List Note}
    {flight other : Nat} {owner : Owner} {request : Request} {arrival : Arrival}
    (hsent : notes = later ++ .sent flight owner request :: earlier)
    (harrived : notes = after ++ .arrived other arrival :: before) :
    .sent flight owner request ∈ after ∨ .arrived other arrival ∈ later := by
  rw [hsent] at harrived
  rcases List.append_eq_append_iff.1 harrived with ⟨middle, hafter, hrest⟩ | ⟨middle, hlater, hrest⟩
  · cases middle with
    | nil => exact absurd (List.cons.inj hrest).1 (by simp)
    | cons note middle =>
      obtain ⟨rfl, -⟩ := List.cons.inj hrest
      exact .inl (by simp [hafter])
  · cases middle with
    | nil => exact absurd (List.cons.inj hrest).1 (by simp)
    | cons note middle =>
      obtain ⟨rfl, -⟩ := List.cons.inj hrest
      exact .inr (by simp [hlater])

/-! ## Runs that go wrong -/

/-- A session that opens with a connection or without one. -/
def opened (isRunning : Bool) : Session :=
  ofConfig {} { isRunning } (.ofCapacity 16)

def sampleEndpoint : Agent.Endpoint where
  address := "10.0.0.1"
  port := 9000
  version := "1.0"

def registering (id : Nat) (name : String) : Move :=
  .call id (.register .agent name (Agent.Registration.single sampleEndpoint))

def deregistering (id : Nat) (name : String) : Move :=
  .call id (.deregisterAgent name sampleEndpoint)

def acknowledging (flight : Nat) : Move :=
  .reply flight (.response .acknowledged)

def refusing (flight : Nat) : Move :=
  .reply flight (.response (.failed .serverError "boom"))

/-- The connection comes up, and the first pass starts. -/
def goingOnline : List Move :=
  [.setRunning true, .announce .connected, .receive, .elapse 3000, .wake .reconcile 0,
    .start .reconcile]

/-- While a pass waits with another name, the registration that it is yet to push is withdrawn. -/
def staleRegistration : List Move :=
  [registering 0 "svc-b", registering 1 "svc-a"] ++ goingOnline ++
    [deregistering 2 "svc-a", acknowledging 1, acknowledging 0, acknowledging 2]

/-- The acknowledgement of a first withdrawal settles a second one that was refused, although the
registration was pushed anew in between. -/
def lateWithdrawal : List Move :=
  [registering 0 "svc-a", acknowledging 0, deregistering 1 "svc-a", registering 2 "svc-a",
    acknowledging 2, deregistering 3 "svc-a", refusing 3, acknowledging 1]

/-- While a pass waits with another name, the name that it is yet to withdraw is registered. -/
def staleWithdrawal : List Move :=
  [registering 0 "svc-b", registering 1 "svc-a", deregistering 2 "svc-a"] ++ goingOnline ++
    [registering 3 "svc-a", acknowledging 1, acknowledging 0, acknowledging 2]

/-- The acknowledgement of a first push confirms a second one that was refused, although the
registration was withdrawn in between. -/
def lateRegistration : List Move :=
  [registering 0 "svc-a", deregistering 1 "svc-a", registering 2 "svc-a", refusing 2,
    acknowledging 0, acknowledging 1]

/-! ## Settled names -/

/-- A name that is settled or unknown was withdrawn last, in every state of every run, just if no
registration that was acknowledged last strayed or overtook a withdrawal. -/
theorem settled_lastAcknowledged_iff (config : Config) (link : Link) (feed : Feed)
    (moves : List Move) (kind : Kind) (name : String)
    (hsettled : ((((ofConfig config link feed).run moves).log kind).find? name).all
      Intent.Entry.isSettled = true) :
    let start := ofConfig config link feed
    let session := start.run moves
    (∀ flight demand, session.lastAcknowledged? kind name = some (flight, demand) →
      ∃ endpoint, demand = .withdraw kind name endpoint) ↔
    ∀ flight registration,
      session.lastAcknowledged? kind name = some (flight, .register kind name registration) →
        ¬ start.Strays moves flight ∧
          ¬ Overtook session.recent flight fun demand =>
            ∃ endpoint, demand = .withdraw kind name endpoint := by
  intro start session
  have hstanding : session.Standing kind name (start.Strays moves) :=
    (standing_ofConfig config link feed kind name).run (sound_ofConfig config link feed) moves
  constructor
  · intro hwithdrawn flight registration hlast
    obtain ⟨endpoint, hdemand⟩ := hwithdrawn flight _ hlast
    exact absurd hdemand (by simp)
  · intro hregular flight demand hlast
    obtain ⟨later, owner, request, earlier, hsplit, rfl, hconcerns, -, hlater⟩ :=
      exists_of_lastAcknowledged? hlast
    rcases Demand.concerns_iff.1 hconcerns with ⟨registration, hdemand⟩ | hwithdraw
    · exfalso
      rw [hdemand] at hlast
      obtain ⟨hstray, hovertook⟩ := hregular flight registration hlast
      rcases hstanding.guarded later flight owner request earlier registration hsplit hdemand
        hstray with ⟨entry, hentry, hunsettled⟩ | hwithdrawn
      · change ((session.log kind).find? name).all _ = true at hsettled
        rw [hentry, Option.all_some, hunsettled] at hsettled
        exact Bool.false_ne_true hsettled
      · obtain ⟨other, otherOwner, otherRequest, hsent, ⟨endpoint, hother⟩, harrived⟩ := hwithdrawn
        have hmem : .arrived other .acknowledgement ∈ session.recent := by
          rw [hsplit]
          exact List.mem_append_left _ harrived
        have hconcernsOther : otherRequest.demand.concerns kind name = true := by
          rw [hother]
          exact Demand.concerns_withdraw kind name endpoint
        rcases sent_eq_or_mem_earlier hsplit hlater hsent hconcernsOther hmem with rfl | hearlier
        · exact absurd (hdemand.symm.trans hother) (by simp)
        · exact hovertook ⟨later, owner, request, earlier, hsplit, other, otherOwner,
            otherRequest, hearlier, ⟨endpoint, hother⟩, harrived⟩
    · exact hwithdraw

/-- A pass that pushes a registration which was withdrawn in the meantime. -/
theorem settled_lastAcknowledged_iff_stale :
    let session := (opened false).run staleRegistration
    ((session.log .agent).find? "svc-a").all Intent.Entry.isSettled = true ∧
      ∃ flight registration,
        session.lastAcknowledged? .agent "svc-a" =
            some (flight, .register .agent "svc-a" registration) ∧
          ((opened false).Strays staleRegistration flight ∨
            Overtook session.recent flight fun demand =>
              ∃ endpoint, demand = .withdraw .agent "svc-a" endpoint) := by
  intro session
  have hsettled : ((session.log .agent).find? "svc-a").all Intent.Entry.isSettled = true := by
    change (((((opened false).run staleRegistration).log .agent).find? "svc-a").all
      Intent.Entry.isSettled) = true
    decide +kernel
  have hregistered : (((opened false).run staleRegistration).lastAcknowledged? .agent "svc-a").any
      (fun last => last.2.isRegistration) = true := by decide +kernel
  refine ⟨hsettled, ?_⟩
  by_contra hregular
  push Not at hregular
  have hwithdrawn := (settled_lastAcknowledged_iff {} { isRunning := false } (.ofCapacity 16)
    staleRegistration .agent "svc-a" hsettled).2 hregular
  obtain ⟨⟨flight, demand⟩, hlast, hregistration⟩ := (Option.any_eq_true _ _).1 hregistered
  obtain ⟨endpoint, rfl⟩ := hwithdrawn flight demand hlast
  exact Bool.false_ne_true hregistration

/-- So a name can be settled with a registration left on the server. -/
theorem not_forall_settled_withdrawn :
    ¬ ∀ (config : Config) (link : Link) (feed : Feed) (moves : List Move) (kind : Kind)
      (name : String),
      let session := (ofConfig config link feed).run moves
      session.isQuiet kind name = true →
      ((session.log kind).find? name).all Intent.Entry.isSettled = true →
      ∀ flight demand, session.lastAcknowledged? kind name = some (flight, demand) →
        ∃ endpoint, demand = .withdraw kind name endpoint := by
  intro hall
  have hregistered : (((opened true).run lateWithdrawal).lastAcknowledged? .agent "svc-a").any
      (fun last => last.2.isRegistration) = true := by decide +kernel
  obtain ⟨⟨flight, demand⟩, hlast, hregistration⟩ := (Option.any_eq_true _ _).1 hregistered
  obtain ⟨endpoint, rfl⟩ := hall {} { isRunning := true } (.ofCapacity 16) lateWithdrawal .agent
    "svc-a" (by decide +kernel) (by decide +kernel) flight demand hlast
  exact Bool.false_ne_true hregistration

/-! ## Confirmed registrations -/

/-- A registration that counts as confirmed was acknowledged last, in every state of every run,
just if no other request that was acknowledged last strayed or overtook a push of it. -/
theorem confirmed_lastAcknowledged_iff (config : Config) (link : Link) (feed : Feed)
    (moves : List Move) (kind : Kind) (name : String)
    (entry : Intent.Entry kind.Registration)
    (hentry : (((ofConfig config link feed).run moves).log kind).find? name = some entry)
    (hregistered : entry.isRegistered = true) (hexpected : entry.isExpected = true) :
    let start := ofConfig config link feed
    let session := start.run moves
    let held := Demand.register kind name entry.desired
    (∃ flight, session.lastAcknowledged? kind name = some (flight, held)) ↔
    ∀ flight demand, session.lastAcknowledged? kind name = some (flight, demand) →
      demand ≠ held → ¬ start.Strays moves flight ∧ ¬ Overtook session.recent flight (· = held) := by
  intro start session held
  have hstanding : session.Standing kind name (start.Strays moves) :=
    (standing_ofConfig config link feed kind name).run (sound_ofConfig config link feed) moves
  have hheld : held.concerns kind name = true := Demand.concerns_register kind name entry.desired
  constructor
  · rintro ⟨last, hheldLast⟩ flight demand hlast hdemand
    rw [hheldLast] at hlast
    exact absurd (congrArg Prod.snd (Option.some.inj hlast)).symm hdemand
  · intro hregular
    obtain ⟨after, push, before, hbacked, ⟨pushOwner, pushRequest, hpush, hpushed⟩, hafter⟩ :=
      hstanding.backed entry hentry
        ((Intent.Entry.action_eq_none_iff entry).2 ⟨hregistered, hexpected⟩)
    change pushRequest.demand = held at hpushed
    have hpushSent : .sent push pushOwner pushRequest ∈ session.recent := by
      rw [hbacked]
      exact List.mem_append_right _ (List.mem_cons_of_mem _ hpush)
    have hpushArrived : .arrived push .acknowledgement ∈ session.recent := by
      rw [hbacked]
      exact List.mem_append_right _ List.mem_cons_self
    have hpushConcerns : pushRequest.demand.concerns kind name = true := by rw [hpushed, hheld]
    obtain ⟨flight, demand, hlast⟩ :=
      exists_lastAcknowledged? hpushSent hpushConcerns hpushArrived
    by_cases hdemand : demand = held
    · exact ⟨flight, by rw [hlast, hdemand]⟩
    · exfalso
      obtain ⟨hstray, hovertook⟩ := hregular flight demand hlast hdemand
      obtain ⟨later, owner, request, earlier, hsplit, rfl, hconcerns, -, hlater⟩ :=
        exists_of_lastAcknowledged? hlast
      -- Sent after the confirmation it would be the same push, and before, it was overtaken.
      rcases sent_mem_or_arrived_mem hsplit hbacked with hsent | harrived
      · exact hdemand (hafter flight owner request hsent hconcerns hstray)
      · rcases sent_eq_or_mem_earlier hsplit hlater hpushSent hpushConcerns hpushArrived with
          rfl | hearlier
        · exact hdemand hpushed
        · exact hovertook ⟨later, owner, request, earlier, hsplit, push, pushOwner, pushRequest,
            hearlier, hpushed, harrived⟩

/-- A pass that withdraws a name which was registered in the meantime. -/
theorem confirmed_lastAcknowledged_iff_stale :
    let session := (opened false).run staleWithdrawal
    ∃ entry, (session.log .agent).find? "svc-a" = some entry ∧
      entry.isRegistered = true ∧ entry.isExpected = true ∧
      ∃ flight demand, session.lastAcknowledged? .agent "svc-a" = some (flight, demand) ∧
        ((opened false).Strays staleWithdrawal flight ∨
          Overtook session.recent flight (· = .register .agent "svc-a" entry.desired)) := by
  intro session
  have hconfirmed : ((((opened false).run staleWithdrawal).log .agent).find? "svc-a").any
      (fun entry => entry.isRegistered && entry.isExpected) = true := by decide +kernel
  have hwithdrawn : (((opened false).run staleWithdrawal).lastAcknowledged? .agent "svc-a").all
      (fun last => !last.2.isRegistration) = true := by decide +kernel
  obtain ⟨entry, hentry, hflags⟩ := (Option.any_eq_true _ _).1 hconfirmed
  obtain ⟨hregistered, hexpected⟩ := (Bool.and_eq_true _ _).mp hflags
  refine ⟨entry, hentry, hregistered, hexpected, ?_⟩
  by_contra hregular
  push Not at hregular
  obtain ⟨flight, hheld⟩ := (confirmed_lastAcknowledged_iff {} { isRunning := false }
    (.ofCapacity 16) staleWithdrawal .agent "svc-a" entry hentry hregistered hexpected).2
      fun flight demand hlast _ => hregular flight demand hlast
  change ((opened false).run staleWithdrawal).lastAcknowledged? .agent "svc-a" = _ at hheld
  rw [hheld, Option.all_some] at hwithdrawn
  exact Bool.false_ne_true hwithdrawn

/-- So a registration can count as confirmed that the server was told to withdraw. -/
theorem not_forall_confirmed_held :
    ¬ ∀ (config : Config) (link : Link) (feed : Feed) (moves : List Move) (kind : Kind)
      (name : String),
      let session := (ofConfig config link feed).run moves
      session.isQuiet kind name = true →
      ∀ entry, (session.log kind).find? name = some entry →
        entry.isRegistered = true → entry.isExpected = true →
        ∃ flight, session.lastAcknowledged? kind name =
          some (flight, .register kind name entry.desired) := by
  intro hall
  have hconfirmed : ((((opened true).run lateRegistration).log .agent).find? "svc-a").any
      (fun entry => entry.isRegistered && entry.isExpected) = true := by decide +kernel
  have hwithdrawn : (((opened true).run lateRegistration).lastAcknowledged? .agent "svc-a").all
      (fun last => !last.2.isRegistration) = true := by decide +kernel
  obtain ⟨entry, hentry, hflags⟩ := (Option.any_eq_true _ _).1 hconfirmed
  obtain ⟨hregistered, hexpected⟩ := (Bool.and_eq_true _ _).mp hflags
  obtain ⟨flight, hheld⟩ := hall {} { isRunning := true } (.ofCapacity 16) lateRegistration .agent
    "svc-a" (by decide +kernel) entry hentry hregistered hexpected
  change ((opened true).run lateRegistration).lastAcknowledged? .agent "svc-a" = _ at hheld
  rw [hheld, Option.all_some] at hwithdrawn
  exact Bool.false_ne_true hwithdrawn

end RegistrySession.Session
