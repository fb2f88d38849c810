import RegistrySession.Proofs.Session.Change
import RegistrySession.Proofs.Session.Pools

/-!
# The course of a step

Every step is taken apart once and for all.  It sets out with what the move itself brings: an
intent of the application, a loss of connection, or the acknowledgement of a push.  After that it
leaves the logs alone, but for the removal of what is settled, and sends at most one request.
Requests of calls are sent for the intent that was recorded just before, so the log wants them; a
pass sends what it read off an entry when it came to the log, and may be behind by then.
-/

namespace RegistrySession

open Intent (Operation)

/-- The request with which a pass pushes what is left to do for an entry. -/
def Intent.Entry.demand? (kind : Kind) (name : String) (entry : Intent.Entry kind.Registration) :
    Option Demand :=
  match entry.action with
  | some .register => some (.register kind name entry.desired)
  | some .deregister => (kind.primary? entry.desired).map (.withdraw kind name)
  | _ => none

theorem Owner.call_ne_run (id : Nat) (pool : PoolName) (task : Nat) :
    Owner.call id ≠ .run pool task :=
  nofun

def Call.intent? : (kind : Kind) → Call → Option (Operation kind.Registration)
  | .agent, .register .agent name registration => some (.intendRegister name registration)
  | .mcp, .register .mcp name registration => some (.intendRegister name registration)
  | .agent, .deregisterAgent name _ => some (.intendDeregister name)
  | .mcp, .deregisterMcp name _ _ => some (.intendDeregister name)
  | _, _ => none

@[simp]
theorem Call.intent?_register (kind : Kind) (name : String) (registration : kind.Registration) :
    Call.intent? kind (.register kind name registration) =
      some (.intendRegister name registration) := by
  cases kind <;> rfl

/-- A call leaves an intent in one log at most. -/
theorem Call.intent?_of_ne {kind other : Kind} {call : Call}
    {operation : Operation kind.Registration} (hintent : call.intent? kind = some operation)
    (hkind : other ≠ kind) : call.intent? other = none := by
  cases kind <;> cases other <;> first | exact absurd rfl hkind | skip
  all_goals
    cases call with
    | register target => cases target <;> first | rfl | exact nomatch hintent
    | _ => first | rfl | exact nomatch hintent

namespace Session

/-- The intent that a move leaves in the log of a kind. A call that is refused leaves none. -/
def intent? (session : Session) (kind : Kind) : Move → Option (Operation kind.Registration)
  | .call _ call =>
    match session.check call with
    | .ok () => call.intent? kind
    | .error _ => none
  | _ => none

/-- A pass has an entry with it, to push it once the reply that it waits for has come. -/
def Carries (session : Session) (owner : Owner) (kind : Kind)
    (entry : String × Intent.Entry kind.Registration) : Prop :=
  ∃ flight ∈ session.flights, flight.owner = owner ∧
    ∃ confirmation remaining, flight.errand = .reconcile kind confirmation remaining ∧
      entry ∈ remaining

/-- A pass knows an entry, be it from earlier or because it stands in the log now. -/
def Holds (session : Session) (owner : Owner) (kind : Kind)
    (entry : String × Intent.Entry kind.Registration) : Prop :=
  session.Carries owner kind entry ∨ (session.log kind).find? entry.1 = some entry.2

/-- What a move brings by itself. -/
inductive Onset (session : Session) (move : Move) : Session → Prop
  | rest (hquiet : ∀ kind, session.intent? kind move = none) : Onset session move session
  | intend (kind : Kind) (operation : Operation kind.Registration)
      (hintent : session.intent? kind move = some operation)
      (hspontaneous : IsSpontaneous kind operation) :
      Onset session move (session.modifyLog kind fun log => log.apply operation)
  | lose {next : Session} (hmove : move = .receive)
      (hlog : ∀ kind, next.log kind = (session.log kind).loseSession)
      (hflights : next.flights = session.flights) (hnext : next.nextFlight = session.nextFlight)
      (htimeout : next.timeout = session.timeout) (hrecent : next.recent = []) :
      Onset session move next
  | confirm (flight : Flight) (hflight : flight ∈ session.flights) (kind : Kind)
      (confirmation : Intent.Log.Confirmation kind.Registration)
      (hconfirms : flight.errand.Confirms kind confirmation)
      (hmove : move = .reply flight.id (.response .acknowledged))
      (hdue : session.now ≤ flight.deadline) :
      Onset session move ((session.land flight.id .acknowledgement).confirm kind confirmation)

/-- What a step that began in `start` goes on to do. -/
inductive Sequel (start : Session) : Session → Session → Prop
  | rest (session : Session) : Sequel start session session
  | aside {session next last : Session} (haside : session.Aside next)
      (hsequel : Sequel start next last) : Sequel start session last
  | prune {session last : Session} (kind : Kind) (name : String)
      (hsequel : Sequel start (session.modifyLog kind fun log => log.apply (.prune name)) last) :
      Sequel start session last
  | ask {session : Session} {owner : Owner} {errand : Errand} {demand : Demand}
      (howner : ∀ task, owner ≠ .run .reconcile task)
      (hsend : session.MaySend owner errand demand) :
      Sequel start session (session.send owner errand demand)
  | push {session : Session} {owner : Owner} (kind : Kind) (name : String)
      (entry : Intent.Entry kind.Registration)
      (confirmation : Intent.Log.Confirmation kind.Registration)
      (remaining : List (String × Intent.Entry kind.Registration)) {demand : Demand}
      (hentry : start.Holds owner kind (name, entry))
      (hremaining : ∀ other ∈ remaining, start.Holds owner kind other)
      (hdemand : entry.demand? kind name = some demand)
      (hsend : session.MaySend owner (.reconcile kind confirmation remaining) demand) :
      Sequel start session (session.send owner (.reconcile kind confirmation remaining) demand)

theorem confirm_eq_apply (session : Session) (kind : Kind)
    (confirmation : Intent.Log.Confirmation kind.Registration) :
    session.confirm kind confirmation =
      session.modifyLog kind fun log => log.apply confirmation.operation := by
  simp only [confirm, Intent.Log.Confirmation.confirm_eq_apply]

/-! ## What keeps a session sound -/

/-- An operation keeps the registration of an entry, unless it wishes for another. -/
theorem primary?_of_revise {kind : Kind} {operation : Operation kind.Registration}
    {session : Nat} {name : String} {entry : Option (Intent.Entry kind.Registration)}
    {found : Intent.Entry kind.Registration}
    (hentry : ∀ old, entry = some old → (kind.primary? old.desired).isSome = true)
    (hwish : ∀ desired, operation.wish? name = some (.register desired) →
      (kind.primary? desired).isSome = true)
    (hfound : operation.revise session name entry = some found) :
    (kind.primary? found.desired).isSome = true := by
  cases hown : operation.wish? name with
  | none =>
    obtain ⟨old, hold, -, hdesired⟩ := Operation.revise_of_wish?_eq_none hown hfound
    rw [hdesired]
    exact hentry old hold
  | some wish =>
    cases wish with
    | register desired =>
      obtain ⟨renewed, hrenewed, -, hdesired⟩ :=
        Operation.revise_of_wish?_eq_register session entry hown
      obtain rfl : found = renewed := Option.some.inj (hfound.symm.trans hrenewed)
      rw [hdesired]
      exact hwish desired hown
    | deregister =>
      rw [Operation.revise_of_wish?_eq_deregister hown] at hfound
      obtain ⟨old, hold, rfl⟩ := Option.map_eq_some_iff.1 hfound
      exact hentry old hold

/-- Only what can be withdrawn again is registered. -/
theorem IsSpontaneous.primary?_of_wish? {kind : Kind} {operation : Operation kind.Registration}
    {name : String} {desired : kind.Registration} (hspontaneous : IsSpontaneous kind operation)
    (hwish : operation.wish? name = some (.register desired)) :
    (kind.primary? desired).isSome = true := by
  cases operation with
  | intendRegister target wanted =>
    obtain ⟨-, rfl⟩ : target = name ∧ wanted = desired := by
      simpa [Operation.wish?] using hwish
    exact hspontaneous
  | intendDeregister target => simp [Operation.wish?] at hwish
  | _ => simp [Operation.wish?] at hwish

theorem Sound.apply {session : Session} (hsound : session.Sound) (kind : Kind)
    (operation : Operation kind.Registration)
    (hwish : ∀ name desired, operation.wish? name = some (.register desired) →
      (kind.primary? desired).isSome = true) :
    (session.modifyLog kind fun log => log.apply operation).Sound := by
  constructor
  case fits => exact hsound.fits
  case withdrawable =>
    intro other name entry hentry
    by_cases hkind : other = kind
    · subst hkind
      rw [log_modifyLog_self, Intent.Log.find?_apply] at hentry
      exact primary?_of_revise (hsound.withdrawable other name) (hwish name) hentry
    · rw [log_modifyLog_of_ne _ _ hkind] at hentry
      exact hsound.withdrawable other name entry hentry

/-- What is done aside keeps a session sound. -/
theorem Aside.sound {session next : Session} (haside : session.Aside next)
    (hsound : session.Sound) : next.Sound := by
  constructor
  case fits => exact fun flight hflight => hsound.fits flight (haside.flights hflight)
  case withdrawable =>
    intro kind name entry hentry
    rw [haside.find?] at hentry
    exact hsound.withdrawable kind name entry hentry

/-! ## Passes -/

theorem Sequel.of_aside {start session next : Session} (haside : session.Aside next) :
    Sequel start session next :=
  .aside haside (.rest next)

theorem Sequel.conclude (start session : Session) (owner : Owner) (outcome : Outcome Answer) :
    Sequel start session (session.conclude owner outcome) :=
  .of_aside (Aside.conclude session owner outcome)

/-- A request whose reply confirms nothing. -/
theorem Sequel.query {start session : Session} {owner : Owner} {errand : Errand} {demand : Demand}
    (howner : ∀ task, owner ≠ .run .reconcile task) (hfits : errand.Fits owner demand)
    (hconfirms : ∀ kind confirmation, ¬ errand.Confirms kind confirmation)
    (hwanted : session.wants demand = true) :
    Sequel start session (session.send owner errand demand) :=
  .ask howner
    ⟨hfits, fun kind confirmation h => absurd h (hconfirms kind confirmation), .inr hwanted⟩

theorem Sound.prune {session : Session} (hsound : session.Sound) (kind : Kind) (name : String) :
    (session.modifyLog kind fun log => log.apply (.prune name)).Sound :=
  hsound.apply kind (.prune name) fun _ _ h => nomatch h

/-- A confirmation keeps a session sound. -/
theorem Sound.confirm {session : Session} (hsound : session.Sound) (kind : Kind)
    (confirmation : Intent.Log.Confirmation kind.Registration) :
    (session.confirm kind confirmation).Sound := by
  rw [confirm_eq_apply]
  apply hsound.apply kind confirmation.operation
  intro name desired hwish
  cases confirmation <;> exact nomatch hwish

theorem Sound.pending {session : Session} (hsound : session.Sound) (kind : Kind) :
    Withdrawable (session.log kind).pending := by
  intro entry hentry
  have hmem := (List.mem_filter.1 hentry).1
  exact hsound.withdrawable kind entry.1 entry.2 ((Table.mem_entries_iff _ _ _).1 hmem)

/-- What a pass begins with stands in the log. -/
theorem find?_of_mem_pending {session : Session} {kind : Kind}
    {entry : String × Intent.Entry kind.Registration}
    (hentry : entry ∈ (session.log kind).pending) :
    (session.log kind).find? entry.1 = some entry.2 :=
  (Table.mem_entries_iff _ _ _).1 (List.mem_filter.1 hentry).1

section Pass

variable {start : Session} {task : Nat} {kind : Kind} {isOnline : Bool}
  {remaining : List (String × Intent.Entry kind.Registration)}

/-- A pass through one log pushes what it holds, and on its way only removes what is settled. -/
theorem reconcileLog_sequel (meanwhile : Session → Prop) {next : Session → Session}
    (hnext : ∀ session : Session, session.Sound → meanwhile session →
      Sequel start session (next session))
    (hprune : ∀ (session : Session) (name : String), meanwhile session →
      meanwhile (session.modifyLog kind fun log => log.apply (.prune name)))
    (hholds : ∀ entry ∈ remaining, start.Holds (.run .reconcile task) kind entry)
    (hremaining : Withdrawable remaining) {session : Session} (hsound : session.Sound)
    (hmeanwhile : meanwhile session) :
    Sequel start session
      (reconcileLog (.run .reconcile task) kind isOnline next remaining session) := by
  induction remaining generalizing session with
  | nil => exact hnext session hsound hmeanwhile
  | cons head remaining ih =>
    obtain ⟨name, entry⟩ := head
    have hhead := hholds _ List.mem_cons_self
    have hheldRest : ∀ other ∈ remaining, start.Holds (.run .reconcile task) kind other :=
      fun other hother => hholds other (List.mem_cons_of_mem _ hother)
    have hrest : Withdrawable remaining :=
      fun other hother => hremaining other (List.mem_cons_of_mem _ hother)
    rw [reconcileLog]
    cases haction : entry.action with
    | none => exact ih hheldRest hrest hsound hmeanwhile
    | some action =>
      cases action with
      | remove =>
        exact .prune kind name
          (ih hheldRest hrest (hsound.prune kind name) (hprune session name hmeanwhile))
      | register =>
        cases isOnline with
        | true =>
          refine .push kind name entry _ remaining hhead hheldRest ?_
            ⟨⟨rfl, hrest, task, rfl⟩, ?_, .inl ⟨task, rfl⟩⟩
          · simp only [Intent.Entry.demand?, haction]
          · rintro _ _ ⟨⟩
            rfl
        | false => exact ih hheldRest hrest hsound hmeanwhile
      | deregister =>
        cases isOnline with
        | true =>
          obtain ⟨endpoint, hprimary⟩ :=
            Option.isSome_iff_exists.1 (hremaining _ List.mem_cons_self)
          simp only [hprimary, if_true]
          refine .push kind name entry _ remaining hhead hheldRest ?_
            ⟨⟨⟨endpoint, rfl⟩, hrest, task, rfl⟩, ?_, .inl ⟨task, rfl⟩⟩
          · simp only [Intent.Entry.demand?, haction, hprimary, Option.map_some]
          · rintro _ _ ⟨⟩
            rfl
        | false => exact ih hheldRest hrest hsound hmeanwhile

/-- A pass takes the entries of a log as they are when it comes to it. -/
theorem reconcileAfter_sequel (task : Nat) (isOnline : Bool) (kind : Kind) {session : Session}
    (hsound : session.Sound)
    (hothers : ∀ other, other ≠ kind → session.log other = start.log other) :
    Sequel start session (reconcileAfter (.run .reconcile task) isOnline kind session) := by
  cases kind with
  | mcp => exact .conclude start session (.run .reconcile task) (.done .nothing)
  | agent =>
    apply reconcileLog_sequel fun _ => True
    case hnext => exact fun session _ _ => .conclude start session _ _
    case hprune => exact fun _ _ _ => trivial
    case hholds =>
      intro entry hentry
      rw [hothers .mcp (by simp)] at hentry
      exact .inr (find?_of_mem_pending hentry)
    case hremaining => exact hsound.pending .mcp
    case hsound => exact hsound
    case hmeanwhile => trivial

theorem reconcile_sequel (task : Nat) (isOnline : Bool) (kind : Kind)
    {remaining : List (String × Intent.Entry kind.Registration)}
    (hholds : ∀ entry ∈ remaining, start.Holds (.run .reconcile task) kind entry)
    (hremaining : Withdrawable remaining) {session : Session} (hsound : session.Sound)
    (hothers : ∀ other, other ≠ kind → session.log other = start.log other) :
    Sequel start session (reconcileLog (.run .reconcile task) kind isOnline
      (reconcileAfter (.run .reconcile task) isOnline kind) remaining session) := by
  apply reconcileLog_sequel fun session =>
    ∀ other, other ≠ kind → session.log other = start.log other
  case hnext =>
    exact fun _ hsound hothers => reconcileAfter_sequel task isOnline kind hsound hothers
  case hprune =>
    intro session name hothers other hother
    rw [log_modifyLog_of_ne _ _ hother, hothers other hother]
  case hholds => exact hholds
  case hremaining => exact hremaining
  case hsound => exact hsound
  case hmeanwhile => exact hothers

end Pass

/-! ## Replies -/

/-- What a step comes to: what the move brings, and what follows. -/
def Course (session : Session) (move : Move) (next : Session) : Prop :=
  ∃ middle, session.Onset move middle ∧ session.Sequel middle next

/-- A move that leaves no intent and confirms nothing. -/
theorem Course.of_sequel {session next : Session} {move : Move}
    (hquiet : ∀ kind, session.intent? kind move = none) (hsequel : session.Sequel session next) :
    session.Course move next :=
  ⟨session, .rest hquiet, hsequel⟩

section Replies

variable {session : Session} {move : Move} {flight : Flight} {arrival : Arrival}

/-- What comes behind the end of a wait that confirms nothing. -/
theorem Course.of_land (hquiet : ∀ kind, session.intent? kind move = none) {next : Session}
    (hsequel : session.Sequel (session.land flight.id arrival) next) :
    session.Course move next :=
  .of_sequel hquiet (.aside (Aside.land session flight.id arrival) hsequel)

/-- What comes behind an acknowledgement that confirms. -/
theorem Course.of_confirm (hsound : session.Sound) (hflight : flight ∈ session.flights)
    (hcause : arrival = .acknowledgement →
      move = .reply flight.id (.response .acknowledged) ∧ session.now ≤ flight.deadline)
    {kind : Kind} {confirmation : Intent.Log.Confirmation kind.Registration}
    (hconfirms : flight.errand.Confirms kind confirmation) {answer : Answer}
    (hdone : flight.request.demand.conclude arrival = .done answer) {next : Session}
    (hsequel : session.Sequel ((session.land flight.id arrival).confirm kind confirmation) next) :
    session.Course move next := by
  have hanswers := (hsound.fits flight hflight).answers hconfirms
  obtain rfl := Demand.eq_acknowledgement_of_conclude hanswers.isEndpointDemand hdone
  obtain ⟨hmove, hdue⟩ := hcause rfl
  exact ⟨_, .confirm flight hflight kind confirmation hconfirms hmove hdue, hsequel⟩

/-- A pass goes on with the entries that it has with it. -/
theorem resumeReconcile_course (hsound : session.Sound) (hflight : flight ∈ session.flights)
    (hquiet : ∀ kind, session.intent? kind move = none)
    (hcause : arrival = .acknowledgement →
      move = .reply flight.id (.response .acknowledged) ∧ session.now ≤ flight.deadline)
    {kind : Kind} {confirmation : Intent.Log.Confirmation kind.Registration}
    {remaining : List (String × Intent.Entry kind.Registration)}
    (herrand : flight.errand = .reconcile kind confirmation remaining) :
    session.Course move ((session.land flight.id arrival).resume flight
      (flight.request.demand.conclude arrival)) := by
  have hlanded := (Aside.land session flight.id arrival).sound hsound
  have hconfirms : flight.errand.Confirms kind confirmation :=
    herrand ▸ .reconcile kind _ remaining
  have hfits := hsound.fits flight hflight
  rw [herrand] at hfits
  obtain ⟨-, hremaining, task, howner⟩ := hfits
  have hholds : ∀ entry ∈ remaining, session.Holds (.run .reconcile task) kind entry :=
    fun entry hentry =>
      .inl ⟨flight, hflight, howner, confirmation, remaining, herrand, hentry⟩
  have hfailed : session.Course move ((session.land flight.id arrival).resumeReconcile
      (.run .reconcile task) kind remaining) :=
    .of_land hquiet (reconcile_sequel task true kind hholds hremaining hlanded fun other _ => rfl)
  unfold resume
  simp only [herrand, howner]
  cases houtcome : flight.request.demand.conclude arrival with
  | done answer =>
    refine .of_confirm hsound hflight hcause hconfirms houtcome
      (reconcile_sequel task true kind hholds hremaining ?_ fun other hother => ?_)
    · exact hlanded.confirm kind confirmation
    · exact log_modifyLog_of_ne _ _ hother
  | failed error => exact hfailed
  | panicked => exact hfailed

/-- An acknowledgement lets the errand confirm, and any other end of the wait leaves the logs to
what comes after it. -/
theorem resume_course (hsound : session.Sound) (hflight : flight ∈ session.flights)
    (hquiet : ∀ kind, session.intent? kind move = none)
    (hcause : arrival = .acknowledgement →
      move = .reply flight.id (.response .acknowledged) ∧ session.now ≤ flight.deadline) :
    session.Course move ((session.land flight.id arrival).resume flight
      (flight.request.demand.conclude arrival)) := by
  have hconclude : ∀ owner outcome,
      session.Course move ((session.land flight.id arrival).conclude owner outcome) :=
    fun owner outcome => .of_land hquiet (.conclude session _ owner outcome)
  cases herrand : flight.errand with
  | reconcile kind confirmation remaining =>
    exact resumeReconcile_course hsound hflight hquiet hcause herrand
  | handOn =>
    simp only [resume, herrand]
    exact hconclude _ _
  | confirm kind confirmation =>
    have hconfirms : flight.errand.Confirms kind confirmation := herrand ▸ .confirm kind _
    simp only [resume, herrand]
    cases houtcome : flight.request.demand.conclude arrival with
    | done answer =>
      exact .of_confirm hsound hflight hcause hconfirms houtcome (.conclude _ _ _ _)
    | failed error => exact hconclude _ _
    | panicked => exact hconclude _ _
  | subscribe kind handle =>
    rcases (session.land flight.id arrival).resume_subscribe_cases
      (flight.request.demand.conclude arrival) herrand with
      ⟨answer, record, -, -, heq⟩ | ⟨-, result, heq, -, -⟩
    · rw [heq]
      exact .of_land hquiet (.of_aside
        ((Aside.absorb _ kind record).trans (Aside.completeSubscription _ _ kind handle record)))
    · rw [heq]
      exact hconclude _ _
  | refresh kind =>
    rcases (session.land flight.id arrival).resume_refresh_cases
      (flight.request.demand.conclude arrival) herrand with
      ⟨answer, record, -, -, heq⟩ | ⟨-, result, heq, -⟩
    · rw [heq]
      exact .of_land hquiet (.of_aside ((Aside.absorb _ kind record).trans (Aside.conclude _ _ _)))
    · rw [heq]
      exact hconclude _ _

theorem arrive_course (hsound : session.Sound) {id : Nat}
    (hquiet : ∀ kind, session.intent? kind move = none)
    (hcause : ∀ flight, session.flight? id = some flight → arrival = .acknowledgement →
      move = .reply id (.response .acknowledged) ∧ session.now ≤ flight.deadline) :
    session.Course move (session.arrive id arrival) := by
  rcases session.arrive_cases id arrival with ⟨-, heq⟩ | ⟨flight, hflight, heq⟩
  · rw [heq]
    exact .of_sequel hquiet (.rest session)
  · have hid : flight.id = id := by simpa using List.find?_some hflight
    subst hid
    rw [heq]
    exact resume_course hsound (List.mem_of_find?_eq_some hflight) hquiet (hcause flight hflight)

end Replies

/-! ## Calls -/

theorem validate_of_check {session : Session} {kind : Kind} {name : String}
    {registration : kind.Registration}
    (h : session.check (.register kind name registration) = .ok ()) :
    kind.validate registration = .ok () := by
  obtain ⟨_, _, h⟩ := exists_of_bind_eq_ok h
  obtain ⟨_, _, h⟩ := exists_of_bind_eq_ok h
  obtain ⟨_, hvalid, _⟩ := exists_of_bind_eq_ok h
  exact hvalid

section Calls

variable {session : Session} {id : Nat} {call : Call}

/-- A call that passes its checks leaves its intent. -/
theorem intent?_of_check (hcheck : session.check call = .ok ()) (kind : Kind) :
    session.intent? kind (.call id call) = call.intent? kind := by
  rw [intent?, hcheck]

/-- A call that leaves no intent, and asks for nothing that the log has a say in. -/
theorem Course.of_query (hintent : ∀ kind, call.intent? kind = none)
    (hcheck : session.check call = .ok ()) {next : Session}
    (hsequel : session.Sequel session next) : session.Course (.call id call) next :=
  .of_sequel (fun kind => (intent?_of_check hcheck kind).trans (hintent kind)) hsequel

theorem register_course {kind : Kind} {name : String} {registration : kind.Registration}
    (hcheck : session.check (.register kind name registration) = .ok ()) :
    session.Course (.call id (.register kind name registration))
      (session.register (.call id) kind name registration) := by
  refine ⟨_, .intend kind (.intendRegister name registration) ?_ ?_, ?_⟩
  · rw [intent?_of_check hcheck, Call.intent?_register]
  · exact Kind.isSome_primary?_of_validate (validate_of_check hcheck)
  · rcases session.register_cases (.call id) name registration with ⟨-, heq⟩ | ⟨-, heq⟩
    · rw [heq]
      refine .ask (Owner.call_ne_run id .reconcile) ⟨⟨rfl, id, rfl⟩, ?_, .inr ?_⟩
      · rintro _ _ ⟨⟩
        rfl
      · rw [wants, log_modifyLog_self, Intent.Log.apply, Intent.Log.find?_intendRegister]
        cases (session.log kind).find? name <;>
          simp [Intent.Entry.ofIntent, Intent.Log.renew]
    · rw [heq]
      exact .conclude _ _ _ _

theorem modifyLog_eq_self {kind : Kind}
    {f : Intent.Log kind.Registration → Intent.Log kind.Registration}
    (hf : f (session.log kind) = session.log kind) : session.modifyLog kind f = session := by
  rw [log, Intent.Ledger.log] at hf
  simp only [modifyLog, Intent.Ledger.modifyLog, Intent.Ledger.setLog, Intent.Ledger.log, hf,
    PerKind.set_get]

/-- Deregistering what has no entry changes nothing. -/
theorem modifyLog_intendDeregister_of_absent {kind : Kind} {name : String}
    (habsent : (session.log kind).find? name = none) :
    session.modifyLog kind (fun log => log.apply (.intendDeregister name)) = session := by
  refine modifyLog_eq_self ((Intent.Log.amend_eq_self_iff _ _ _).2 fun entry hentry => ?_)
  rw [habsent] at hentry
  exact nomatch hentry

theorem deregister_course {kind : Kind} {name : String} {endpoint : kind.Endpoint} {call : Call}
    (hintent : session.intent? kind (.call id call) = some (.intendDeregister name)) :
    session.Course (.call id call) (session.deregister (.call id) kind name endpoint) := by
  refine ⟨_, .intend kind (.intendDeregister name) hintent trivial, ?_⟩
  cases hentry : (session.log kind).find? name with
  | none =>
    rw [modifyLog_intendDeregister_of_absent hentry,
      session.deregister_of_absent _ endpoint hentry]
    exact .conclude _ _ _ _
  | some entry =>
    rcases session.deregister_cases_of_find? (.call id) endpoint hentry with ⟨-, heq⟩ | ⟨-, heq⟩
    · rw [heq]
      refine .ask (Owner.call_ne_run id .reconcile) ⟨⟨⟨endpoint, rfl⟩, id, rfl⟩, ?_, .inr ?_⟩
      · rintro _ _ ⟨⟩
        rw [log_modifyLog_self]
        rfl
      · simp [wants, Intent.Log.apply, Intent.Log.intendDeregister, hentry]
    · rw [heq]
      exact .conclude _ _ _ _

theorem perform_course (hcheck : session.check call = .ok ()) :
    session.Course (.call id call) (session.perform (.call id) call) := by
  cases call with
  | getAgent name version registrationType =>
    exact .of_query (fun kind => by cases kind <;> rfl) hcheck
      (.query (fun _ => nofun) trivial (fun _ _ h => nomatch h) rfl)
  | getMcp name version =>
    exact .of_query (fun kind => by cases kind <;> rfl) hcheck
      (.query (fun _ => nofun) trivial (fun _ _ h => nomatch h) rfl)
  | releaseAgent card registrationType setAsLatest =>
    exact .of_query (fun kind => by cases kind <;> rfl) hcheck
      (.query (fun _ => nofun) trivial (fun _ _ h => nomatch h) rfl)
  | releaseMcp summary toolSpec route =>
    exact .of_query (fun kind => by cases kind <;> rfl) hcheck
      (.query (fun _ => nofun) trivial (fun _ _ h => nomatch h) rfl)
  | register kind name registration => exact register_course hcheck
  | deregisterAgent name endpoint =>
    exact deregister_course (intent?_of_check hcheck .agent)
  | deregisterMcp name address port =>
    exact deregister_course (intent?_of_check hcheck .mcp)
  | subscribe kind name version listener =>
    apply Course.of_query (fun kind => by cases kind <;> rfl) hcheck
    rw [perform]
    rcases session.subscribe_cases (.call id) (.of name version) listener with
      ⟨-, heq⟩ | ⟨list, handle, -, ⟨record, -, heq⟩ | ⟨-, heq⟩⟩
    · rw [heq]
      exact .conclude _ _ _ _
    · rw [heq]
      exact .aside (Aside.setWatchlist session kind list)
        (.of_aside (Aside.completeSubscription _ _ kind handle record))
    · rw [heq]
      refine .aside (Aside.setWatchlist session kind list)
        (.query (fun _ => nofun) trivial (fun _ _ h => nomatch h) ?_)
      cases kind <;> rfl
  | unsubscribe kind name version listener =>
    apply Course.of_query (fun kind => by cases kind <;> rfl) hcheck
    unfold perform
    exact .aside (Aside.setWatchlist session kind _) (.conclude _ _ _ _)
  | shutdown =>
    apply Course.of_query (fun kind => by cases kind <;> rfl) hcheck
    unfold perform
    exact .aside (Aside.shutdown session) (.conclude _ _ _ _)

/-- What a call comes to: its intent, and a request for it. -/
theorem call_course (session : Session) (id : Nat) (call : Call) :
    session.Course (.call id call) (session.call id call) := by
  rcases session.call_cases id call with ⟨hcheck, heq⟩ | ⟨error, hcheck, heq⟩
  · rw [heq]
    exact perform_course hcheck
  · rw [heq]
    refine .of_sequel (fun kind => ?_) (.conclude session session (.call id) (.failed error))
    rw [intent?, hcheck]

end Calls

/-! ## The other moves -/

/-- Taking a loss off the feed ends the sessions of both logs; what else is taken leaves the logs
alone. -/
theorem receive_course (session : Session) : session.Course .receive session.receive := by
  have hquiet : ∀ kind, session.intent? kind .receive = none := fun _ => rfl
  rcases session.receive_cases with hsame | ⟨received, feed, -, -, htaken⟩
  · rw [hsame]
    exact .of_sequel hquiet (.rest session)
  · let taken : Session :=
      { session with
        feed
        ledger := session.ledger.observeReceived received
        isWatching := received ≠ Received.closed }
    rw [htaken]
    change session.Course .receive (taken.note (.observed received))
    cases hloss : received.isLoss with
    | true =>
      have hledger : session.ledger.observeReceived received =
          session.ledger.observe .disconnected := by
        rcases received with ⟨_ | _⟩ | _ | _ <;> first | rfl | simp [Received.isLoss] at hloss
      have hlog : ∀ kind, (taken.note (.observed received)).log kind =
          (session.log kind).loseSession := by
        intro kind
        change (session.ledger.observeReceived received).log kind = _
        rw [hledger]
        exact PerKind.get_ofFn _ kind
      have hrecent : (taken.note (.observed received)).recent = [] := by
        rw [recent_note, Note.isLoss, hloss]
        rfl
      exact ⟨_, .lose rfl hlog rfl rfl rfl hrecent, .rest _⟩
    | false =>
      have hlogs : (session.ledger.observeReceived received).logs = session.ledger.logs := by
        rcases received with ⟨_ | _⟩ | _ | _ <;> first | rfl | simp [Received.isLoss] at hloss
      have haside : session.Aside taken := .of_eq hlogs (fun _ h => h) rfl rfl rfl
      exact .of_sequel hquiet (.of_aside (haside.trans (Aside.note taken rfl hloss)))

theorem Aside.setPool (session : Session) (name : PoolName) (pool : Pool name.Job) :
    session.Aside (session.setPool name pool) := by
  cases name with
  | refresh kind => exact Aside.setWatchlist session kind _
  | reconcile => exact .of_eq rfl (fun _ h => h) rfl rfl rfl

/-- A run that starts asks for a record, or for what its log wants. -/
theorem launch_sequel {session : Session} (hsound : session.Sound) (name : PoolName)
    (pool : Pool name.Job) (task : Task name.Job) :
    session.Sequel session ((session.setPool name pool).launch name task) := by
  have haside := Aside.setPool session name pool
  apply Sequel.aside haside
  cases name with
  | refresh kind =>
    refine .query (fun _ => nofun) trivial (fun _ _ h => nomatch h) ?_
    cases kind <;> rfl
  | reconcile =>
    apply reconcile_sequel task.id _ .agent
    · exact fun entry hentry => .inr (find?_of_mem_pending hentry)
    · exact (haside.sound hsound).pending .agent
    · exact haside.sound hsound
    · exact fun _ _ => rfl

theorem start_sequel {session : Session} (hsound : session.Sound) (name : PoolName) :
    session.Sequel session (session.start name) := by
  rcases session.start_cases name with ⟨-, heq⟩ | ⟨pool, -, heq⟩ | ⟨pool, task, -, heq⟩
  · rw [heq]
    exact .rest session
  · rw [heq]
    exact .of_aside (Aside.setPool session name pool)
  · rw [heq]
    exact launch_sequel hsound name pool task

theorem reply_course {session : Session} (hsound : session.Sound) (id : Nat) (reply : Reply) :
    session.Course (.reply id reply) (session.reply id reply) := by
  have hrest : session.Course (.reply id reply) session := .of_sequel (fun _ => rfl) (.rest session)
  unfold Session.reply
  cases hflight : session.flight? id with
  | none => exact hrest
  | some waiting =>
    by_cases hdue : session.now ≤ waiting.deadline
    · simp only [if_pos hdue]
      refine arrive_course hsound (fun _ => rfl) fun found hfound harrival => ?_
      rw [hflight] at hfound
      obtain rfl := Option.some.inj hfound
      obtain rfl := Arrival.reply.inj harrival
      exact ⟨rfl, hdue⟩
    · simp only [if_neg hdue]
      exact hrest

theorem expire_course {session : Session} (hsound : session.Sound) (id : Nat) :
    session.Course (.expire id) (session.expire id) := by
  rcases session.expire_cases id with hsame | harrives
  · rw [hsame]
    exact .of_sequel (fun _ => rfl) (.rest session)
  · rw [harrives]
    exact arrive_course hsound (fun _ => rfl) fun _ _ h => nomatch h

/-- Every step comes to what its move brings, and to what follows from that. -/
theorem Sound.step_course {session : Session} (hsound : session.Sound) (move : Move) :
    session.Course move (session.step move) := by
  have haside : ∀ {next : Session}, (∀ kind, session.intent? kind move = none) →
      session.Aside next → session.Course move next :=
    fun hquiet haside => .of_sequel hquiet (.of_aside haside)
  cases move with
  | call id call => exact call_course session id call
  | reply flight reply => exact reply_course hsound flight reply
  | expire flight => exact expire_course hsound flight
  | receive => exact receive_course session
  | wake pool task =>
    refine haside (fun _ => rfl) ?_
    rw [step, session.wake_eq pool task]
    exact Aside.setPool session pool _
  | start pool => exact .of_sequel (fun _ => rfl) (start_sequel hsound pool)
  | reorder kind name => exact haside (fun _ => rfl) (Aside.reorder session kind name)
  | elapse span => exact haside (fun _ => rfl) (.of_eq rfl (fun _ h => h) rfl rfl rfl)
  | setRunning isRunning => exact haside (fun _ => rfl) (.of_eq rfl (fun _ h => h) rfl rfl rfl)
  | setSupport kind support => exact haside (fun _ => rfl) (.of_eq rfl (fun _ h => h) rfl rfl rfl)
  | announce event => exact haside (fun _ => rfl) (.of_eq rfl (fun _ h => h) rfl rfl rfl)
  | closeFeed => exact haside (fun _ => rfl) (.of_eq rfl (fun _ h => h) rfl rfl rfl)

end Session

end RegistrySession
