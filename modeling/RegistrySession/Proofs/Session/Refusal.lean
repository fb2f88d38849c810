import RegistrySession.Proofs.Session.Acknowledged
import RegistrySession.Proofs.Session.Frame
import RegistrySession.Proofs.Wire.Settlement

/-!
# Calls that are refused

An error reaches a call in one of two ways.  Either the call itself is refused, by a check that it
does not pass, and then it leaves nothing behind but the note that says so.  Or its request fails,
and then the error is none of those with which calls are refused.  So the error alone tells whether
anything happened.
-/

namespace RegistrySession

namespace Error

/-- A call that returns this was not carried out. -/
def isRefusal : Error → Bool
  | .invalidIntent _ => true
  | .unsupported _ => true
  | .shutdown => true
  | _ => false

theorem isRefusal_eq_not (error : Error) :
    error.isRefusal = !(error.isRetryable || error.isNotFound) := by
  cases error <;> rfl

end Error

/-! ## Checks -/

/-- A check that fails with nothing but refusals. -/
def Refuses {α : Type} (check : Except Error α) : Prop :=
  ∀ error, check = .error error → error.isRefusal = true

namespace Refuses

theorem ok {α : Type} (value : α) : Refuses (.ok value) := fun _ => nofun

theorem error {α : Type} {error : Error} (h : error.isRefusal = true) :
    Refuses (.error error : Except Error α) := by
  rintro _ ⟨⟩
  exact h

/-- What comes after a check may only refuse as well. -/
theorem bind {α β : Type} {action : Except Error α} {f : α → Except Error β}
    (haction : Refuses action) (hf : ∀ value, Refuses (f value)) : Refuses (action >>= f) := by
  cases action with
  | error failure => exact .error (haction failure rfl)
  | ok value => exact hf value

theorem requireText (subject : Subject) (content : String) :
    Refuses (RegistrySession.requireText subject content) := by
  by_cases hblank : Text.isBlank content = true
  · rw [RegistrySession.requireText, if_pos hblank]
    exact .error rfl
  · rw [RegistrySession.requireText, if_neg hblank]
    exact .ok ()

theorem requirePort (port : UInt16) : Refuses (RegistrySession.requirePort port) := by
  by_cases hzero : port = 0
  · rw [RegistrySession.requirePort, if_pos hzero]
    exact .error rfl
  · rw [RegistrySession.requirePort, if_neg hzero]
    exact .ok ()

theorem validateCard (card : Agent.Card) : Refuses card.validate :=
  (requireText _ _).bind fun _ => (requireText _ _).bind fun _ => requireText _ _

theorem validateSummary (summary : Mcp.Summary) : Refuses summary.validate :=
  (requireText _ _).bind fun _ => requireText _ _

theorem validateAgentEndpoint (endpoint : Agent.Endpoint) : Refuses endpoint.validate :=
  (requireText _ _).bind fun _ => (requirePort _).bind fun _ => requireText _ _

theorem validateMcpEndpoint (endpoint : Mcp.Endpoint) : Refuses endpoint.validate := by
  refine (requireText _ _).bind fun _ => (requirePort _).bind fun _ => ?_
  cases endpoint.version with
  | none => exact .ok ()
  | some version => exact requireText _ _

theorem validateAgainst (first : String) (endpoints : List Agent.Endpoint) :
    Refuses (Agent.Registration.validateAgainst first endpoints) := by
  induction endpoints with
  | nil => exact .ok ()
  | cons endpoint rest ih =>
    refine (validateAgentEndpoint endpoint).bind fun _ => ?_
    by_cases hmixed : endpoint.version ≠ first
    · rw [if_pos hmixed]
      exact .error rfl
    · rw [if_neg hmixed]
      exact ih

/-- The checks of a registration only refuse. -/
theorem validateRegistration {kind : Kind} (registration : kind.Registration) :
    Refuses (kind.validate registration) := by
  cases kind with
  | mcp => exact validateMcpEndpoint registration
  | agent =>
    change Refuses (Agent.Registration.validate registration)
    cases hprimary : Agent.Registration.primary? registration with
    | none =>
      rw [Agent.Registration.validate, hprimary]
      exact .error rfl
    | some first =>
      rw [Agent.Registration.validate, hprimary]
      exact validateAgainst _ _

theorem requireRunning (session : Session) : Refuses session.requireRunning := by
  rw [Session.requireRunning]
  cases session.isShutdown with
  | true => exact .error rfl
  | false => exact .ok ()

theorem requireSupport (session : Session) (kind : Kind) :
    Refuses (session.requireSupport kind) := by
  by_cases hlacks : session.link.supportOf kind = .notSupported
  · rw [Session.requireSupport, if_pos hlacks]
    exact .error rfl
  · rw [Session.requireSupport, if_neg hlacks]
    exact .ok ()

/-- Whatever check a call does not pass, it is refused. -/
theorem check (session : Session) (call : Call) : Refuses (session.check call) := by
  have hrunning := requireRunning session
  have hname : ∀ name, Refuses (RegistrySession.requireText .resourceName name) :=
    requireText .resourceName
  cases call with
  | getAgent name version registrationType =>
    exact hrunning.bind fun _ => (hname name).bind fun _ => requireSupport session .agent
  | getMcp name version =>
    exact hrunning.bind fun _ => (hname name).bind fun _ => requireSupport session .mcp
  | releaseAgent card registrationType setAsLatest =>
    exact hrunning.bind fun _ => (validateCard card).bind fun _ => requireSupport session .agent
  | releaseMcp summary toolSpec route =>
    exact hrunning.bind fun _ => (validateSummary summary).bind fun _ => requireSupport session .mcp
  | register kind name registration =>
    exact hrunning.bind fun _ => (hname name).bind fun _ =>
      (validateRegistration registration).bind fun _ => requireSupport session kind
  | deregisterAgent name endpoint =>
    exact hrunning.bind fun _ => (hname name).bind fun _ =>
      (validateAgentEndpoint endpoint).bind fun _ => requireSupport session .agent
  | deregisterMcp name address port =>
    exact hrunning.bind fun _ => (hname name).bind fun _ =>
      (validateMcpEndpoint _).bind fun _ => requireSupport session .mcp
  | subscribe kind name version listener =>
    exact hrunning.bind fun _ => (hname name).bind fun _ => requireSupport session kind
  | unsubscribe kind name version listener => exact hname name
  | shutdown => exact .ok ()

end Refuses

/-- A request fails with none of the errors with which calls are refused. -/
theorem Demand.isRefusal_of_conclude {demand : Demand} {arrival : Arrival} {error : Error}
    (h : demand.conclude arrival = .failed error) : error.isRefusal = false := by
  have hremote {remote : RemoteError} (hfailed : demand.conclude arrival = .failed (.remote remote)) :
      error.isRefusal = false := by
    obtain rfl := Outcome.failed.inj (h.symm.trans hfailed)
    rfl
  rcases demand.conclude_cases arrival with ⟨response, rfl⟩ | ⟨remote, hfailed⟩ | hpanicked
  · by_cases hyields : ∃ answer, demand.Yields response answer
    · obtain ⟨answer, hyields⟩ := hyields
      exact absurd (h.symm.trans (conclude_of_yields hyields)) (by simp)
    · rcases conclude_of_not_yields fun answer h => hyields ⟨answer, h⟩ with
        ⟨reason, -, hmissing⟩ | ⟨-, remote, hfailed⟩
      · obtain rfl := Outcome.failed.inj (h.symm.trans hmissing)
        rfl
      · exact hremote hfailed
  · exact hremote hfailed
  · exact absurd (h.symm.trans hpanicked) (by simp)

/-! ## Errors -/

theorem Outcome.done_ne_failed {α : Type} (value : α) (error : Error) :
    Outcome.done value ≠ .failed error := nofun

def Note.error? (id : Nat) : Note → Option Error
  | .finished call (.failed error) => if call = id then some error else none
  | _ => none

namespace Session

/-- The errors that were given to the call of a number, the last one first. -/
def errors (session : Session) (id : Nat) : List Error :=
  session.journal.filterMap fun note => note.2.error? id

/-- A call is given an error. -/
def Gives (session next : Session) (id : Nat) (error : Error) : Prop :=
  ∃ fresh, next.errors id = fresh ++ session.errors id ∧ error ∈ fresh

/-- A call is given no error, and nothing is sent in its name. -/
structure Spares (id : Nat) (session next : Session) : Prop where
  errors : next.errors id = session.errors id
  flights : session.Adds (fun owner => owner ≠ .call id) next

/-- What a move comes to for the call of a number. -/
inductive Word (session : Session) (move : Move) (id : Nat) : Session → Prop
  | silent {next : Session} (hspares : session.Spares id next) : Word session move id next
  | refused (call : Call) (error : Error) (hmove : move = .call id call)
      (hrefusal : error.isRefusal = true) (hintent : ∀ kind, session.intent? kind move = none) :
      Word session move id (session.note (.finished id (.failed error)))
  | accepted {next : Session} (call : Call) (hmove : move = .call id call)
      (hcheck : session.check call = .ok ()) (herrors : next.errors id = session.errors id) :
      Word session move id next
  | answered {next : Session} (flight : Flight) (hflight : flight ∈ session.flights)
      (howner : flight.owner = .call id) (hflights : next.flights ⊆ session.flights)
      (herrors : next.errors id = session.errors id ∨
        ∃ error, next.errors id = error :: session.errors id ∧ error.isRefusal = false) :
      Word session move id next

theorem errors_note (session : Session) (note : Note) (id : Nat) :
    (session.note note).errors id = (note.error? id).toList ++ session.errors id := by
  rw [errors, Session.note, List.filterMap_cons]
  cases note.error? id <;> rfl

theorem errors_send (session : Session) (owner : Owner) (errand : Errand) (demand : Demand)
    (id : Nat) : (session.send owner errand demand).errors id = session.errors id :=
  errors_note _ (.sent _ owner _) id

theorem errors_refused (session : Session) (id : Nat) (error : Error) :
    (session.note (.finished id (.failed error))).errors id = error :: session.errors id := by
  rw [errors_note, Note.error?, if_pos rfl]
  rfl

theorem errors_conclude_of_ne (session : Session) (id : Nat) {result : Outcome Answer}
    (hresult : ∀ error, result ≠ .failed error) :
    (session.conclude (.call id) result).errors id = session.errors id := by
  cases result with
  | failed error => exact absurd rfl (hresult error)
  | done answer => exact errors_note session (.finished id (.done answer)) id
  | panicked => exact errors_note session (.finished id .panicked) id

section Spares

variable {session next last : Session} {id : Nat}

theorem Spares.refl (id : Nat) (session : Session) : session.Spares id session :=
  ⟨rfl, .of_subset fun _ hflight => hflight⟩

theorem Spares.trans (hfirst : session.Spares id next) (hsecond : next.Spares id last) :
    session.Spares id last :=
  ⟨hsecond.errors.trans hfirst.errors, hfirst.flights.trans hsecond.flights⟩

theorem Spares.of_eq (hflights : next.flights ⊆ session.flights)
    (hjournal : next.journal = session.journal) : session.Spares id next :=
  ⟨congrArg (List.filterMap _) hjournal, .of_subset hflights⟩

theorem Spares.note (session : Session) {note : Note} (hnote : note.error? id = none) :
    session.Spares id (session.note note) where
  errors := by
    rw [errors_note, hnote]
    rfl
  flights := .of_subset fun _ hflight => hflight

theorem Spares.concludeOther (session : Session) {owner : Owner} (howner : owner ≠ .call id)
    (outcome : Outcome Answer) : session.Spares id (session.conclude owner outcome) := by
  cases owner with
  | call other =>
    have hother : other ≠ id := fun h => howner (h ▸ rfl)
    cases outcome with
    | failed error => exact .note session (if_neg hother)
    | done answer => exact .note session rfl
    | panicked => exact .note session rfl
  | run pool task =>
    cases pool with
    | refresh kind => exact .of_eq (fun _ h => h) rfl
    | reconcile => exact .of_eq (fun _ h => h) rfl

/-- What others do is nothing to a call. -/
theorem frame_spares (id : Nat) : WideFrame (fun owner => owner ≠ .call id) (Spares id) where
  refl := .refl id
  trans := .trans
  delivered session _ _ := .note session rfl
  land _ flight arrival :=
    ⟨errors_note _ (.arrived flight arrival) id, .of_subset List.filter_sublist.subset⟩
  modifyLog _ _ _ := .of_eq (fun _ h => h) rfl
  setWatchlist _ _ _ _ := .of_eq (fun _ h => h) rfl
  setAnyWatchlist _ _ _ := .of_eq (fun _ h => h) rfl
  setReconciler _ _ := .of_eq (fun _ h => h) rfl
  send session owner howner errand demand :=
    ⟨session.errors_send owner errand demand id,
      (frame_adds fun owner => owner ≠ .call id).send session howner errand demand⟩
  conclude session _ howner outcome := .concludeOther session howner outcome

theorem spares_shutdown (id : Nat) (session : Session) : session.Spares id session.shutdown := by
  rcases session.shutdown_cases with ⟨-, heq⟩ | ⟨-, heq⟩
  · rw [heq]
    exact .refl id session
  · rw [heq]
    refine .of_eq ?_ rfl
    intro flight hflight
    exact (List.mem_filter.1 (List.mem_filter.1 (List.mem_filter.1 hflight).1).1).1

/-- Where no error is new, none was given. -/
theorem not_gives_of_errors_eq {error : Error} (herrors : next.errors id = session.errors id) :
    ¬ session.Gives next id error := by
  rintro ⟨fresh, hfresh, hmem⟩
  rw [herrors, ← List.nil_append (session.errors id)] at hfresh
  exact List.not_mem_nil (List.append_cancel_right hfresh ▸ hmem)

theorem eq_of_gives {error given : Error} (herrors : next.errors id = given :: session.errors id)
    (hgives : session.Gives next id error) : error = given := by
  obtain ⟨fresh, hfresh, hmem⟩ := hgives
  rw [herrors] at hfresh
  change [given] ++ session.errors id = fresh ++ session.errors id at hfresh
  exact List.mem_singleton.1 (List.append_cancel_right hfresh ▸ hmem)

end Spares

/-! ## What a call is told -/

section Words

variable {session next : Session} {id : Nat} {move : Move}

theorem errors_register (session : Session) (kind : Kind) (name : String)
    (registration : kind.Registration) :
    (session.register (.call id) kind name registration).errors id = session.errors id := by
  rcases session.register_cases (.call id) name registration with ⟨-, heq⟩ | ⟨-, heq⟩
  · rw [heq]
    exact errors_send _ _ _ _ id
  · rw [heq]
    exact errors_conclude_of_ne _ id (Outcome.done_ne_failed _)

theorem errors_deregister (session : Session) (kind : Kind) (name : String)
    (endpoint : kind.Endpoint) :
    (session.deregister (.call id) kind name endpoint).errors id = session.errors id := by
  cases hentry : (session.log kind).find? name with
  | none =>
    rw [session.deregister_of_absent _ endpoint hentry]
    exact errors_conclude_of_ne session id (Outcome.done_ne_failed _)
  | some entry =>
    rcases session.deregister_cases_of_find? (.call id) endpoint hentry with ⟨-, heq⟩ | ⟨-, heq⟩
    · rw [heq]
      exact errors_send _ _ _ _ id
    · rw [heq]
      exact errors_conclude_of_ne _ id (Outcome.done_ne_failed _)

/-- The pool of a kind refuses a subscription too, once it is shut down. -/
theorem word_subscribe (session : Session) (kind : Kind) (name : String)
    (version : Option String) (listener : Listener)
    (hcheck : session.check (.subscribe kind name version listener) = .ok ()) :
    session.Word (.call id (.subscribe kind name version listener)) id
      (session.subscribe (.call id) kind (.of name version) listener) := by
  rcases session.subscribe_cases (.call id) (.of name version) listener with
    ⟨-, heq⟩ | ⟨list, handle, -, ⟨record, -, heq⟩ | ⟨-, heq⟩⟩
  · rw [heq]
    refine .refused _ .shutdown rfl rfl fun other => ?_
    rw [intent?_of_check hcheck]
    cases other <;> rfl
  · have hlist : session.Spares id (session.setWatchlist kind list) := .of_eq (fun _ h => h) rfl
    obtain ⟨outcome, hcompleted, hfine⟩ :=
      (session.setWatchlist kind list).completeSubscription_eq_conclude (.call id) handle record
    have hdelivered := hlist.trans ((frame_spares id).deliverInitial _ kind handle record)
    refine .accepted _ rfl hcheck ?_
    rw [heq, hcompleted, errors_conclude_of_ne _ id hfine, hdelivered.errors]
  · refine .accepted _ rfl hcheck ?_
    rw [heq]
    exact errors_send _ _ _ _ id

/-- A call that passes its checks is accepted, or refused by a pool that is shut down. -/
theorem word_perform (session : Session) {call : Call} (hcheck : session.check call = .ok ()) :
    session.Word (.call id call) id (session.perform (.call id) call) := by
  cases call with
  | getAgent | getMcp | releaseAgent | releaseMcp =>
    exact .accepted _ rfl hcheck (errors_send _ _ _ _ id)
  | register kind name registration =>
    exact .accepted _ rfl hcheck (session.errors_register kind name registration)
  | deregisterAgent name endpoint =>
    exact .accepted _ rfl hcheck (session.errors_deregister .agent name endpoint)
  | deregisterMcp name address port =>
    exact .accepted _ rfl hcheck (session.errors_deregister .mcp name _)
  | subscribe kind name version listener =>
    exact session.word_subscribe kind name version listener hcheck
  | unsubscribe kind name version listener =>
    exact .accepted _ rfl hcheck (errors_conclude_of_ne _ id (Outcome.done_ne_failed _))
  | shutdown =>
    refine .accepted _ rfl hcheck ?_
    exact (errors_conclude_of_ne _ id (Outcome.done_ne_failed _)).trans
      (spares_shutdown id session).errors

theorem word_call (session : Session) (call : Call) :
    session.Word (.call id call) id (session.call id call) := by
  rcases session.call_cases id call with ⟨hcheck, heq⟩ | ⟨error, hcheck, heq⟩
  · rw [heq]
    exact session.word_perform hcheck
  · rw [heq]
    refine .refused call error rfl (Refuses.check session call error hcheck) fun kind => ?_
    rw [intent?, hcheck]

/-- A reply gives an error only to the call that waited for it. -/
theorem word_arrive (hsound : session.Sound) (flight : Nat) (arrival : Arrival) :
    session.Word move id (session.arrive flight arrival) := by
  have hframe := frame_spares id
  by_cases hown : ∃ found, session.flight? flight = some found ∧ found.owner = .call id
  · obtain ⟨found, hfound, howner⟩ := hown
    have hflight : found ∈ session.flights := List.mem_of_find?_eq_some hfound
    have hnotPass : ∀ task, found.owner ≠ .run .reconcile task :=
      fun task hpass => Owner.call_ne_run id .reconcile task (howner.symm.trans hpass)
    obtain ⟨before, result, heq, hresult, hbefore⟩ :=
      (session.land flight arrival).resume_eq_conclude (found.request.demand.conclude arrival)
        (hsound.errand_ne_reconcile hflight hnotPass)
    have hspares := (hframe.land session flight arrival).trans (hbefore _ _ hframe.toSteadyFrame)
    rw [arrive, hfound]
    simp only
    rw [heq, howner]
    have hnone : session.Adds (fun _ => False) before :=
      ((frame_adds _).land session flight arrival).trans (hbefore _ _ (frame_adds _).toSteadyFrame)
    refine .answered found hflight howner hnone.subset ?_
    by_cases hfailed : ∃ error, result = .failed error
    · obtain ⟨error, rfl⟩ := hfailed
      refine .inr ⟨error, ?_, Demand.isRefusal_of_conclude (hresult error rfl)⟩
      rw [conclude, errors_refused, hspares.errors]
    · rw [errors_conclude_of_ne before id fun error h => hfailed ⟨error, h⟩]
      exact .inl hspares.errors
  · exact .silent (hframe.arrive session flight arrival
      fun found hfound howner => hown ⟨found, hfound, howner⟩)

theorem word_call_of_ne (session : Session) {other : Nat} (hother : other ≠ id) (call : Call) :
    session.Spares id (session.call other call) := by
  have hframe := frame_spares id
  have howner : Owner.call other ≠ .call id := fun h => hother (Owner.call.inj h)
  rcases session.call_cases other call with ⟨-, heq⟩ | ⟨error, -, heq⟩
  · rw [heq]
    by_cases hcall : call = .shutdown
    · subst hcall
      exact (spares_shutdown id session).trans (hframe.conclude _ howner _)
    · exact hframe.perform howner session hcall
  · rw [heq]
    exact hframe.conclude session howner _

/-- Every step refuses a call, accepts it, answers it, or leaves it alone. -/
theorem Sound.word_step (hsound : session.Sound) (move : Move) (id : Nat) :
    session.Word move id (session.step move) := by
  have hframe := frame_spares id
  have hsame : session.Word move id session := .silent (.refl id session)
  cases move with
  | call other call =>
    by_cases hother : other = id
    · subst hother
      exact session.word_call call
    · exact .silent (session.word_call_of_ne hother call)
  | reply flight reply =>
    rcases session.reply_cases flight reply with heq | harrives
    · rwa [step, heq]
    · rw [step, harrives]
      exact word_arrive hsound flight _
  | expire flight =>
    rcases session.expire_cases flight with heq | harrives
    · rwa [step, heq]
    · rw [step, harrives]
      exact word_arrive hsound flight _
  | receive =>
    rcases session.receive_cases with heq | ⟨received, feed, -, -, htaken⟩
    · rwa [step, heq]
    · have hspares : session.Spares id
          { session with
            feed
            ledger := session.ledger.observeReceived received
            isWatching := received ≠ Received.closed } := .of_eq (fun _ h => h) rfl
      rw [step, htaken]
      exact .silent (hspares.trans (.note _ rfl))
  | wake pool task => exact .silent (hframe.wake session pool task)
  | start pool => exact .silent (hframe.start session pool fun task =>
      (Owner.call_ne_run id pool task).symm)
  | elapse | setRunning | setSupport | announce | closeFeed | reorder =>
    exact .silent (.of_eq (fun _ h => h) rfl)

end Words

/-- Every error with which a call is refused is given to it at once, whatever goes on besides, and
nothing happens in the step but that this is noted. -/
theorem refusal_leaves_no_trace (config : Config) (link : Link) (feed : Feed) (moves : List Move)
    (move : Move) (id : Nat) (error : Error) :
    let session := (ofConfig config link feed).run moves
    session.Gives (session.step move) id error → error.isRefusal = true →
      ∃ call, move = .call id call ∧
        session.step move = session.note (.finished id (.failed error)) := by
  intro session hgives hrefusal
  have hsound : session.Sound := (sound_ofConfig config link feed).run moves
  have hword := hsound.word_step move id
  generalize session.step move = next at *
  cases hword with
  | silent hspares => exact absurd hgives (not_gives_of_errors_eq hspares.errors)
  | accepted call hmove hcheck herrors => exact absurd hgives (not_gives_of_errors_eq herrors)
  | refused call given hmove hgiven hintent =>
    obtain rfl := eq_of_gives (session.errors_refused id given) hgives
    exact ⟨call, hmove, rfl⟩
  | answered flight hflight howner hflights herrors =>
    -- The error came with an answer, and no answer refuses a call.
    rcases herrors with hsame | ⟨failure, hnew, hfailure⟩
    · exact absurd hgives (not_gives_of_errors_eq hsame)
    · obtain rfl := eq_of_gives hnew hgives
      exact absurd (hrefusal.symm.trans hfailure) Bool.noConfusion

/-- A batch of endpoints of two versions, registered while another registration is under way. -/
theorem refusal_leaves_no_trace_mixed :
    let session := (opened true).run [registering 0 "svc-a"]
    let move : Move := .call 1 (.register .agent "svc-b"
      (Agent.Registration.batch [sampleEndpoint, { sampleEndpoint with version := "2.0" }]))
    let error : Error := .invalidIntent (.mixedVersions "1.0" "2.0")
    session.Gives (session.step move) 1 error ∧ error.isRefusal = true ∧
      ∃ call, move = .call 1 call ∧
        session.step move = session.note (.finished 1 (.failed error)) := by
  intro session move error
  have herrors : (session.step move).errors 1 = [error] ++ session.errors 1 := by decide +kernel
  have hgives : session.Gives (session.step move) 1 error :=
    ⟨[error], herrors, List.mem_singleton_self error⟩
  exact ⟨hgives, rfl, refusal_leaves_no_trace {} { isRunning := true } (.ofCapacity 16)
    [registering 0 "svc-a"] move 1 error hgives rfl⟩

end Session

end RegistrySession
