import RegistrySession.Proofs.Intent.History
import RegistrySession.Proofs.Intent.Tidings
import RegistrySession.Proofs.Session.Frame

/-!
# Disconnections that are missed

A session may take the events of its connection late, and some of them never.  Once it has taken all
that is held, it thinks of the connection what was sent last, and whatever either log had confirmed
before a disconnection is gone since, whether the disconnection itself was taken or lost.
-/

namespace RegistrySession

open Intent (Operation)

/-- What may happen to a session and, from elsewhere, to its logs. -/
inductive Act
  | move (move : Move)
  | operate (kind : Kind) (operation : Operation kind.Registration)

namespace Act

def sent : List Act → List SessionEvent
  | [] => []
  | .move (.announce event) :: acts => event :: sent acts
  | .move .closeFeed :: _ => []
  | _ :: acts => sent acts

end Act

namespace Session

def act (session : Session) : Act → Session
  | .move move => session.step move
  | .operate kind operation => session.modifyLog kind fun log => log.apply operation

def enact (session : Session) (acts : List Act) : Session :=
  acts.foldl act session

theorem enact_append (session : Session) (earlier later : List Act) :
    session.enact (earlier ++ later) = (session.enact earlier).enact later :=
  List.foldl_append

/-- What the session thinks of the connection once it has taken all that is held. -/
def outlook (session : Session) : Bool :=
  session.feed.outlook session.ledger.isConnected

/-! ## One act -/

/-- Nothing comes in, and nothing is taken. -/
structure Deaf (session next : Session) : Prop where
  feed : next.feed = session.feed
  isConnected : next.ledger.isConnected = session.ledger.isConnected

theorem Deaf.refl (session : Session) : session.Deaf session := ⟨rfl, rfl⟩

theorem Deaf.trans {session next last : Session} (hfirst : session.Deaf next)
    (hsecond : next.Deaf last) : session.Deaf last :=
  ⟨hsecond.feed.trans hfirst.feed, hsecond.isConnected.trans hfirst.isConnected⟩

theorem deaf_endRun (session : Session) (pool : PoolName) (task : Nat) :
    session.Deaf (session.endRun pool task) := by
  cases pool with
  | refresh kind => exact ⟨rfl, rfl⟩
  | reconcile => exact ⟨rfl, rfl⟩

theorem frame_deaf : WideFrame (fun _ => True) Deaf where
  refl := Deaf.refl
  trans := Deaf.trans
  delivered _ _ _ := ⟨rfl, rfl⟩
  land _ _ _ := ⟨rfl, rfl⟩
  modifyLog _ _ _ := ⟨rfl, rfl⟩
  setWatchlist _ _ _ _ := ⟨rfl, rfl⟩
  setAnyWatchlist _ _ _ := ⟨rfl, rfl⟩
  setReconciler _ _ := ⟨rfl, rfl⟩
  send _ _ _ _ _ := ⟨rfl, rfl⟩
  conclude session owner _ outcome := by
    cases owner with
    | call id => exact ⟨rfl, rfl⟩
    | run pool task => exact session.deaf_endRun pool task

/-- To shut down is not to read what the feed holds. -/
theorem deaf_shutdown (session : Session) : session.Deaf session.shutdown := by
  rcases session.shutdown_cases with ⟨-, heq⟩ | ⟨-, heq⟩
  · rw [heq]
    exact .refl session
  · rw [heq]
    exact ⟨rfl, rfl⟩

theorem deaf_perform (session : Session) (owner : Owner) (call : Call) :
    session.Deaf (session.perform owner call) := by
  by_cases hcall : call = .shutdown
  · subst hcall
    exact session.deaf_shutdown.trans (frame_deaf.conclude _ trivial _)
  · exact frame_deaf.perform trivial session hcall

/-- What an act means to the tidings of the connection. -/
inductive Tidings (session : Session) : Act → Session → Prop
  | nothing {act : Act} {next : Session} (hdeaf : session.Deaf next)
      (hact : ∀ acts, Act.sent (act :: acts) = Act.sent acts) : Tidings session act next
  | announce (event : SessionEvent) :
      Tidings session (.move (.announce event)) { session with feed := session.feed.send event }
  | close : Tidings session (.move .closeFeed) { session with feed := session.feed.close }
  | receive {next : Session} {received : Received}
      (hreceive : session.feed.receive? = some (received, next.feed))
      (hledger : next.ledger = session.ledger.observeReceived received) :
      Tidings session (.move .receive) next

/-- Only what is taken off the feed tells anything about the connection. -/
theorem tidings_step (session : Session) (move : Move) :
    session.Tidings (.move move) (session.step move) := by
  cases move with
  | announce event => exact .announce event
  | closeFeed => exact .close
  | receive =>
    rw [step]
    rcases session.receive_cases with hsame | ⟨received, feed, -, hreceive, htaken⟩
    · rw [hsame]
      exact .nothing (.refl session) fun _ => rfl
    · rw [htaken]
      exact .receive hreceive rfl
  | call id call =>
    refine .nothing ?_ fun _ => rfl
    rcases session.call_cases id call with ⟨-, heq⟩ | ⟨error, -, heq⟩
    · rw [step, heq]
      exact session.deaf_perform (.call id) call
    · rw [step, heq]
      exact frame_deaf.conclude session trivial _
  | reply id reply =>
    exact .nothing (frame_deaf.reply session id reply fun _ _ => trivial) fun _ => rfl
  | expire id =>
    exact .nothing (frame_deaf.expire session id fun _ _ => trivial) fun _ => rfl
  | wake pool task =>
    exact .nothing (frame_deaf.wake session pool task) fun _ => rfl
  | start pool => exact .nothing (frame_deaf.start session pool fun _ => trivial) fun _ => rfl
  | elapse | setRunning | setSupport | reorder => exact .nothing ⟨rfl, rfl⟩ fun _ => rfl

theorem tidings_act (session : Session) (act : Act) : session.Tidings act (session.act act) := by
  cases act with
  | move move => exact session.tidings_step move
  | operate kind operation => exact .nothing ⟨rfl, rfl⟩ fun _ => rfl

namespace Tidings

variable {session next : Session} {act : Act}

theorem roomy (htidings : session.Tidings act next) (hroomy : session.feed.Roomy) :
    next.feed.Roomy := by
  cases htidings with
  | nothing hdeaf => rwa [hdeaf.feed]
  | announce event => exact hroomy.send event
  | close => exact ⟨hroomy.capacity, hroomy.held⟩
  | receive hreceive => exact hroomy.receive hreceive

/-- A loss that is owed stays so, or nothing is confirmed any more. -/
theorem owesLoss (htidings : session.Tidings act next) (hroomy : session.feed.Roomy)
    (howes : session.feed.OwesLoss) : next.feed.OwesLoss ∨ next.ledger.IsFresh := by
  cases htidings with
  | nothing hdeaf => exact .inl (hdeaf.feed ▸ howes)
  | announce event => exact .inl (hroomy.owesLoss_send event howes)
  | close => exact .inl howes
  | receive hreceive hledger => exact hledger ▸ howes.receive hreceive session.ledger

/-- The feed stays open unless it is closed. -/
theorem isClosed (htidings : session.Tidings act next) (hact : act ≠ .move .closeFeed) :
    next.feed.isClosed = session.feed.isClosed := by
  cases htidings with
  | nothing hdeaf => rw [hdeaf.feed]
  | announce event => exact session.feed.isClosed_send event
  | close => exact absurd rfl hact
  | receive hreceive => exact Feed.isClosed_receive hreceive

end Tidings

/-! ## Runs -/

section Runs

variable {session : Session}

theorem roomy_enact (hroomy : session.feed.Roomy) (acts : List Act) :
    (session.enact acts).feed.Roomy := by
  induction acts generalizing session with
  | nil => exact hroomy
  | cons act acts ih => exact ih ((session.tidings_act act).roomy hroomy)

theorem isClosed_enact {acts : List Act} (hacts : .move .closeFeed ∉ acts) :
    (session.enact acts).feed.isClosed = session.feed.isClosed := by
  induction acts generalizing session with
  | nil => rfl
  | cons act acts ih =>
    rw [List.mem_cons, not_or] at hacts
    obtain ⟨hfirst, hrest⟩ := hacts
    exact (ih hrest).trans ((session.tidings_act act).isClosed (Ne.symm hfirst))

/-- Nothing that is sent on a closed feed changes what the session will think. -/
theorem outlook_enact_of_isClosed (hroomy : session.feed.Roomy)
    (hclosed : session.feed.isClosed = true) (acts : List Act) :
    (session.enact acts).outlook = session.outlook := by
  induction acts generalizing session with
  | nil => rfl
  | cons act acts ih =>
    have htidings := session.tidings_act act
    have hlater := @ih (session.act act) (htidings.roomy hroomy)
    change ((session.act act).enact acts).outlook = _
    generalize session.act act = next at *
    cases htidings with
    | nothing hdeaf =>
      rw [hlater (hdeaf.feed ▸ hclosed), outlook, hdeaf.feed, hdeaf.isConnected]
      rfl
    | announce event =>
      rw [Feed.send_of_isClosed hclosed] at hlater ⊢
      exact hlater hclosed
    | close => exact hlater rfl
    | receive hreceive hledger =>
      rw [hlater ((Feed.isClosed_receive hreceive).trans hclosed), outlook, hledger,
        hroomy.outlook_receive hreceive]
      rfl

/-- What the session will think of the connection is what was sent last. -/
theorem outlook_enact (hroomy : session.feed.Roomy) (hopen : session.feed.isClosed = false)
    (acts : List Act) :
    (session.enact acts).outlook =
      (Act.sent acts).getLast?.elim session.outlook fun event => event = .connected := by
  induction acts generalizing session with
  | nil => rfl
  | cons act acts ih =>
    have htidings := session.tidings_act act
    have hnext := htidings.roomy hroomy
    have hlater := @ih (session.act act) hnext
    change ((session.act act).enact acts).outlook = _
    generalize session.act act = next at *
    cases htidings with
    | nothing hdeaf hact =>
      rw [hlater (hdeaf.feed ▸ hopen), hact, outlook, hdeaf.feed, hdeaf.isConnected]
      rfl
    | announce event =>
      rw [hlater ((session.feed.isClosed_send event).trans hopen), Act.sent, List.getLast?_cons,
        outlook, hroomy.outlook_send hopen]
      cases (Act.sent acts).getLast? with
      | none => rfl
      | some last => rfl
    | close => exact outlook_enact_of_isClosed hnext rfl acts
    | receive hreceive hledger =>
      rw [hlater ((Feed.isClosed_receive hreceive).trans hopen), outlook, hledger,
        hroomy.outlook_receive hreceive]
      rfl

/-- A loss that the session has yet to take is taken before nothing is held any more. -/
theorem exists_isFresh (hroomy : session.feed.Roomy) (howes : session.feed.OwesLoss)
    {acts : List Act} (hheld : (session.enact acts).feed.held = []) :
    ∃ during later, acts = during ++ later ∧ (session.enact during).ledger.IsFresh := by
  induction acts generalizing session with
  | nil => exact absurd howes (hroomy.not_owesLoss hheld)
  | cons act acts ih =>
    have htidings := session.tidings_act act
    rcases htidings.owesLoss hroomy howes with hstill | hfresh
    · obtain ⟨during, later, rfl, hfresh⟩ := ih (htidings.roomy hroomy) hstill hheld
      exact ⟨act :: during, later, rfl, hfresh⟩
    · exact ⟨[act], acts, rfl, hfresh⟩

end Runs

/-- Once a session has taken all that is held, it counts as connected just if a connection was what
was sent last.  Since any disconnection that was sent, taken or lost, there was a moment at which
neither log had anything confirmed or a deregistration left to do. -/
theorem missed_events_harmless (config : Config) (link : Link) (capacity : Nat)
    (hcapacity : 0 < capacity) (acts : List Act) :
    let start := ofConfig config link (.ofCapacity capacity)
    (start.enact acts).feed.held = [] →
      (start.enact acts).ledger.isConnected =
        ((Act.sent acts).getLast?.elim link.isRunning fun event => event = .connected) ∧
      ∀ before after, acts = before ++ .move (.announce .disconnected) :: after →
        .move .closeFeed ∉ before →
          ∃ during later, after = during ++ later ∧
            (start.enact (before ++ .move (.announce .disconnected) :: during)).ledger.IsFresh := by
  intro start hheld
  have hroomy : start.feed.Roomy := Feed.roomy_ofCapacity hcapacity
  constructor
  · have houtlook := outlook_enact hroomy rfl acts
    rw [outlook, Feed.outlook, hheld] at houtlook
    exact houtlook
  · rintro before after rfl hopen
    have hbefore := roomy_enact hroomy before
    have hsent : ((start.enact before).step (.announce .disconnected)).feed.OwesLoss :=
      hbefore.owesLoss_disconnected (isClosed_enact hopen)
    rw [enact_append] at hheld
    obtain ⟨during, later, hafter, hfresh⟩ :=
      exists_isFresh (hbefore.send .disconnected) hsent hheld
    refine ⟨during, later, hafter, ?_⟩
    rw [enact_append]
    exact hfresh

/-- The feed holds one event, so that the disconnection is lost to the connection after it. -/
theorem missed_events_harmless_overrun :
    let start := ofConfig {} {} (.ofCapacity 1)
    let before : List Act :=
      [.operate .mcp (.intendRegister "weather" ⟨"10.0.0.1", 9000, none⟩),
        .operate .mcp (.confirmRegistered "weather" 0)]
    let after : List Act := [.move (.announce .connected), .move .receive, .move .receive]
    let session := start.enact (before ++ .move (.announce .disconnected) :: after)
    ((start.enact before).log .mcp).isRegistered "weather" = true ∧
      session.feed.held = [] ∧ session.ledger.isConnected = true ∧
      ∃ during later, after = during ++ later ∧
        (start.enact (before ++ .move (.announce .disconnected) :: during)).ledger.IsFresh := by
  intro start before after session
  have hheld : session.feed.held = [] := rfl
  obtain ⟨hconnected, hfresh⟩ :=
    missed_events_harmless {} {} 1 (by decide)
      (before ++ .move (.announce .disconnected) :: after) hheld
  exact ⟨by decide +kernel, hheld, hconnected, hfresh before after rfl (by simp [before])⟩

end Session

end RegistrySession
