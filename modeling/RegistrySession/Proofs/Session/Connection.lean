import RegistrySession.Proofs.Session.Disconnection
import RegistrySession.Proofs.Session.Pushes

/-!
# The connection along a run

A session is online while both the events taken off the feed and the transport say so.  Neither
changes but by the moves that are there for it: the first is what was taken last, the second what
the transport reported last, and so is what the server says about a feature.
-/

namespace RegistrySession

/-- What the session makes of something taken off the feed. -/
def Received.connects? : Received → Option Bool
  | .event .connected => some true
  | .event .disconnected => some false
  | .lagged => some false
  | .closed => none

/-- Whether the transport goes on running, if the move is about that. -/
def Move.running? : Move → Option Bool
  | .setRunning isRunning => some isRunning
  | _ => none

/-- What the server says about the feature of a kind, if the move is about that. -/
def Move.support? (kind : Kind) : Move → Option Support
  | .setSupport other support => if other = kind then some support else none
  | _ => none

def Link.after (link : Link) : Move → Link
  | .setRunning isRunning => { link with isRunning }
  | .setSupport kind support => { link with support := link.support.set kind support }
  | _ => link

theorem Link.isRunning_after (link : Link) (move : Move) :
    (link.after move).isRunning = move.running?.getD link.isRunning := by
  cases move <;> rfl

theorem Link.support_after (link : Link) (move : Move) (kind : Kind) :
    (link.after move).support.get kind = (move.support? kind).getD (link.support.get kind) := by
  cases move with
  | setSupport other support =>
    rw [Link.after, Move.support?]
    by_cases hkind : other = kind
    · subst hkind
      rw [if_pos rfl, PerKind.get_set_self]
      rfl
    · rw [if_neg hkind, PerKind.get_set_of_ne _ _ (Ne.symm hkind)]
      rfl
  | _ => rfl

namespace Session

variable {session : Session}

def takes? (session : Session) : Move → Option Received
  | .receive => if session.isWatching then session.feed.receive?.map Prod.fst else none
  | _ => none

/-- What the session takes of its connection in a run: that it stands, or that it does not. -/
def reports (session : Session) : List Move → List Bool
  | [] => []
  | move :: moves =>
    ((session.takes? move).bind Received.connects?).toList ++ (session.step move).reports moves

theorem reports_append (session : Session) (earlier later : List Move) :
    session.reports (earlier ++ later) =
      session.reports earlier ++ (session.run earlier).reports later := by
  induction earlier generalizing session with
  | nil => rfl
  | cons move earlier ih =>
    rw [List.cons_append, reports, reports, ih, List.append_assoc]
    rfl

theorem reports_snoc (session : Session) (moves : List Move) (move : Move) :
    session.reports (moves ++ [move]) =
      session.reports moves ++
        (((session.run moves).takes? move).bind Received.connects?).toList := by
  rw [reports_append, reports, reports, List.append_nil]

/-! ## One move -/

theorem frame_link : WideFrame (fun _ => True) (fun session next => next.link = session.link) where
  refl _ := rfl
  trans hfirst hsecond := hsecond.trans hfirst
  delivered _ _ _ := rfl
  land _ _ _ := rfl
  modifyLog _ _ _ := rfl
  setWatchlist _ _ _ _ := rfl
  setAnyWatchlist _ _ _ := rfl
  setReconciler _ _ := rfl
  send _ _ _ _ _ := rfl
  conclude session owner _ outcome := by
    rcases owner with id | ⟨_ | _, task⟩ <;> rfl

theorem link_shutdown (session : Session) : session.shutdown.link = session.link := by
  rcases session.shutdown_cases with ⟨-, heq⟩ | ⟨-, heq⟩
  · rw [heq]
  · rw [heq]
    rfl

/-- Only the moves about the link change it. -/
theorem link_step (session : Session) (move : Move) :
    (session.step move).link = session.link.after move := by
  cases move with
  | call id call =>
    rw [step, Session.call]
    cases session.check call with
    | error error => rfl
    | ok _ =>
      by_cases hcall : call = .shutdown
      · subst hcall
        exact session.link_shutdown
      · exact frame_link.perform trivial session hcall
  | reply id reply => exact frame_link.reply session id reply fun _ _ => trivial
  | expire id => exact frame_link.expire session id fun _ _ => trivial
  | receive =>
    rw [step]
    rcases session.receive_cases with hsame | ⟨received, feed, -, -, htaken⟩
    · rw [hsame]
      rfl
    · rw [htaken]
      rfl
  | wake pool task => exact frame_link.wake session pool task
  | start pool => exact frame_link.start session pool fun _ => trivial
  | elapse | setRunning | setSupport | announce | closeFeed | reorder => rfl

/-- Only what is taken off the feed changes what the session thinks. -/
theorem isConnected_step (session : Session) (move : Move) :
    (session.step move).ledger.isConnected =
      ((session.takes? move).bind Received.connects?).getD session.ledger.isConnected := by
  by_cases hmove : move = .receive
  · subst hmove
    rw [step, receive, takes?]
    cases session.isWatching with
    | false => rfl
    | true =>
      cases hreceive : session.feed.receive? with
      | none => rfl
      | some taken =>
        obtain ⟨received, feed⟩ := taken
        rcases received with ⟨_ | _⟩ | _ | _ <;> rfl
  · have htakes : session.takes? move = none := by
      cases move with
      | receive => exact absurd rfl hmove
      | _ => rfl
    rw [htakes]
    have htidings := session.tidings_step move
    generalize session.step move = next at htidings
    cases htidings with
    | nothing hdeaf => exact hdeaf.isConnected
    | announce event => rfl
    | close => rfl
    | receive => exact absurd rfl hmove

/-! ## Runs -/

/-- The transport runs or not, as was said last. -/
theorem isRunning_run (session : Session) (moves : List Move) :
    (session.run moves).link.isRunning =
      (moves.filterMap Move.running?).getLast?.getD session.link.isRunning := by
  induction moves using List.reverseRecOn with
  | nil => rfl
  | append_singleton moves move ih =>
    rw [run_snoc, link_step, Link.isRunning_after, ih, List.filterMap_append, List.getLast?_append]
    cases hrunning : move.running? with
    | none => simp [hrunning]
    | some isRunning => simp [hrunning]

theorem support_run (session : Session) (moves : List Move) (kind : Kind) :
    (session.run moves).link.support.get kind =
      (moves.filterMap (Move.support? kind)).getLast?.getD (session.link.support.get kind) := by
  induction moves using List.reverseRecOn with
  | nil => rfl
  | append_singleton moves move ih =>
    rw [run_snoc, link_step, Link.support_after, ih, List.filterMap_append, List.getLast?_append]
    cases hsupport : move.support? kind with
    | none => simp [hsupport]
    | some support => simp [hsupport]

/-- A session thinks of its connection what it was told last. -/
theorem isConnected_run (session : Session) (moves : List Move) :
    (session.run moves).ledger.isConnected =
      (session.reports moves).getLast?.getD session.ledger.isConnected := by
  induction moves using List.reverseRecOn with
  | nil => rfl
  | append_singleton moves move ih =>
    rw [run_snoc, isConnected_step, ih, reports_snoc, List.getLast?_append]
    cases ((session.run moves).takes? move).bind Received.connects? with
    | none => simp
    | some isConnected => simp

/-- A session that was online still is just if nothing it took, and nothing the transport reported,
said otherwise last. -/
theorem isOnline_run_iff (honline : session.isOnline = true) (moves : List Move) :
    (session.run moves).isOnline = true ↔
      (session.reports moves).getLast? ≠ some false ∧
        (moves.filterMap Move.running?).getLast? ≠ some false := by
  obtain ⟨hconnected, hrunning⟩ := (Bool.and_eq_true _ _).mp honline
  have hlast : ∀ last : Option Bool, last.getD true = true ↔ last ≠ some false := by
    rintro (_ | _ | _) <;> decide
  rw [isOnline, Bool.and_eq_true, isConnected_run, isRunning_run, hconnected, hrunning, hlast,
    hlast]

end Session

end RegistrySession
