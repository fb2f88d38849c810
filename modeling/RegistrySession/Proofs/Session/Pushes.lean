import RegistrySession.Session.Move

/-!
# Pushes in the journal

What a session pushed for a name since it last lost its connection, and which of that the server
is known to have applied, can be read off the journal.  Two things can go wrong with a push: it
strays if a pass sends it although the log wants something else by now, and it overtakes an earlier
push if that is acknowledged only afterwards.
-/

namespace RegistrySession

/-- An endpoint request for a name, be it a registration or a withdrawal. -/
def Demand.concerns (kind : Kind) (name : String) : Demand → Bool
  | .register other target _ => other = kind && target = name
  | .withdraw other target _ => other = kind && target = name
  | _ => false

theorem Demand.concerns_register (kind : Kind) (name : String)
    (registration : kind.Registration) :
    (Demand.register kind name registration).concerns kind name = true := by
  simp [concerns]

theorem Demand.concerns_withdraw (kind : Kind) (name : String) (endpoint : kind.Endpoint) :
    (Demand.withdraw kind name endpoint).concerns kind name = true := by
  simp [concerns]

/-- Only endpoint requests concern a name. -/
theorem Demand.concerns_iff {kind : Kind} {name : String} {demand : Demand} :
    demand.concerns kind name = true ↔
      (∃ registration, demand = .register kind name registration) ∨
        ∃ endpoint, demand = .withdraw kind name endpoint := by
  constructor
  · intro h
    cases demand with
    | register other target registration =>
      obtain ⟨rfl, rfl⟩ : other = kind ∧ target = name := by simpa [concerns] using h
      exact .inl ⟨registration, rfl⟩
    | withdraw other target endpoint =>
      obtain ⟨rfl, rfl⟩ : other = kind ∧ target = name := by simpa [concerns] using h
      exact .inr ⟨endpoint, rfl⟩
    | _ => simp [concerns] at h
  · rintro (⟨registration, rfl⟩ | ⟨endpoint, rfl⟩)
    · exact concerns_register kind name registration
    · exact concerns_withdraw kind name endpoint

def Demand.isRegistration : Demand → Bool
  | .register .. => true
  | _ => false

/-- The connection is lost, or was possibly lost unnoticed. -/
def Received.isLoss : Received → Bool
  | .event .disconnected => true
  | .lagged => true
  | _ => false

namespace Note

def isLoss : Note → Bool
  | .observed received => received.isLoss
  | _ => false

def acknowledges (flight : Nat) : Note → Bool
  | .arrived other (.reply (.response .acknowledged)) => other = flight
  | _ => false

theorem acknowledges_iff {flight : Nat} {note : Note} :
    note.acknowledges flight = true ↔ note = .arrived flight .acknowledgement := by
  constructor
  · intro h
    cases note with
    | arrived other arrival =>
      cases arrival with
      | expired span => exact absurd h Bool.false_ne_true
      | reply reply =>
        cases reply with
        | failure | breakdown => exact absurd h Bool.false_ne_true
        | response response =>
          cases response with
          | record | released | failed => exact absurd h Bool.false_ne_true
          | acknowledged =>
            rw [of_decide_eq_true h]
            rfl
    | _ => exact absurd h Bool.false_ne_true
  · rintro rfl
    simp [acknowledges, Arrival.acknowledgement]

end Note

/-- Two requests of a row of notes, the newest first: the one of that number was sent while an
earlier one, with a demand as described, was on its way to be acknowledged. -/
def Overtook (notes : List Note) (flight : Nat) (overtaken : Demand → Prop) : Prop :=
  ∃ later owner request earlier, notes = later ++ .sent flight owner request :: earlier ∧
    ∃ other otherOwner otherRequest, .sent other otherOwner otherRequest ∈ earlier ∧
      overtaken otherRequest.demand ∧ .arrived other .acknowledgement ∈ later

namespace Session

/-- What went on since the session last took a loss of connection off its feed, the newest
first. -/
def recent (session : Session) : List Note :=
  (session.journal.map Prod.snd).takeWhile fun note => !note.isLoss

def sinceLoss (session : Session) : List (Nat × Note) :=
  session.journal.takeWhile fun note => !note.2.isLoss

def isAcknowledged (session : Session) (flight : Nat) : Bool :=
  session.recent.any (Note.acknowledges flight)

/-- Of the recent endpoint requests for a name whose acknowledgement came, the one sent last. -/
def lastAcknowledged? (session : Session) (kind : Kind) (name : String) : Option (Nat × Demand) :=
  session.recent.findSome? fun
    | .sent flight _ request =>
      if request.demand.concerns kind name && session.isAcknowledged flight then
        some (flight, request.demand)
      else none
    | _ => none

/-- The log calls for what a request does. -/
def wants (session : Session) : Demand → Bool
  | .register kind name registration =>
    ((session.log kind).find? name).any fun entry =>
      entry.isExpected && entry.desired = registration
  | .withdraw kind name _ => ((session.log kind).find? name).any fun entry => !entry.isExpected
  | _ => true

/-- No endpoint request for a name is on its way, and no event waits to be taken. -/
def isQuiet (session : Session) (kind : Kind) (name : String) : Bool :=
  session.flights.all (fun flight => !flight.request.demand.concerns kind name) &&
    session.feed.held.isEmpty && !session.feed.hasLost

/-- A request strays if a pass of the reconciler sends it although the log does not want it at
that moment.  A step sends at most one request, as the last thing it does. -/
def Strays (session : Session) (moves : List Move) (flight : Nat) : Prop :=
  ∃ earlier move later, moves = earlier ++ move :: later ∧
    ∃ sent ∈ ((session.run earlier).step move).flights,
      sent.id = flight ∧ (session.run earlier).nextFlight ≤ flight ∧
        (∃ task, sent.owner = .run .reconcile task) ∧
          ((session.run earlier).step move).wants sent.request.demand = false

/-- A registration is wanted while an entry expects it. -/
theorem wants_register_iff {session : Session} {kind : Kind} {name : String}
    {registration : kind.Registration} :
    session.wants (.register kind name registration) = true ↔
      ∃ entry, (session.log kind).find? name = some entry ∧ entry.isExpected = true ∧
        entry.desired = registration := by
  simp only [wants, Option.any_eq_true, Bool.and_eq_true, decide_eq_true_eq]

/-- A withdrawal is wanted while an entry expects nothing. -/
theorem wants_withdraw_iff {session : Session} {kind : Kind} {name : String}
    {endpoint : kind.Endpoint} :
    session.wants (.withdraw kind name endpoint) = true ↔
      ∃ entry, (session.log kind).find? name = some entry ∧ entry.isExpected = false := by
  simp only [wants, Option.any_eq_true, Bool.not_eq_true']

/-- A loss makes all notes before it old. -/
theorem recent_note (session : Session) (note : Note) :
    (session.note note).recent = if note.isLoss then [] else note :: session.recent := by
  simp only [recent, Session.note, List.map_cons, List.takeWhile_cons]
  cases note.isLoss <;> rfl

theorem recent_eq_map (session : Session) : session.recent = session.sinceLoss.map Prod.snd := by
  rw [recent, sinceLoss, List.takeWhile_map]
  rfl

theorem sinceLoss_note (session : Session) (note : Note) :
    (session.note note).sinceLoss =
      if note.isLoss then [] else (session.now, note) :: session.sinceLoss := by
  simp only [sinceLoss, Session.note, List.takeWhile_cons]
  cases note.isLoss <;> rfl

theorem sinceLoss_send (session : Session) (owner : Owner) (errand : Errand) (demand : Demand) :
    (session.send owner errand demand).sinceLoss =
      (session.now, .sent session.nextFlight owner { space := session.space, demand }) ::
        session.sinceLoss :=
  sinceLoss_note _ _

theorem recent_send (session : Session) (owner : Owner) (errand : Errand) (demand : Demand) :
    (session.send owner errand demand).recent =
      .sent session.nextFlight owner { space := session.space, demand } :: session.recent :=
  recent_note _ _

theorem isAcknowledged_iff {session : Session} {flight : Nat} :
    session.isAcknowledged flight = true ↔
      .arrived flight .acknowledgement ∈ session.recent := by
  simp only [isAcknowledged, List.any_eq_true, Note.acknowledges_iff, exists_eq_right]

theorem run_append (session : Session) (earlier later : List Move) :
    session.run (earlier ++ later) = (session.run earlier).run later := by
  simp only [run, List.foldl_append]

theorem run_snoc (session : Session) (moves : List Move) (move : Move) :
    session.run (moves ++ [move]) = (session.run moves).step move := by
  rw [run_append]
  rfl

theorem Strays.mono {session : Session} {moves : List Move} {flight : Nat}
    (h : session.Strays moves flight) (move : Move) :
    session.Strays (moves ++ [move]) flight := by
  obtain ⟨earlier, stray, later, rfl, hsent⟩ := h
  exact ⟨earlier, stray, later ++ [move], by simp, hsent⟩

/-- The request that was acknowledged last splits the recent notes: nothing that was sent after it
for the name was acknowledged. -/
theorem exists_of_lastAcknowledged? {session : Session} {kind : Kind} {name : String}
    {flight : Nat} {demand : Demand}
    (h : session.lastAcknowledged? kind name = some (flight, demand)) :
    ∃ later owner request earlier,
      session.recent = later ++ .sent flight owner request :: earlier ∧
        request.demand = demand ∧ demand.concerns kind name = true ∧
        .arrived flight .acknowledgement ∈ session.recent ∧
        ∀ other otherOwner otherRequest, .sent other otherOwner otherRequest ∈ later →
          otherRequest.demand.concerns kind name = true →
          .arrived other .acknowledgement ∉ session.recent := by
  obtain ⟨later, note, earlier, hsplit, hnote, hlater⟩ := List.findSome?_eq_some_iff.1 h
  cases note with
  | sent found owner request =>
    obtain ⟨hguard, hsent⟩ := Option.ite_none_right_eq_some.1 hnote
    obtain ⟨hconcerned, hacknowledged⟩ := Bool.and_eq_true_iff.1 hguard
    obtain ⟨rfl, rfl⟩ := Prod.mk.inj (Option.some.inj hsent)
    refine ⟨later, owner, request, earlier, hsplit, rfl, hconcerned,
      isAcknowledged_iff.1 hacknowledged, ?_⟩
    intro other otherOwner otherRequest hmem hconcerns harrived
    have hskipped := hlater _ hmem
    simp only at hskipped
    rw [hconcerns, isAcknowledged_iff.2 harrived] at hskipped
    simp at hskipped
  | _ => simp at hnote

/-- Once a request for a name was acknowledged, one of them was acknowledged last. -/
theorem exists_lastAcknowledged? {session : Session} {kind : Kind} {name : String}
    {flight : Nat} {owner : Owner} {request : Request}
    (hsent : .sent flight owner request ∈ session.recent)
    (hconcerns : request.demand.concerns kind name = true)
    (harrived : .arrived flight .acknowledgement ∈ session.recent) :
    ∃ last demand, session.lastAcknowledged? kind name = some (last, demand) := by
  cases hlast : session.lastAcknowledged? kind name with
  | some found => exact ⟨found.1, found.2, rfl⟩
  | none =>
    have hskipped := List.findSome?_eq_none_iff.1 hlast _ hsent
    simp only at hskipped
    rw [hconcerns, isAcknowledged_iff.2 harrived] at hskipped
    simp at hskipped

end Session

end RegistrySession
