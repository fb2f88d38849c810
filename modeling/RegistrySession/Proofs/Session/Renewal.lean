import RegistrySession.Proofs.Session.Watching

/-!
# Credentials that are renewed

A reply that denies permission does not end a call or a run: the credentials are renewed first, and
that may take any time, since the timeout is for the reply alone.  Until then the flight is neither
answered again nor given up, and a run keeps its worker.  Where the credentials are renewed at once,
a session goes on as if the reply had ended the wait.
-/

namespace RegistrySession.Session

/-- A session with the flights that were denied permission, each with the reply that it goes on with
once the credentials are new. -/
structure Renewal where
  session : Session
  denied : List (Nat × Reply) := []

namespace Renewal

inductive Act
  | access (access : Access)
  /-- The credentials that a flight waits for are new. -/
  | renew (flight : Nat)

def reply? (renewal : Renewal) (id : Nat) : Option Reply :=
  (renewal.denied.find? fun denial => denial.1 = id).map Prod.snd

def isDenied (renewal : Renewal) (id : Nat) : Bool :=
  (renewal.reply? id).isSome

/-- A reply that comes in time and denies permission is held back. -/
def isHeldBack (session : Session) (id : Nat) (reply : Reply) : Bool :=
  (Arrival.reply reply).deniesPermission &&
    (session.flight? id).any fun flight => session.now ≤ flight.deadline

/-- Ends the wait of a flight for its credentials. -/
def renew (renewal : Renewal) (id : Nat) : Renewal :=
  match renewal.reply? id with
  | some reply =>
    { session := renewal.session.arrive id (.reply reply)
      denied := renewal.denied.filter fun denial => denial.1 ≠ id }
  | none => renewal

def act (renewal : Renewal) : Act → Renewal
  | .access (.move (.reply id reply)) =>
    if renewal.isDenied id then renewal
    else if isHeldBack renewal.session id reply then
      { renewal with denied := (id, reply) :: renewal.denied }
    else { renewal with session := renewal.session.reply id reply }
  | .access (.move (.expire id)) =>
    if renewal.isDenied id then renewal
    else { renewal with session := renewal.session.expire id }
  | .access access => { renewal with session := renewal.session.access access }
  | .renew id => renewal.renew id

def follow (renewal : Renewal) (acts : List Act) : Renewal :=
  acts.foldl act renewal

/-- A property of every state of a run. -/
def always (p : Renewal → Bool) (renewal : Renewal) : List Act → Bool
  | [] => p renewal
  | act :: acts => p renewal && (renewal.act act).always p acts

theorem follow_append (renewal : Renewal) (earlier later : List Act) :
    renewal.follow (earlier ++ later) = (renewal.follow earlier).follow later :=
  List.foldl_append

theorem follow_snoc (renewal : Renewal) (acts : List Act) (act : Act) :
    renewal.follow (acts ++ [act]) = (renewal.follow acts).act act :=
  renewal.follow_append acts [act]

theorem always_snoc (p : Renewal → Bool) (renewal : Renewal) (acts : List Act) (act : Act) :
    renewal.always p (acts ++ [act]) =
      (renewal.always p acts && p (renewal.follow (acts ++ [act]))) := by
  induction acts generalizing renewal with
  | nil => rfl
  | cons first acts ih =>
    rw [List.cons_append, always, ih, always, Bool.and_assoc]
    rfl

/-! ## Credentials that are renewed at once -/

/-- The acts of an access after which nothing waits for credentials. -/
def prompt (session : Session) : Access → List Act
  | .move (.reply id reply) =>
    if isHeldBack session id reply then [.access (.move (.reply id reply)), .renew id]
    else [.access (.move (.reply id reply))]
  | access => [.access access]

/-- What is held back would have counted as a reply. -/
theorem reply_of_isHeldBack {session : Session} {id : Nat} {reply : Reply}
    (h : isHeldBack session id reply = true) :
    session.reply id reply = session.arrive id (.reply reply) := by
  obtain ⟨flight, hflight, hdue⟩ := (Option.any_eq_true _ _).1 ((Bool.and_eq_true _ _).mp h).2
  rw [Session.reply, hflight]
  exact if_pos (of_decide_eq_true hdue)

/-- Where credentials come at once, nothing waits. -/
theorem follow_prompt (session : Session) (access : Access) :
    follow { session } (prompt session access) = { session := session.access access } := by
  cases access with
  | move move =>
    cases move with
    | reply id reply =>
      cases hheld : isHeldBack session id reply with
      | false => simp [prompt, hheld, follow, act, isDenied, reply?, Session.access, step]
      | true =>
        simp [prompt, hheld, follow, act, isDenied, reply?, renew, Session.access, step,
          reply_of_isHeldBack hheld]
    | _ => rfl
  | _ => rfl

/-- Every run of a session is one in which the credentials are renewed at once. -/
theorem exists_follow_eq (session : Session) (accesses : List Access) :
    ∃ acts, follow { session } acts = { session := session.follow accesses } := by
  induction accesses generalizing session with
  | nil => exact ⟨[], rfl⟩
  | cons access accesses ih =>
    obtain ⟨acts, hacts⟩ := ih (session.access access)
    refine ⟨prompt session access ++ acts, ?_⟩
    rw [follow_append, follow_prompt, hacts]
    rfl

/-! ## What holds along every run -/

/-- The state is sound, and what is held back denies permission. -/
structure Sound (renewal : Renewal) : Prop where
  session : renewal.session.Sound
  denied : ∀ denial ∈ renewal.denied, (Arrival.reply denial.2).deniesPermission = true

variable {renewal : Renewal}

theorem mem_denied_of_reply? {id : Nat} {reply : Reply} (h : renewal.reply? id = some reply) :
    (id, reply) ∈ renewal.denied := by
  obtain ⟨denial, hdenial, rfl⟩ := Option.map_eq_some_iff.1 h
  obtain rfl : denial.1 = id := by simpa using List.find?_some hdenial
  exact List.mem_of_find?_eq_some hdenial

/-- A denial confirms nothing. -/
theorem sound_arrive {session : Session} (hsound : session.Sound) (id : Nat) {arrival : Arrival}
    (hdenies : arrival.deniesPermission = true) : (session.arrive id arrival).Sound := by
  have hcourse : session.Course (.expire id) (session.arrive id arrival) :=
    arrive_course hsound (fun _ => rfl) fun _ _ hconfirms => by
      rw [hconfirms] at hdenies
      exact absurd hdenies Bool.false_ne_true
  obtain ⟨middle, honset, hsequel⟩ := hcourse
  exact (Progress.change honset.change hsequel.progress).sound hsound

/-- What an act makes of the session is an access, or the end of a wait for credentials. -/
inductive Deed (renewal : Renewal) : Act → Renewal → Prop
  | rest (act : Act) : Deed renewal act renewal
  | access (access : Access) :
      Deed renewal (.access access) { renewal with session := renewal.session.access access }
  | hold (id : Nat) (reply : Reply) (hdenies : (Arrival.reply reply).deniesPermission = true) :
      Deed renewal (.access (.move (.reply id reply)))
        { renewal with denied := (id, reply) :: renewal.denied }
  | renew (id : Nat) (reply : Reply) (hdenied : (id, reply) ∈ renewal.denied) :
      Deed renewal (.renew id)
        { session := renewal.session.arrive id (.reply reply)
          denied := renewal.denied.filter fun denial => denial.1 ≠ id }

theorem deed_act (renewal : Renewal) (act : Act) : renewal.Deed act (renewal.act act) := by
  cases act with
  | access access =>
    cases access with
    | move move =>
      cases move with
      | reply id reply =>
        cases hdenied : renewal.isDenied id with
        | true =>
          simp only [Renewal.act, hdenied, if_true]
          exact .rest _
        | false =>
          cases hheld : isHeldBack renewal.session id reply with
          | true =>
            simp only [Renewal.act, hdenied, hheld, Bool.false_eq_true, if_false, if_true]
            exact .hold id reply ((Bool.and_eq_true _ _).mp hheld).1
          | false =>
            simp only [Renewal.act, hdenied, hheld, Bool.false_eq_true, if_false]
            exact .access (.move (.reply id reply))
      | expire id =>
        cases hdenied : renewal.isDenied id with
        | true =>
          simp only [Renewal.act, hdenied, if_true]
          exact .rest _
        | false =>
          simp only [Renewal.act, hdenied, Bool.false_eq_true, if_false]
          exact .access (.move (.expire id))
      | _ => exact .access _
    | _ => exact .access _
  | renew id =>
    cases hreply : renewal.reply? id with
    | none =>
      simp only [Renewal.act, Renewal.renew, hreply]
      exact .rest _
    | some reply =>
      simp only [Renewal.act, Renewal.renew, hreply]
      exact .renew id reply (mem_denied_of_reply? hreply)

theorem Sound.act (hsound : renewal.Sound) (act : Act) : (renewal.act act).Sound := by
  have hdeed := renewal.deed_act act
  generalize renewal.act act = next at hdeed
  cases hdeed with
  | rest => exact hsound
  | access access => exact ⟨hsound.session.access access, hsound.denied⟩
  | hold id reply hdenies =>
    refine ⟨hsound.session, fun denial hdenial => ?_⟩
    rcases List.mem_cons.1 hdenial with rfl | hold
    · exact hdenies
    · exact hsound.denied denial hold
  | renew id reply hdenied =>
    exact ⟨sound_arrive hsound.session id (hsound.denied _ hdenied),
      fun denial hdenial => hsound.denied denial (List.mem_of_mem_filter hdenial)⟩

/-- Only replies that deny permission are held back, whatever is done. -/
theorem Sound.follow (hsound : renewal.Sound) (acts : List Act) : (renewal.follow acts).Sound := by
  induction acts using List.reverseRecOn with
  | nil => exact hsound
  | append_singleton acts act ih =>
    rw [follow_snoc]
    exact ih.act act

/-- Everything but the passing of time is a row of turns. -/
theorem act_turns (hsound : renewal.Sound) (kind : Kind) {act : Act}
    (hact : ∀ span, act ≠ .access (.move (.elapse span))) :
    Turns kind renewal.session (renewal.act act).session := by
  have hdeed := renewal.deed_act act
  generalize renewal.act act = next at hdeed
  cases hdeed with
  | rest => exact .refl kind renewal.session
  | access access =>
    exact access_turns hsound.session kind fun span h => hact span (congrArg Act.access h)
  | hold id reply hdenies => exact .refl kind renewal.session
  | renew id reply hdenied => exact arrive_turns hsound.session id _

end Renewal

end RegistrySession.Session
