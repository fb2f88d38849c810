import RegistrySession.Proofs.Session.Progress

/-!
# What the application wishes along a run

The log of a session wants under each name what a call wished for it last, whatever passes,
replies and losses of connection came in between.
-/

namespace RegistrySession

namespace Intent

variable {π : Type}

/-- A wish is told from the others by the registration that it asks for, if any. -/
theorem Wish.registration?_inj {wish other : Wish π} :
    wish.registration? = other.registration? ↔ wish = other := by
  cases wish <;> cases other <;> simp [Wish.registration?]

/-- The wish that an entry stands for. -/
def Entry.wish (entry : Entry π) : Wish π :=
  if entry.isExpected then .register entry.desired else .deregister

theorem Entry.registration?_wish_of_isExpected {entry : Entry π} (h : entry.isExpected = true) :
    entry.wish.registration? = some entry.desired := by
  rw [wish, if_pos h, Wish.registration?]

theorem Entry.registration?_wish_eq_some_iff {entry : Entry π} {desired : π} :
    entry.wish.registration? = some desired ↔
      entry.isExpected = true ∧ entry.desired = desired := by
  cases h : entry.isExpected <;> simp [wish, h, Wish.registration?]

/-- Nothing is wanted of an entry that is not expected. -/
theorem Entry.registration?_wish_eq_none_iff {entry : Entry π} :
    entry.wish.registration? = none ↔ entry.isExpected = false := by
  cases h : entry.isExpected <;> simp [wish, h, Wish.registration?]

/-- The registration that a log wants under a name. -/
def Log.wanted? (log : Log π) (name : String) : Option π :=
  (log.find? name).bind fun entry => entry.wish.registration?

theorem Log.wanted?_of_find? {log : Log π} {name : String} {entry : Entry π}
    (hentry : log.find? name = some entry) : log.wanted? name = entry.wish.registration? := by
  rw [wanted?, hentry, Option.bind_some]

variable [DecidableEq π]

/-- What is wanted under a name changes with the wishes for it, and with nothing else. -/
theorem Log.wanted?_apply (log : Log π) {operation : Operation π} {name : String}
    (hkept : operation ≠ .remove name) :
    (log.apply operation).wanted? name =
      (operation.wish? name).elim (log.wanted? name) Wish.registration? := by
  simp only [wanted?, find?_apply]
  cases operation.turn log.session name (log.find? name) with
  | stay hwish hnext => rw [hwish, hnext, Option.elim_none]
  | register desired hwish hnext =>
    rw [hwish, hnext]
    cases log.find? name <;> rfl
  | deregister hwish hnext =>
    rw [hwish, hnext]
    cases log.find? name <;> rfl
  | confirm old hentry hexpected hoperation hnext =>
    have hwish : operation.wish? name = none := by
      rcases hoperation with rfl | rfl <;> rfl
    rw [hwish, hnext, hentry]
    rfl
  | withdraw old hentry hexpected hoperation hnext =>
    rw [hnext, hentry, hoperation]
    rfl
  | forget hoperation hnext =>
    rw [hnext, hoperation]
    cases log.find? name <;> rfl
  | prune old hentry hsettled hoperation hnext =>
    -- What is settled is not expected, so nothing was wanted before either.
    obtain ⟨-, -, hexpected⟩ := old.isSettled_iff.1 hsettled
    rw [hnext, hentry, hoperation, Option.bind_some,
      Entry.registration?_wish_eq_none_iff.2 hexpected]
    rfl
  | remove hoperation hnext => exact absurd hoperation hkept

/-- A pass registers what an entry wants, or withdraws it if nothing is wanted. -/
theorem Entry.demand?_cases {kind : Kind} {name : String} {entry : Entry kind.Registration}
    {demand : Demand} (hdemand : entry.demand? kind name = some demand) :
    entry.wish = .register entry.desired ∧ demand = .register kind name entry.desired ∨
      entry.wish = .deregister ∧ ∃ endpoint, kind.primary? entry.desired = some endpoint ∧
        demand = .withdraw kind name endpoint := by
  rw [demand?] at hdemand
  cases haction : entry.action with
  | none =>
    rw [haction] at hdemand
    exact absurd hdemand (Option.some_ne_none _).symm
  | some action =>
    rw [haction] at hdemand
    cases action with
    | register =>
      have hexpected := ((action_eq_register_iff entry).1 haction).1
      exact .inl ⟨if_pos hexpected, (Option.some.inj hdemand).symm⟩
    | deregister =>
      have hunexpected := ((action_eq_deregister_iff entry).1 haction).1
      obtain ⟨endpoint, hprimary, rfl⟩ := Option.map_eq_some_iff.1 hdemand
      exact .inr ⟨if_neg (Bool.eq_false_iff.1 hunexpected), endpoint, hprimary, rfl⟩
    | remove => exact absurd hdemand (Option.some_ne_none _).symm

end Intent

namespace Session

open Intent (Operation Wish)

def wish? (session : Session) (kind : Kind) (name : String) (move : Move) :
    Option (Wish kind.Registration) :=
  (session.intent? kind move).bind (Operation.wish? name)

/-- The wishes that a run records under a name, the first to come first. -/
def wishes (session : Session) (kind : Kind) (name : String) :
    List Move → List (Wish kind.Registration)
  | [] => []
  | move :: moves =>
    (session.wish? kind name move).toList ++ (session.step move).wishes kind name moves

/-- The registration that a session wants under a name. -/
def wanted? (session : Session) (kind : Kind) (name : String) : Option kind.Registration :=
  (session.log kind).wanted? name

theorem wishes_append (session : Session) (kind : Kind) (name : String)
    (earlier later : List Move) :
    session.wishes kind name (earlier ++ later) =
      session.wishes kind name earlier ++ (session.run earlier).wishes kind name later := by
  induction earlier generalizing session with
  | nil => rfl
  | cons move earlier ih =>
    rw [List.cons_append, wishes, wishes, ih, List.append_assoc]
    rfl

theorem wishes_snoc (session : Session) (kind : Kind) (name : String) (moves : List Move)
    (move : Move) :
    session.wishes kind name (moves ++ [move]) =
      session.wishes kind name moves ++ ((session.run moves).wish? kind name move).toList := by
  rw [wishes_append, wishes, wishes, List.append_nil]

section Steps

variable {session next : Session} {kind : Kind} {name : String} {move : Move}

/-- What is done aside changes no wish. -/
theorem Aside.wanted?_eq (haside : session.Aside next) :
    next.wanted? kind name = session.wanted? kind name := by
  rw [wanted?, Intent.Log.wanted?, haside.find?]
  rfl

/-- An operation on one log leaves the wishes of the other alone. -/
theorem wanted?_modifyLog {other : Kind} {operation : Operation other.Registration}
    (hkept : ∀ target, operation ≠ .remove target) (hwish : operation.wish? name = none) :
    (session.modifyLog other fun log => log.apply operation).wanted? kind name =
      session.wanted? kind name := by
  by_cases hkind : kind = other
  · subst hkind
    rw [wanted?, log_modifyLog_self, Intent.Log.wanted?_apply _ (hkept name), hwish]
    rfl
  · rw [wanted?, log_modifyLog_of_ne _ _ hkind]
    rfl

theorem IsSpontaneous.ne_remove {operation : Operation kind.Registration}
    (hspontaneous : IsSpontaneous kind operation) (target : String) :
    operation ≠ .remove target := by
  rintro rfl
  exact hspontaneous

theorem intent?_of_ne {other : Kind} {operation : Operation kind.Registration}
    (hintent : session.intent? kind move = some operation) (hkind : other ≠ kind) :
    session.intent? other move = none := by
  cases move with
  | call id call =>
    rw [intent?] at hintent ⊢
    cases hcheck : session.check call with
    | ok _ =>
      rw [hcheck] at hintent
      exact Call.intent?_of_ne hintent hkind
    | error error => rfl
  | _ => exact absurd hintent (Option.some_ne_none _).symm

/-- A move changes what is wanted just as its own wish says. -/
theorem Onset.wanted?_eq (honset : session.Onset move next) :
    next.wanted? kind name =
      (session.wish? kind name move).elim (session.wanted? kind name) Wish.registration? := by
  cases honset with
  | rest hquiet => rw [wish?, hquiet, Option.bind_none, Option.elim_none]
  | intend other operation hintent hspontaneous =>
    by_cases hkind : kind = other
    · subst hkind
      rw [wish?, hintent, Option.bind_some, wanted?, log_modifyLog_self,
        Intent.Log.wanted?_apply _ (hspontaneous.ne_remove name)]
      rfl
    · rw [wish?, intent?_of_ne hintent hkind, wanted?, log_modifyLog_of_ne _ _ hkind]
      rfl
  | lose hmove hlog hflights hnext htimeout hrecent =>
    have hlost : next.log kind = (session.log kind).apply .loseSession := hlog kind
    rw [hmove, wanted?, hlost, Intent.Log.wanted?_apply]
    · rfl
    · exact nofun
  | confirm flight hflight other confirmation hconfirms hmove hdue =>
    rw [hmove, confirm_eq_apply, wanted?_modifyLog]
    · rfl
    · cases confirmation <;> exact fun _ => nofun
    · cases confirmation <;> rfl

/-- What follows in a step wishes for nothing. -/
theorem Sequel.wanted?_eq {start : Session} (hsequel : start.Sequel session next) :
    next.wanted? kind name = session.wanted? kind name := by
  induction hsequel with
  | rest session => rfl
  | aside haside _ ih => rw [ih, haside.wanted?_eq]
  | prune other target _ ih =>
    rw [ih, wanted?_modifyLog]
    · exact fun _ => nofun
    · rfl
  | ask howner hsend => rfl
  | push other target entry confirmation remaining hentry hremaining hdemand hsend => rfl

/-- What is wanted after a step is what was wished for in it, or what was wanted before. -/
theorem wanted?_step (hsound : session.Sound) (kind : Kind) (name : String) (move : Move) :
    (session.step move).wanted? kind name =
      (session.wish? kind name move).elim (session.wanted? kind name) Wish.registration? := by
  obtain ⟨middle, honset, hsequel⟩ := hsound.step_course move
  rw [hsequel.wanted?_eq, honset.wanted?_eq]

/-- What is wanted under a name after a run is what was wished for it last. -/
theorem wanted?_run (hsound : session.Sound) (kind : Kind) (name : String) (moves : List Move) :
    (session.run moves).wanted? kind name =
      ((session.wishes kind name moves).getLast?).elim (session.wanted? kind name)
        Wish.registration? := by
  induction moves using List.reverseRecOn with
  | nil => rfl
  | append_singleton moves move ih =>
    rw [run_snoc, wanted?_step (hsound.run moves), wishes_snoc, ih, List.getLast?_append]
    cases (session.run moves).wish? kind name move <;> rfl

end Steps

end Session

end RegistrySession
