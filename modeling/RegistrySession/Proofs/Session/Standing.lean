import RegistrySession.Proofs.Session.Progress

/-!
# What stands behind an entry

Three facts about one name hold along every run, however calls, passes, replies and losses of
connection interleave.  A confirmation that can still count belongs to a recent push.  A recent
registration is guarded: the entry keeps it from being forgotten, or a withdrawal was acknowledged
after it was sent.  A confirmed entry is backed by an acknowledged push of its registration, and
since then nothing else was pushed.  The last two leave out the pushes that strayed.
-/

namespace RegistrySession.Session

open Intent (Operation)

variable {session next : Session} {kind : Kind} {name : String} {stray : Nat → Prop}

/-- Something is still to be done for a name, or confirmed for it. -/
def IsOpen (session : Session) (kind : Kind) (name : String) : Prop :=
  ∃ entry, (session.log kind).find? name = some entry ∧ entry.isSettled = false

/-- The notes tell that a recent withdrawal of a name was acknowledged. -/
def IsWithdrawn (session : Session) (kind : Kind) (name : String) (notes : List Note) : Prop :=
  ∃ flight owner request, .sent flight owner request ∈ session.recent ∧
    (∃ endpoint, request.demand = .withdraw kind name endpoint) ∧
      .arrived flight .acknowledgement ∈ notes

/-- A confirmation whose session lasts is that of a recent push, which runs out in time. -/
def Tracked (session : Session) (kind : Kind) : Prop :=
  ∀ flight ∈ session.flights, ∀ confirmation, flight.errand.Confirms kind confirmation →
    confirmation.session ≤ (session.log kind).session ∧
      (confirmation.session = (session.log kind).session →
        ∃ sentAt, (sentAt, .sent flight.id flight.owner flight.request) ∈ session.sinceLoss ∧
          flight.deadline = session.timeout.after sentAt)

/-- A registration that was pushed is not forgotten before it is withdrawn. -/
def Guarded (session : Session) (kind : Kind) (name : String) (stray : Nat → Prop) : Prop :=
  ∀ later flight owner request earlier registration,
    session.recent = later ++ .sent flight owner request :: earlier →
      request.demand = .register kind name registration → ¬ stray flight →
        session.IsOpen kind name ∨ session.IsWithdrawn kind name later

/-- A registration that counts as confirmed was acknowledged, and nothing else was pushed since. -/
def Backed (session : Session) (kind : Kind) (name : String) (stray : Nat → Prop) : Prop :=
  ∀ entry, (session.log kind).find? name = some entry → entry.action = none →
    ∃ later flight earlier,
      session.recent = later ++ .arrived flight .acknowledgement :: earlier ∧
        (∃ owner request, .sent flight owner request ∈ earlier ∧
          request.demand = .register kind name entry.desired) ∧
        ∀ other otherOwner request, .sent other otherOwner request ∈ later →
          request.demand.concerns kind name = true → ¬ stray other →
            request.demand = .register kind name entry.desired

structure Standing (session : Session) (kind : Kind) (name : String) (stray : Nat → Prop) :
    Prop where
  tracked : session.Tracked kind
  guarded : session.Guarded kind name stray
  backed : session.Backed kind name stray

/-- The more pushes count as strays, the less is said. -/
theorem Standing.mono {other : Nat → Prop} (hstanding : session.Standing kind name stray)
    (himp : ∀ flight, stray flight → other flight) : session.Standing kind name other := by
  constructor
  case tracked => exact hstanding.tracked
  case guarded =>
    intro later flight owner request earlier registration hsplit hdemand hstray
    exact hstanding.guarded later flight owner request earlier registration hsplit hdemand
      (mt (himp flight) hstray)
  case backed =>
    intro entry hentry haction
    obtain ⟨later, flight, earlier, hsplit, hpush, hlater⟩ :=
      hstanding.backed entry hentry haction
    refine ⟨later, flight, earlier, hsplit, hpush, ?_⟩
    intro other otherOwner request hmem hconcerns hstray
    exact hlater other otherOwner request hmem hconcerns (mt (himp other) hstray)

/-! ## Notes that send nothing -/

/-- The journal grows by notes that send nothing. -/
structure Grows (session next : Session) (notes : List Note) : Prop where
  timeout : next.timeout = session.timeout
  sinceLoss : ∃ timed, timed.map Prod.snd = notes ∧ next.sinceLoss = timed ++ session.sinceLoss
  plain : ∀ note ∈ notes, note.isSent = false

theorem Grows.recent {notes : List Note} (hgrows : session.Grows next notes) :
    next.recent = notes ++ session.recent := by
  obtain ⟨timed, rfl, hsince⟩ := hgrows.sinceLoss
  rw [recent_eq_map, hsince, List.map_append, ← recent_eq_map]

theorem Aside.grows (haside : session.Aside next) : ∃ notes, session.Grows next notes := by
  obtain ⟨timed, hsince, hplain⟩ := haside.sinceLoss
  refine ⟨timed.map Prod.snd, haside.timeout, ⟨timed, rfl, hsince⟩, ?_⟩
  intro note hnote
  obtain ⟨entry, hentry, rfl⟩ := List.mem_map.1 hnote
  exact hplain entry hentry

/-- A request stands before all notes that send nothing. -/
theorem Grows.exists_of_split {notes later earlier : List Note} {flight : Nat} {owner : Owner}
    {request : Request} (hgrows : session.Grows next notes)
    (hsplit : next.recent = later ++ .sent flight owner request :: earlier) :
    ∃ middle, later = notes ++ middle ∧
      session.recent = middle ++ .sent flight owner request :: earlier := by
  rw [hgrows.recent] at hsplit
  rcases List.append_eq_append_iff.1 hsplit with ⟨middle, hlater, hrecent⟩ | ⟨rest, hnotes, hrest⟩
  · exact ⟨middle, hlater, hrecent⟩
  · cases rest with
    | nil => exact ⟨[], by simpa using hnotes.symm, by simpa using hrest.symm⟩
    | cons note rest =>
      obtain ⟨rfl, -⟩ := List.cons.inj hrest
      have hplain := hgrows.plain (.sent flight owner request) (by simp [hnotes])
      exact absurd hplain (by simp [Note.isSent])

theorem IsWithdrawn.mono {notes more : List Note}
    (hwithdrawn : session.IsWithdrawn kind name notes)
    (hrecent : ∀ note ∈ session.recent, note ∈ next.recent) (hnotes : ∀ note ∈ notes, note ∈ more) :
    next.IsWithdrawn kind name more := by
  obtain ⟨flight, owner, request, hsent, hdemand, harrived⟩ := hwithdrawn
  exact ⟨flight, owner, request, hrecent _ hsent, hdemand, hnotes _ harrived⟩

theorem Tracked.grow {notes : List Note} (htracked : session.Tracked kind)
    (hgrows : session.Grows next notes)
    (hsession : (next.log kind).session = (session.log kind).session)
    (hflights : next.flights ⊆ session.flights) : next.Tracked kind := by
  intro flight hflight confirmation hconfirms
  obtain ⟨hle, hsent⟩ := htracked flight (hflights hflight) confirmation hconfirms
  obtain ⟨timed, -, hsince⟩ := hgrows.sinceLoss
  rw [hsession, hgrows.timeout, hsince]
  refine ⟨hle, fun hlasts => ?_⟩
  obtain ⟨sentAt, hnote, hdeadline⟩ := hsent hlasts
  exact ⟨sentAt, List.mem_append_right timed hnote, hdeadline⟩

/-- While the session of a confirmation lasts, its push is recent. -/
theorem Tracked.sent_mem_recent (htracked : session.Tracked kind) {flight : Flight}
    (hflight : flight ∈ session.flights) {confirmation : Intent.Log.Confirmation kind.Registration}
    (hconfirms : flight.errand.Confirms kind confirmation)
    (hlasts : confirmation.session = (session.log kind).session) :
    .sent flight.id flight.owner flight.request ∈ session.recent := by
  obtain ⟨sentAt, hnote, -⟩ := (htracked flight hflight confirmation hconfirms).2 hlasts
  rw [recent_eq_map]
  exact List.mem_map_of_mem hnote

/-- An entry may be settled by an acknowledged withdrawal. -/
theorem Guarded.grow {notes : List Note} (hguarded : session.Guarded kind name stray)
    (hgrows : session.Grows next notes)
    (hopen : session.IsOpen kind name →
      next.IsOpen kind name ∨ session.IsWithdrawn kind name notes) :
    next.Guarded kind name stray := by
  intro later flight owner request earlier registration hsplit hdemand hstray
  have hrecent : ∀ note ∈ session.recent, note ∈ next.recent := by
    intro note hnote
    rw [hgrows.recent]
    exact List.mem_append_right notes hnote
  obtain ⟨middle, rfl, hmiddle⟩ := hgrows.exists_of_split hsplit
  -- Either the entry stood until now, or the withdrawal was acknowledged already.
  rcases hguarded middle flight owner request earlier registration hmiddle hdemand hstray with
    hstands | hwithdrawn
  · rcases hopen hstands with hstands | hwithdrawn
    · exact .inl hstands
    · exact .inr (hwithdrawn.mono hrecent fun note => List.mem_append_left middle)
  · exact .inr (hwithdrawn.mono hrecent fun note => List.mem_append_right notes)

/-- An entry may be confirmed by the acknowledgement of its registration. -/
theorem Backed.grow {notes : List Note} (hbacked : session.Backed kind name stray)
    (hgrows : session.Grows next notes)
    (hconfirmed : ∀ entry, (next.log kind).find? name = some entry → entry.action = none →
      (∃ old, (session.log kind).find? name = some old ∧ old.action = none ∧
        old.desired = entry.desired) ∨
      ∃ flight owner request, .sent flight owner request ∈ session.recent ∧
        request.demand = .register kind name entry.desired ∧
          .arrived flight .acknowledgement ∈ notes) :
    next.Backed kind name stray := by
  intro entry hentry haction
  rcases hconfirmed entry hentry haction with
    ⟨old, hold, holdAction, hdesired⟩ | ⟨flight, owner, request, hsent, hdemand, harrived⟩
  · obtain ⟨later, flight, earlier, hsplit, hpush, hlater⟩ := hbacked old hold holdAction
    rw [← hdesired]
    refine ⟨notes ++ later, flight, earlier, ?_, hpush, ?_⟩
    · rw [hgrows.recent, hsplit, List.append_assoc]
    · intro other otherOwner request hmem hconcerns hstray
      rcases List.mem_append.1 hmem with h | h
      · exact absurd (hgrows.plain _ h) (by simp [Note.isSent])
      · exact hlater other otherOwner request h hconcerns hstray
  · obtain ⟨before, after, rfl⟩ := List.append_of_mem harrived
    refine ⟨before, flight, after ++ session.recent, ?_, ?_, ?_⟩
    · rw [hgrows.recent, List.append_assoc, List.cons_append]
    · exact ⟨owner, request, List.mem_append_right after hsent, hdemand⟩
    · intro other otherOwner request hmem _ _
      exact absurd (hgrows.plain _ (List.mem_append_left _ hmem)) (by simp [Note.isSent])

/-! ## Changes and requests -/

/-- Nothing happens to the log of the kind. -/
theorem Standing.keep {notes : List Note} (hstanding : session.Standing kind name stray)
    (hgrows : session.Grows next notes)
    (hfind : (next.log kind).find? name = (session.log kind).find? name)
    (hsession : (next.log kind).session = (session.log kind).session)
    (hflights : next.flights ⊆ session.flights) : next.Standing kind name stray := by
  constructor
  case tracked => exact hstanding.tracked.grow hgrows hsession hflights
  case guarded =>
    apply hstanding.guarded.grow hgrows
    intro hopen
    exact .inl (by rwa [IsOpen, hfind])
  case backed =>
    apply hstanding.backed.grow hgrows
    intro entry hentry haction
    rw [hfind] at hentry
    exact .inl ⟨entry, hentry, haction, rfl⟩

/-- An operation on the log, where a confirmation comes with the acknowledgement of its push. -/
theorem Standing.apply {notes : List Note} {operation : Operation kind.Registration}
    (hstanding : session.Standing kind name stray) (hgrows : session.Grows next notes)
    (hlog : next.log kind = (session.log kind).apply operation)
    (hflights : next.flights ⊆ session.flights)
    (hlose : operation ≠ .loseSession) (hremove : operation ≠ .remove name)
    (hregister : ∀ started, operation ≠ .confirmRegistered name started)
    (hwithdraw : operation = .confirmDeregistered name (session.log kind).session →
      session.IsWithdrawn kind name notes)
    (hpush : ∀ registration,
      operation = .confirmPush name registration (session.log kind).session →
        ∃ flight owner request, .sent flight owner request ∈ session.recent ∧
          request.demand = .register kind name registration ∧
            .arrived flight .acknowledgement ∈ notes) :
    next.Standing kind name stray := by
  have hsession : (next.log kind).session = (session.log kind).session := by
    rw [hlog, Intent.Log.session_apply, if_neg hlose, Nat.add_zero]
  have hfind : (next.log kind).find? name =
      operation.revise (session.log kind).session name ((session.log kind).find? name) := by
    rw [hlog, Intent.Log.find?_apply]
  constructor
  case tracked => exact hstanding.tracked.grow hgrows hsession hflights
  case guarded =>
    apply hstanding.guarded.grow hgrows
    rintro ⟨old, hold, hunsettled⟩
    by_cases hconfirm : operation = .confirmDeregistered name (session.log kind).session
    · exact .inr (hwithdraw hconfirm)
    · obtain ⟨found, hfound, hstays⟩ :=
        Operation.exists_unsettled_of_revise hunsettled hlose hremove hconfirm
      rw [hold, hfound] at hfind
      exact .inl ⟨found, hfind, hstays⟩
  case backed =>
    apply hstanding.backed.grow hgrows
    intro entry hentry haction
    rw [hfind] at hentry
    rcases Operation.action_eq_none_of_revise hentry haction with hbefore | hregistered | hpushed
    · exact .inl hbefore
    · exact absurd hregistered (hregister _)
    · exact .inr (hpush entry.desired hpushed)

/-- With the connection everything recent is gone, and so is every confirmation. -/
theorem Standing.lose (hstanding : session.Standing kind name stray)
    (hlog : next.log kind = (session.log kind).loseSession)
    (hflights : next.flights = session.flights) (hrecent : next.recent = []) :
    next.Standing kind name stray := by
  constructor
  case tracked =>
    intro flight hflight confirmation hconfirms
    obtain ⟨hle, -⟩ := hstanding.tracked flight (hflights ▸ hflight) confirmation hconfirms
    have hnext : (next.log kind).session = (session.log kind).session + 1 := by
      rw [hlog]
      rfl
    exact ⟨by omega, by omega⟩
  case guarded =>
    intro later flight owner request earlier registration hsplit
    rw [hrecent] at hsplit
    exact absurd hsplit (by simp)
  case backed =>
    intro entry hentry haction
    rw [hlog, Intent.Log.find?_loseSession] at hentry
    obtain ⟨old, -, rfl⟩ := Option.map_eq_some_iff.1 hentry
    exact absurd ((Intent.Entry.action_eq_none_iff _).1 haction).1 Bool.false_ne_true

/-- The acknowledgement of a flight, with the confirmation that it brings. -/
theorem Standing.confirm (hstanding : session.Standing kind name stray) (hsound : session.Sound)
    {flight : Flight} (hflight : flight ∈ session.flights) {other : Kind}
    {confirmation : Intent.Log.Confirmation other.Registration}
    (hconfirms : flight.errand.Confirms other confirmation) :
    ((session.land flight.id .acknowledgement).confirm other confirmation).Standing kind name
      stray := by
  have hgrows : session.Grows
      ((session.land flight.id .acknowledgement).confirm other confirmation)
      [.arrived flight.id .acknowledgement] :=
    ⟨rfl, ⟨[(session.now, _)], rfl, sinceLoss_note _ _⟩, by simp [Note.isSent]⟩
  have hflights :
      ((session.land flight.id .acknowledgement).confirm other confirmation).flights ⊆
        session.flights := List.filter_sublist.subset
  by_cases hkind : kind = other
  · subst hkind
    have hanswers := (hsound.fits flight hflight).answers hconfirms
    -- A confirmation only counts in the session of its push, and then that push is recent.
    have hsent := hstanding.tracked.sent_mem_recent hflight hconfirms
    have hlog : ((session.land flight.id .acknowledgement).confirm kind confirmation).log kind =
        (session.log kind).apply confirmation.operation := by
      rw [confirm_eq_apply, log_modifyLog_self, log_land]
    cases confirmation with
    | pushed target registration started =>
      apply hstanding.apply hgrows hlog hflights
      case hlose => exact nofun
      case hremove => exact nofun
      case hregister => exact fun _ => nofun
      case hwithdraw => exact nofun
      case hpush =>
        rintro pushed ⟨⟩
        exact ⟨flight.id, flight.owner, flight.request, hsent rfl, hanswers, by simp⟩
    | withdrawn target started =>
      apply hstanding.apply hgrows hlog hflights
      case hlose => exact nofun
      case hremove => exact nofun
      case hregister => exact fun _ => nofun
      case hpush => exact fun _ => nofun
      case hwithdraw =>
        rintro ⟨⟩
        exact ⟨flight.id, flight.owner, flight.request, hsent rfl, hanswers, by simp⟩
  · have hlog : ((session.land flight.id .acknowledgement).confirm other confirmation).log kind =
        session.log kind := log_modifyLog_of_ne _ _ hkind
    exact hstanding.keep hgrows (by rw [hlog]) (by rw [hlog]) hflights

/-- No change makes a name lose its standing. -/
theorem Standing.change (hstanding : session.Standing kind name stray) (hsound : session.Sound)
    (hchange : session.Change next) : next.Standing kind name stray := by
  cases hchange with
  | aside haside =>
    obtain ⟨notes, hgrows⟩ := haside.grows
    exact hstanding.keep hgrows (haside.find? kind name) (haside.logSession kind) haside.flights
  | operate other operation hspontaneous =>
    have hgrows : session.Grows (session.modifyLog other fun log => log.apply operation) [] :=
      ⟨rfl, ⟨[], rfl, rfl⟩, by simp⟩
    by_cases hkind : kind = other
    · subst hkind
      apply hstanding.apply hgrows (log_modifyLog_self _ _ _) (fun _ h => h)
      case hlose =>
        rintro rfl
        exact hspontaneous
      case hremove =>
        rintro rfl
        exact hspontaneous
      case hregister =>
        rintro started rfl
        exact hspontaneous
      case hwithdraw =>
        rintro rfl
        exact hspontaneous.elim
      case hpush =>
        rintro registration rfl
        exact hspontaneous.elim
    · have hlog := log_modifyLog_of_ne session (fun log => log.apply operation) hkind
      exact hstanding.keep hgrows (by rw [hlog]) (by rw [hlog]) (fun _ h => h)
  | lose hlog hflights hnext htimeout hrecent => exact hstanding.lose (hlog kind) hflights hrecent
  | confirm flight hflight other confirmation hconfirms =>
    exact hstanding.confirm hsound hflight hconfirms

/-- A request that does not stray is one that the log wants. -/
theorem Standing.send {owner : Owner} {errand : Errand} {demand : Demand}
    (hstanding : session.Standing kind name stray) (hsend : session.MaySend owner errand demand)
    (hwanted : ¬ stray session.nextFlight → session.wants demand = true) :
    (session.send owner errand demand).Standing kind name stray := by
  have hrecent := recent_send session owner errand demand
  constructor
  case tracked =>
    intro flight hflight confirmation hconfirms
    rw [sinceLoss_send]
    rcases List.mem_append.1 hflight with h | h
    · obtain ⟨hle, hsent⟩ := hstanding.tracked flight h confirmation hconfirms
      refine ⟨hle, fun hlasts => ?_⟩
      obtain ⟨sentAt, hnote, hdeadline⟩ := hsent hlasts
      exact ⟨sentAt, List.mem_cons_of_mem _ hnote, hdeadline⟩
    · obtain rfl := List.mem_singleton.1 h
      exact ⟨Nat.le_of_eq (hsend.current kind confirmation hconfirms),
        fun _ => ⟨session.now, List.mem_cons_self, rfl⟩⟩
  case guarded =>
    intro later flight sender request earlier registration hsplit hdemand hstray
    rw [hrecent] at hsplit
    cases later with
    | nil =>
      obtain ⟨⟨rfl, rfl, rfl⟩, -⟩ := List.cons.inj hsplit
      have hwants := hwanted hstray
      rw [show demand = .register kind name registration from hdemand] at hwants
      obtain ⟨entry, hentry, hexpected, -⟩ := wants_register_iff.1 hwants
      exact .inl ⟨entry, hentry, by simp [Intent.Entry.isSettled, hexpected]⟩
    | cons note later =>
      obtain ⟨-, hbefore⟩ := List.cons.inj hsplit
      rcases hstanding.guarded later flight sender request earlier registration hbefore hdemand
        hstray with hopen | hwithdrawn
      · exact .inl hopen
      · refine .inr (hwithdrawn.mono ?_ fun _ => List.mem_cons_of_mem note)
        intro other hother
        rw [hrecent]
        exact List.mem_cons_of_mem _ hother
  case backed =>
    intro entry hentry haction
    obtain ⟨later, flight, earlier, hsplit, hpush, hlater⟩ :=
      hstanding.backed entry hentry haction
    refine ⟨_ :: later, flight, earlier, by rw [hrecent, hsplit, List.cons_append], hpush, ?_⟩
    intro other otherOwner request hmem hconcerns hstray
    rcases List.mem_cons.1 hmem with h | h
    · obtain ⟨rfl, rfl, rfl⟩ := Note.sent.inj h
      have hwants := hwanted hstray
      have hexpected := ((Intent.Entry.action_eq_none_iff entry).1 haction).2
      rcases Demand.concerns_iff.1 hconcerns with ⟨registration, hdemand⟩ | ⟨endpoint, hdemand⟩
      · obtain rfl := hdemand
        obtain ⟨found, hfound, -, rfl⟩ := wants_register_iff.1 hwants
        rw [Option.some.inj (hentry.symm.trans hfound)]
      · obtain rfl := hdemand
        obtain ⟨found, hfound, hunexpected⟩ := wants_withdraw_iff.1 hwants
        rw [← Option.some.inj (hentry.symm.trans hfound), hexpected] at hunexpected
        exact absurd hunexpected (by simp)
    · exact hlater other otherOwner request h hconcerns hstray

/-! ## Steps and runs -/

/-- No step does either, as long as nothing strays. -/
theorem Standing.progress (hstanding : session.Standing kind name stray) (hsound : session.Sound)
    (hprogress : session.Progress next)
    (hstray : ∀ flight ∈ next.flights, session.nextFlight ≤ flight.id →
      (∃ task, flight.owner = .run .reconcile task) →
        next.wants flight.request.demand = false → stray flight.id) :
    next.Standing kind name stray := by
  induction hprogress with
  | rest => exact hstanding
  | send hsend =>
    refine hstanding.send hsend fun hkeeps => ?_
    rcases hsend.wanted with howner | hwants
    · by_contra hunwanted
      refine hkeeps (hstray _ (List.mem_append_right _ (List.mem_singleton_self _))
        (Nat.le_refl _) howner ?_)
      exact Bool.eq_false_iff.2 hunwanted
    · exact hwants
  | change hchange _ ih =>
    apply ih (hstanding.change hsound hchange) (hchange.sound hsound)
    rwa [hchange.nextFlight_eq]

/-- The facts hold after every run of a session that starts without any push. -/
theorem Standing.run (hsound : session.Sound) (hstart : session.Standing kind name fun _ => False)
    (moves : List Move) :
    (session.run moves).Standing kind name (session.Strays moves) := by
  induction moves using List.reverseRecOn with
  | nil => exact hstart.mono fun _ => False.elim
  | append_singleton moves move ih =>
    have hbefore := hsound.run moves
    rw [run_snoc]
    -- The strays so far stay strays, and a request that this move sends may be a new one.
    apply (ih.mono fun flight h => h.mono move).progress hbefore (hbefore.step_progress move)
    intro flight hflight hnew howner hunwanted
    exact ⟨moves, move, [], rfl, flight, hflight, rfl, hnew, howner, hunwanted⟩

theorem standing_ofConfig (config : Config) (link : Link) (feed : Feed) (kind : Kind)
    (name : String) : (ofConfig config link feed).Standing kind name fun _ => False := by
  constructor
  case tracked => exact fun flight hflight => absurd hflight List.not_mem_nil
  case guarded =>
    intro later flight owner request earlier registration hsplit
    exact absurd hsplit (by simp [recent, ofConfig])
  case backed =>
    intro entry hentry
    rw [log_ofConfig, Intent.Log.find?_empty] at hentry
    exact absurd hentry (by simp)

end RegistrySession.Session
