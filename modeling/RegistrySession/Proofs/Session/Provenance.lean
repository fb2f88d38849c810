import RegistrySession.Proofs.Session.Acknowledged
import RegistrySession.Proofs.Session.Wishes

/-!
# Where a confirmation comes from

A registration counts as confirmed only because of one acknowledgement: that of a push of this very
registration, sent since the connection was last lost and answered in time.  From then on nothing
else was wished for the name.  The induction is on the run.  A step that finds the registration
confirmed keeps the push it is due to, and no other step but the acknowledgement itself confirms.
-/

namespace RegistrySession.Session

open Intent (Operation Wish)

variable {start session next : Session} {kind : Kind} {name : String} {move : Move}

/-- A push of a registration that is acknowledged in time after one part of a run, and still is
recent after the other, while nothing else is wished for the name. -/
structure IsSource (start : Session) (kind : Kind) (name : String)
    (registration : kind.Registration) (earlier : List Move) (flight : Flight)
    (later : List Move) : Prop where
  flight_mem : flight ∈ (start.run earlier).flights
  demand : flight.request.demand = .register kind name registration
  sent : ∃ sentAt, (sentAt, .sent flight.id flight.owner flight.request) ∈
      ((start.run earlier).run (.reply flight.id (.response .acknowledged) :: later)).sinceLoss ∧
    (start.run earlier).now ≤ start.timeout.after sentAt
  wishes : ∀ wish ∈ (start.run earlier).wishes kind name
    (.reply flight.id (.response .acknowledged) :: later), wish = .register registration

/-! ## What a step leaves of it -/

/-- What follows a move brings no entry. -/
theorem Sequel.find?_of_find? (hsequel : start.Sequel session next)
    {entry : Intent.Entry kind.Registration} (hentry : (next.log kind).find? name = some entry) :
    (session.log kind).find? name = some entry := by
  induction hsequel with
  | rest session => exact hentry
  | ask howner hsend => exact hentry
  | push other target found confirmation remaining hfound hremaining hdemand hsend => exact hentry
  | aside haside _ ih => rw [← haside.find?, ih hentry]
  | @prune session last other target _ ih =>
    have hpruned := ih hentry
    by_cases hkind : kind = other
    · subst hkind
      rw [log_modifyLog_self, Intent.Log.find?_apply, Operation.revise] at hpruned
      by_cases htarget : name = target
      · rw [if_pos htarget] at hpruned
        exact (Option.filter_eq_some_iff.1 hpruned).1
      · rwa [if_neg htarget] at hpruned
    · rwa [log_modifyLog_of_ne _ _ hkind] at hpruned

theorem Sequel.sinceLoss_subset (hsequel : start.Sequel session next) :
    session.sinceLoss ⊆ next.sinceLoss := by
  induction hsequel with
  | rest session => exact fun _ h => h
  | aside haside _ ih =>
    obtain ⟨notes, hsince, -⟩ := haside.sinceLoss
    rw [hsince] at ih
    exact fun note hnote => ih (List.mem_append_right notes hnote)
  | prune other target _ ih => exact ih
  | ask howner hsend =>
    rw [sinceLoss_send]
    exact List.subset_cons_self _ _
  | push other target entry confirmation remaining hentry hremaining hdemand hsend =>
    rw [sinceLoss_send]
    exact List.subset_cons_self _ _

/-- A source stays one through a step that keeps what is recent and wishes for nothing else. -/
theorem IsSource.snoc {registration : kind.Registration} {earlier later : List Move}
    {flight : Flight} {moves : List Move}
    (hsource : start.IsSource kind name registration earlier flight later)
    (hmoves : moves = earlier ++ .reply flight.id (.response .acknowledged) :: later)
    (hsince : (start.run moves).sinceLoss ⊆ ((start.run moves).step move).sinceLoss)
    (hwish : ∀ wish, (start.run moves).wish? kind name move = some wish →
      wish = .register registration) :
    start.IsSource kind name registration earlier flight (later ++ [move]) := by
  have hrun : start.run moves =
      (start.run earlier).run (.reply flight.id (.response .acknowledged) :: later) := by
    rw [hmoves, run_append]
  rw [hrun] at hsince hwish
  constructor
  case flight_mem => exact hsource.flight_mem
  case demand => exact hsource.demand
  case sent =>
    obtain ⟨sentAt, hnote, hdue⟩ := hsource.sent
    refine ⟨sentAt, ?_, hdue⟩
    rw [← List.cons_append, run_snoc]
    exact hsince hnote
  case wishes =>
    intro wish hmem
    rw [← List.cons_append, wishes_snoc] at hmem
    rcases List.mem_append.1 hmem with hbefore | hnow
    · exact hsource.wishes wish hbefore
    · exact hwish wish (by simpa using hnow)

/-- A move that leaves a registration confirmed either found it confirmed, or acknowledged its
push. -/
theorem Onset.confirmed (honset : session.Onset move next) (hsound : session.Sound)
    (htracked : session.Tracked kind) {entry : Intent.Entry kind.Registration}
    (hentry : (next.log kind).find? name = some entry) (haction : entry.action = none) :
    session.sinceLoss ⊆ next.sinceLoss ∧
      ((∃ old, (session.log kind).find? name = some old ∧ old.action = none ∧
          old.desired = entry.desired) ∨
        ∃ flight ∈ session.flights, move = .reply flight.id (.response .acknowledged) ∧
          flight.request.demand = .register kind name entry.desired ∧
          ∃ sentAt, (sentAt, .sent flight.id flight.owner flight.request) ∈ session.sinceLoss ∧
            session.now ≤ session.timeout.after sentAt) := by
  cases honset with
  | rest hquiet => exact ⟨fun _ h => h, .inl ⟨entry, hentry, haction, rfl⟩⟩
  | intend other operation hintent hspontaneous =>
    refine ⟨fun _ h => h, .inl ?_⟩
    by_cases hkind : kind = other
    · subst hkind
      rw [log_modifyLog_self, Intent.Log.find?_apply] at hentry
      rcases Operation.action_eq_none_of_revise hentry haction with hold | rfl | rfl
      · exact hold
      · exact hspontaneous.elim
      · exact hspontaneous.elim
    · rw [log_modifyLog_of_ne _ _ hkind] at hentry
      exact ⟨entry, hentry, haction, rfl⟩
  | lose hmove hlog hflights hnext htimeout hrecent =>
    rw [hlog, Intent.Log.find?_loseSession] at hentry
    obtain ⟨old, -, rfl⟩ := Option.map_eq_some_iff.1 hentry
    exact absurd ((Intent.Entry.action_eq_none_iff _).1 haction).1 Bool.false_ne_true
  | confirm flight hflight other confirmation hconfirms hmove hdue =>
    refine ⟨?_, ?_⟩
    · have hsince : ((session.land flight.id .acknowledgement).confirm other
          confirmation).sinceLoss = _ := sinceLoss_note _ _
      rw [hsince]
      exact List.subset_cons_self _ _
    · by_cases hkind : kind = other
      · subst hkind
        have hanswers := (hsound.fits flight hflight).answers hconfirms
        obtain ⟨-, hlasting⟩ := htracked flight hflight confirmation hconfirms
        rw [confirm_eq_apply, log_modifyLog_self, Intent.Log.find?_apply, log_land] at hentry
        rcases Operation.action_eq_none_of_revise hentry haction with hold | hregistered | hpushed
        · exact .inl hold
        · cases confirmation <;> exact nomatch hregistered
        · cases confirmation with
          | withdrawn target started => exact nomatch hpushed
          | pushed target registration started =>
            obtain ⟨rfl, rfl, rfl⟩ := Operation.confirmPush.inj hpushed
            obtain ⟨sentAt, hnote, hdeadline⟩ := hlasting rfl
            rw [hdeadline] at hdue
            exact .inr ⟨flight, hflight, hmove, hanswers, sentAt, hnote, hdue⟩
      · rw [confirm_eq_apply, log_modifyLog_of_ne _ _ hkind, log_land] at hentry
        exact .inl ⟨entry, hentry, haction, rfl⟩

/-! ## Runs -/

/-- A session that starts with nothing confirmed has a source for every confirmation. -/
theorem exists_isSource (hsound : start.Sound)
    (hstanding : start.Standing kind name fun _ => False)
    (hblank : (start.log kind).find? name = none) (moves : List Move)
    {entry : Intent.Entry kind.Registration}
    (hentry : ((start.run moves).log kind).find? name = some entry)
    (haction : entry.action = none) :
    ∃ earlier flight later,
      moves = earlier ++ .reply flight.id (.response .acknowledged) :: later ∧
      start.IsSource kind name entry.desired earlier flight later := by
  induction moves using List.reverseRecOn generalizing entry with
  | nil => exact nomatch hblank.symm.trans hentry
  | append_singleton moves move ih =>
    have hbefore := hsound.run moves
    have htracked := (hstanding.run hsound moves).tracked
    rw [run_snoc] at hentry
    obtain ⟨middle, honset, hsequel⟩ := hbefore.step_course move
    obtain ⟨hsince, hcause⟩ :=
      honset.confirmed hbefore htracked (hsequel.find?_of_find? hentry) haction
    have hrecent := List.Subset.trans hsince hsequel.sinceLoss_subset
    -- Whatever this move wishes for is what the log wants now.
    have hwish : ∀ wish, (start.run moves).wish? kind name move = some wish →
        wish = .register entry.desired := by
      intro wish hwish
      have hwanted := wanted?_step hbefore kind name move
      rw [hwish, Option.elim_some, wanted?, Intent.Log.wanted?_of_find? hentry,
        Intent.Entry.registration?_wish_of_isExpected
          ((Intent.Entry.action_eq_none_iff _).1 haction).2] at hwanted
      exact Wish.registration?_inj.1 hwanted.symm
    rcases hcause with ⟨old, hold, holdAction, hdesired⟩ | ⟨flight, hflight, rfl, hdemand, hsent⟩
    · obtain ⟨earlier, flight, later, hmoves, hsource⟩ := ih hold holdAction
      rw [hdesired] at hsource
      refine ⟨earlier, flight, later ++ [move], by simp [hmoves], ?_⟩
      exact hsource.snoc hmoves hrecent hwish
    · obtain ⟨sentAt, hnote, hdue⟩ := hsent
      refine ⟨moves, flight, [], rfl, hflight, hdemand, ⟨sentAt, hrecent hnote, ?_⟩, ?_⟩
      · rwa [hsound.timeout_run] at hdue
      · intro wish hmem
        exact absurd hmem List.not_mem_nil

/-- Whatever calls, passes, replies and losses of connection a run consists of, a registration that
counts as confirmed was pushed since the connection was last lost and acknowledged in time, and
nothing else was wished for its name since the acknowledgement was recorded. -/
theorem confirmed_has_source (config : Config) (link : Link) (feed : Feed) (moves : List Move)
    (kind : Kind) (name : String) (entry : Intent.Entry kind.Registration)
    (hentry : (((ofConfig config link feed).run moves).log kind).find? name = some entry)
    (hregistered : entry.isRegistered = true) (hexpected : entry.isExpected = true) :
    ∃ earlier flight later,
      moves = earlier ++ .reply flight.id (.response .acknowledged) :: later ∧
      (ofConfig config link feed).IsSource kind name entry.desired earlier flight later := by
  have haction := (Intent.Entry.action_eq_none_iff entry).2 ⟨hregistered, hexpected⟩
  refine exists_isSource (sound_ofConfig config link feed)
    (standing_ofConfig config link feed kind name) ?_ moves hentry haction
  rw [log_ofConfig, Intent.Log.find?_empty]

/-- A registration made offline that the first pass pushed, and that was repeated since. -/
theorem confirmed_has_source_repeated :
    let moves := registering 0 "svc-a" :: goingOnline ++ [acknowledging 0, registering 1 "svc-a"]
    ∃ entry, (((opened false).run moves).log .agent).find? "svc-a" = some entry ∧
      entry.isRegistered = true ∧ entry.isExpected = true ∧
      ∃ earlier flight later,
        moves = earlier ++ .reply flight.id (.response .acknowledged) :: later ∧
        (opened false).IsSource .agent "svc-a" entry.desired earlier flight later := by
  intro moves
  have hconfirmed : ((((opened false).run moves).log .agent).find? "svc-a").any
      (fun entry => entry.isRegistered && entry.isExpected) = true := by decide +kernel
  obtain ⟨entry, hentry, hflags⟩ := (Option.any_eq_true _ _).1 hconfirmed
  obtain ⟨hregistered, hexpected⟩ := (Bool.and_eq_true _ _).mp hflags
  exact ⟨entry, hentry, hregistered, hexpected,
    confirmed_has_source {} { isRunning := false } (.ofCapacity 16) moves .agent "svc-a" entry
      hentry hregistered hexpected⟩

end RegistrySession.Session
