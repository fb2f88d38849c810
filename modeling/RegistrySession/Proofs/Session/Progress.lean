import RegistrySession.Proofs.Session.Course

/-!
# Every step is progress

What is shown of each sort of change and of a request holds along every run, for the course of a
step is a row of changes with at most one request behind it.
-/

namespace RegistrySession.Session

/-- Every change keeps a session sound. -/
theorem Change.sound {session next : Session} (hchange : session.Change next)
    (hsound : session.Sound) : next.Sound := by
  cases hchange with
  | aside haside => exact haside.sound hsound
  | operate kind operation hspontaneous =>
    exact hsound.apply kind operation fun _ _ => hspontaneous.primary?_of_wish?
  | lose hlog hflights hnext htimeout hrecent =>
    constructor
    case fits =>
      rw [hflights]
      exact hsound.fits
    case withdrawable =>
      intro kind name entry hentry
      rw [hlog, Intent.Log.find?_loseSession] at hentry
      obtain ⟨old, hold, rfl⟩ := Option.map_eq_some_iff.1 hentry
      exact hsound.withdrawable kind name old hold
  | confirm flight hflight kind confirmation hconfirms =>
    exact ((Aside.land session flight.id .acknowledgement).sound hsound).confirm kind confirmation

theorem MaySend.sound {session : Session} {owner : Owner} {errand : Errand} {demand : Demand}
    (hsend : session.MaySend owner errand demand) (hsound : session.Sound) :
    (session.send owner errand demand).Sound := by
  constructor
  case withdrawable => exact hsound.withdrawable
  case fits =>
    intro flight hflight
    rcases List.mem_append.1 hflight with h | h
    · exact hsound.fits flight h
    · obtain rfl := List.mem_singleton.1 h
      exact hsend.fits

theorem Progress.sound {session next : Session} (hprogress : session.Progress next)
    (hsound : session.Sound) : next.Sound := by
  induction hprogress with
  | rest => exact hsound
  | send hsend => exact hsend.sound hsound
  | change hchange _ ih => exact ih (hchange.sound hsound)

/-! ## Steps and runs -/

theorem Onset.change {session next : Session} {move : Move} (honset : session.Onset move next) :
    session.Change next := by
  cases honset with
  | rest hquiet => exact .aside (.refl session)
  | intend kind operation hintent hspontaneous => exact .operate kind operation hspontaneous
  | lose hmove hlog hflights hnext htimeout hrecent =>
    exact .lose hlog hflights hnext htimeout hrecent
  | confirm flight hflight kind confirmation hconfirms =>
    exact .confirm flight hflight kind confirmation hconfirms

/-- What follows from a move is a row of changes, and at most one request. -/
theorem Sequel.progress {start session next : Session} (hsequel : start.Sequel session next) :
    session.Progress next := by
  induction hsequel with
  | rest session => exact .rest session
  | aside haside _ ih => exact .change (.aside haside) ih
  | prune kind name _ ih => exact .change (.operate kind (.prune name) trivial) ih
  | ask howner hsend => exact .send hsend
  | push kind name entry confirmation remaining hentry hremaining hdemand hsend =>
    exact .send hsend

/-- Every step is progress. -/
theorem Sound.step_progress {session : Session} (hsound : session.Sound) (move : Move) :
    session.Progress (session.step move) := by
  obtain ⟨middle, honset, hsequel⟩ := hsound.step_course move
  exact .change honset.change hsequel.progress

theorem Change.timeout_eq {session next : Session} (hchange : session.Change next) :
    next.timeout = session.timeout := by
  cases hchange with
  | aside haside => exact haside.timeout
  | operate => rfl
  | lose hlog hflights hnext htimeout hrecent => exact htimeout
  | confirm => rfl

theorem Progress.timeout_eq {session next : Session} (hprogress : session.Progress next) :
    next.timeout = session.timeout := by
  induction hprogress with
  | rest => rfl
  | send => rfl
  | change hchange _ ih => rw [ih, hchange.timeout_eq]

theorem sound_ofConfig (config : Config) (link : Link) (feed : Feed) :
    (ofConfig config link feed).Sound := by
  constructor
  case fits => exact fun flight hflight => absurd hflight List.not_mem_nil
  case withdrawable =>
    intro kind name entry hentry
    rw [log_ofConfig, Intent.Log.find?_empty] at hentry
    exact absurd hentry (by simp)

/-- A session stays sound, whatever is done. -/
theorem Sound.run {session : Session} (hsound : session.Sound) (moves : List Move) :
    (session.run moves).Sound := by
  induction moves using List.reverseRecOn with
  | nil => exact hsound
  | append_singleton moves move ih =>
    rw [run_snoc]
    exact (ih.step_progress move).sound ih

/-- The timeout stays as it was configured. -/
theorem Sound.timeout_run {session : Session} (hsound : session.Sound) (moves : List Move) :
    (session.run moves).timeout = session.timeout := by
  induction moves using List.reverseRecOn with
  | nil => rfl
  | append_singleton moves move ih =>
    rw [run_snoc, ((hsound.run moves).step_progress move).timeout_eq, ih]

/-! ## Numbers of flights -/

/-- No two flights have the same number. -/
structure Numbered (session : Session) : Prop where
  fresh : ∀ flight ∈ session.flights, flight.id < session.nextFlight
  unique : ∀ flight ∈ session.flights, ∀ other ∈ session.flights,
    other.id = flight.id → other = flight

section Numbers

variable {session next : Session}

theorem Change.flights_subset (hchange : session.Change next) : next.flights ⊆ session.flights := by
  cases hchange with
  | aside haside => exact haside.flights
  | operate => exact fun _ hflight => hflight
  | lose hlog hflights =>
    rw [hflights]
    exact fun _ hflight => hflight
  | confirm => exact List.filter_sublist.subset

theorem Change.nextFlight_eq (hchange : session.Change next) :
    next.nextFlight = session.nextFlight := by
  cases hchange with
  | aside haside => exact haside.nextFlight
  | operate => rfl
  | lose hlog hflights hnext htimeout hrecent => exact hnext
  | confirm => rfl

theorem Numbered.of_subset (hnumbered : session.Numbered)
    (hflights : next.flights ⊆ session.flights) (hnext : next.nextFlight = session.nextFlight) :
    next.Numbered := by
  constructor
  case fresh =>
    rw [hnext]
    exact fun flight hflight => hnumbered.fresh flight (hflights hflight)
  case unique =>
    exact fun flight hflight other hother =>
      hnumbered.unique flight (hflights hflight) other (hflights hother)

theorem Change.numbered (hchange : session.Change next) (hnumbered : session.Numbered) :
    next.Numbered :=
  hnumbered.of_subset hchange.flights_subset hchange.nextFlight_eq

/-- A request gets a number of its own. -/
theorem Numbered.send (hnumbered : session.Numbered) (owner : Owner) (errand : Errand)
    (demand : Demand) : (session.send owner errand demand).Numbered := by
  constructor
  case fresh =>
    intro flight hflight
    rcases List.mem_append.1 hflight with hold | hnew
    · exact Nat.lt_succ_of_lt (hnumbered.fresh flight hold)
    · obtain rfl := List.mem_singleton.1 hnew
      exact Nat.lt_succ_self _
  case unique =>
    intro flight hflight other hother hid
    rcases List.mem_append.1 hflight with hold | hnew
    · rcases List.mem_append.1 hother with hotherOld | hotherNew
      · exact hnumbered.unique flight hold other hotherOld hid
      · obtain rfl := List.mem_singleton.1 hotherNew
        exact absurd hid.symm (Nat.ne_of_lt (hnumbered.fresh flight hold))
    · obtain rfl := List.mem_singleton.1 hnew
      rcases List.mem_append.1 hother with hotherOld | hotherNew
      · exact absurd hid (Nat.ne_of_lt (hnumbered.fresh other hotherOld))
      · exact List.mem_singleton.1 hotherNew

theorem Progress.numbered (hprogress : session.Progress next) (hnumbered : session.Numbered) :
    next.Numbered := by
  induction hprogress with
  | rest => exact hnumbered
  | send => exact hnumbered.send _ _ _
  | change hchange _ ih => exact ih (hchange.numbered hnumbered)

theorem numbered_ofConfig (config : Config) (link : Link) (feed : Feed) :
    (ofConfig config link feed).Numbered :=
  ⟨fun _ hflight => absurd hflight List.not_mem_nil,
    fun _ hflight => absurd hflight List.not_mem_nil⟩

/-- Flights are told apart by their numbers, whatever is done. -/
theorem Numbered.run (hnumbered : session.Numbered) (hsound : session.Sound) (moves : List Move) :
    (session.run moves).Numbered := by
  induction moves using List.reverseRecOn with
  | nil => exact hnumbered
  | append_singleton moves move ih =>
    rw [run_snoc]
    exact ((hsound.run moves).step_progress move).numbered ih

end Numbers

end RegistrySession.Session
