import RegistrySession.Proofs.Session.Acknowledged
import RegistrySession.Proofs.Session.Wishes

/-!
# How a pass falls behind

A pass takes the entries of a log when it comes to it, and has those that it does not push at once
with it until the replies to the ones before have come.  It does not look at the log again before
it pushes.  So each of its requests agrees with what the log once had left to do.  Whether it still
agrees when it is sent depends on what happened to the name in between.
-/

namespace RegistrySession

open Intent (Wish)

namespace Session

variable {start session next : Session} {kind : Kind} {name : String} {move : Move}

/-- A request does for a name just what the log has left to do for it. -/
def agrees (session : Session) : Demand → Bool
  | .register kind name registration =>
    ((session.log kind).find? name).any fun entry =>
      entry.action = some .register && entry.desired = registration
  | .withdraw kind name _ =>
    ((session.log kind).find? name).any fun entry => entry.action = some .deregister
  | _ => true

/-- Something is left to push for a name. -/
def owes (session : Session) (kind : Kind) (name : String) : Bool :=
  ((session.log kind).find? name).any fun entry =>
    entry.action = some .register || entry.action = some .deregister

/-- After one part of a run a pass found an entry in the log, and it had the entry with it from the
next move on to the end of the other part. -/
structure Snapshot (start : Session) (owner : Owner) (kind : Kind)
    (entry : String × Intent.Entry kind.Registration) (earlier later : List Move) : Prop where
  listed : ((start.run earlier).log kind).find? entry.1 = some entry.2
  carried : ∀ middle rest, later = middle ++ rest → middle ≠ [] →
    ((start.run earlier).run middle).Carries owner kind entry

/-! ## What a pass has with it -/

theorem Onset.flights_subset (honset : session.Onset move next) :
    next.flights ⊆ session.flights := by
  cases honset with
  | rest hquiet => exact fun _ h => h
  | intend other operation hintent hspontaneous => exact fun _ h => h
  | lose hmove hlog hflights hnext htimeout hrecent =>
    rw [hflights]
    exact fun _ h => h
  | confirm flight hflight other confirmation hconfirms hmove hdue =>
    exact List.filter_sublist.subset

/-- The flight of a pass was there before, or pushes an entry that the pass holds. -/
theorem Sequel.flight_mem_or (hsequel : start.Sequel session next) {flight : Flight}
    (hflight : flight ∈ next.flights) {task : Nat} (howner : flight.owner = .run .reconcile task) :
    flight ∈ session.flights ∨
      ∃ kind name entry confirmation remaining,
        flight.errand = .reconcile kind confirmation remaining ∧
        entry.demand? kind name = some flight.request.demand ∧
        start.Holds flight.owner kind (name, entry) ∧
        ∀ other ∈ remaining, start.Holds flight.owner kind other := by
  induction hsequel with
  | rest session => exact .inl hflight
  | aside haside _ ih =>
    rcases ih hflight with hold | hnew
    · exact .inl (haside.flights hold)
    · exact .inr hnew
  | prune other target _ ih => exact ih hflight
  | ask hother hsend =>
    rcases List.mem_append.1 hflight with hold | hnew
    · exact .inl hold
    · obtain rfl := List.mem_singleton.1 hnew
      exact absurd howner (hother task)
  | push kind name entry confirmation remaining hentry hremaining hdemand hsend =>
    rcases List.mem_append.1 hflight with hold | hnew
    · exact .inl hold
    · obtain rfl := List.mem_singleton.1 hnew
      exact .inr ⟨kind, name, entry, confirmation, remaining, rfl, hdemand, hentry, hremaining⟩

/-- What a pass has with it after a step it held before. -/
theorem Carries.holds (hsound : session.Sound) {owner : Owner}
    {entry : String × Intent.Entry kind.Registration}
    (hcarries : (session.step move).Carries owner kind entry) :
    session.Holds owner kind entry := by
  obtain ⟨flight, hflight, howner, confirmation, remaining, herrand, hentry⟩ := hcarries
  obtain ⟨middle, honset, hsequel⟩ := hsound.step_course move
  have hfits := ((hsound.step_progress move).sound hsound).fits flight hflight
  rw [herrand] at hfits
  obtain ⟨-, -, task, hpass⟩ := hfits
  rcases hsequel.flight_mem_or hflight hpass with hold | hnew
  · have hflights := honset.flights_subset hold
    exact .inl ⟨flight, hflights, howner, confirmation, remaining, herrand, hentry⟩
  · obtain ⟨_, _, _, _, _, hpushed, -, -, hremaining⟩ := hnew
    rw [herrand] at hpushed
    obtain ⟨rfl, -, hsame⟩ := Errand.reconcile.inj hpushed
    obtain rfl := eq_of_heq hsame
    rw [← howner]
    exact hremaining entry hentry

theorem Snapshot.snoc {owner : Owner} {entry : String × Intent.Entry kind.Registration}
    {earlier later : List Move} (hsnapshot : start.Snapshot owner kind entry earlier later)
    (hcarries : ((start.run earlier).run (later ++ [move])).Carries owner kind entry) :
    start.Snapshot owner kind entry earlier (later ++ [move]) := by
  refine ⟨hsnapshot.listed, fun middle rest hsplit hmiddle => ?_⟩
  rcases List.eq_nil_or_concat rest with rfl | ⟨rest, last, rfl⟩
  · rw [List.append_nil] at hsplit
    rwa [← hsplit]
  · rw [List.concat_eq_append, ← List.append_assoc] at hsplit
    exact hsnapshot.carried middle rest (List.append_inj_left' hsplit rfl) hmiddle

/-- Whatever a pass has with it, it found in the log at some point of the run, and has had with it
since. -/
theorem Carries.exists_snapshot (hsound : start.Sound)
    (hblank : ∀ owner kind entry, ¬ start.Carries owner kind entry) {moves : List Move}
    {owner : Owner} {entry : String × Intent.Entry kind.Registration}
    (hcarries : (start.run moves).Carries owner kind entry) :
    ∃ earlier later, moves = earlier ++ later ∧
      start.Snapshot owner kind entry earlier later := by
  induction moves using List.reverseRecOn with
  | nil => exact absurd hcarries (hblank owner kind entry)
  | append_singleton moves move ih =>
    have hholds : (start.run moves).Holds owner kind entry :=
      Carries.holds (hsound.run moves) (by rwa [run_snoc] at hcarries)
    rcases hholds with hbefore | hlisted
    · obtain ⟨earlier, later, rfl, hsnapshot⟩ := ih hbefore
      refine ⟨earlier, later ++ [move], List.append_assoc _ _ _, hsnapshot.snoc ?_⟩
      rwa [← run_append, ← List.append_assoc]
    · refine ⟨moves, [move], rfl, hlisted, fun middle rest hsplit hmiddle => ?_⟩
      obtain ⟨rfl, rfl⟩ : middle = [move] ∧ rest = [] := by
        cases middle with
        | nil => exact absurd rfl hmiddle
        | cons first middle => simp_all
      rwa [← run_append]

/-- No pass has anything with it when a session opens. -/
theorem not_carries_ofConfig (config : Config) (link : Link) (feed : Feed) (owner : Owner)
    (kind : Kind) (entry : String × Intent.Entry kind.Registration) :
    ¬ (ofConfig config link feed).Carries owner kind entry := by
  rintro ⟨flight, hflight, -⟩
  exact absurd hflight List.not_mem_nil

/-- What a pass knows it found in the log at some point of the run. -/
theorem Holds.exists_snapshot (hsound : start.Sound)
    (hblank : ∀ owner kind entry, ¬ start.Carries owner kind entry) {moves : List Move}
    {owner : Owner} {entry : String × Intent.Entry kind.Registration}
    (hholds : (start.run moves).Holds owner kind entry) :
    ∃ earlier later, moves = earlier ++ later ∧
      start.Snapshot owner kind entry earlier later := by
  rcases hholds with hcarries | hlisted
  · exact hcarries.exists_snapshot hsound hblank
  · refine ⟨moves, [], (List.append_nil moves).symm, hlisted, fun middle rest hsplit hmiddle => ?_⟩
    exact absurd (List.append_eq_nil_iff.1 hsplit.symm).1 hmiddle

/-! ## Whether a request still agrees -/

/-- The request for an entry agrees with the log while the name is wished for as it was, and still
has something left to push. -/
theorem agrees_iff {entry : Intent.Entry kind.Registration} {demand : Demand}
    (hdemand : entry.demand? kind name = some demand) :
    session.agrees demand = true ↔
      session.wanted? kind name = entry.wish.registration? ∧ session.owes kind name = true := by
  rcases Intent.Entry.demand?_cases hdemand with ⟨hwish, rfl⟩ | ⟨hwish, endpoint, -, rfl⟩
  · rw [hwish, Intent.Wish.registration?]
    cases hfound : (session.log kind).find? name with
    | none => simp [agrees, owes, hfound]
    | some found =>
      simp only [agrees, owes, wanted?, Intent.Log.wanted?_of_find? hfound, hfound, Option.any_some,
        Intent.Entry.registration?_wish_eq_some_iff, Bool.and_eq_true, Bool.or_eq_true,
        decide_eq_true_eq, Intent.Entry.action_eq_register_iff,
        Intent.Entry.action_eq_deregister_iff]
      cases found.isExpected <;> simp [and_comm]
  · rw [hwish, Intent.Wish.registration?]
    cases hfound : (session.log kind).find? name with
    | none => simp [agrees, owes, hfound]
    | some found =>
      simp only [agrees, owes, wanted?, Intent.Log.wanted?_of_find? hfound, hfound, Option.any_some,
        Intent.Entry.registration?_wish_eq_none_iff, Bool.or_eq_true, decide_eq_true_eq,
        Intent.Entry.action_eq_register_iff, Intent.Entry.action_eq_deregister_iff]
      cases found.isExpected <;> simp

/-- Each request of a pass does what the log had left to do for the name when the pass came to it.
It agrees with the log at the moment of sending just if no other wish was recorded last in between,
and nothing settled or confirmed the entry. -/
theorem pass_request_agrees_iff (config : Config) (link : Link) (feed : Feed) (moves : List Move)
    (move : Move) (flight : Flight) (task : Nat)
    (hsent : flight ∈ ((ofConfig config link feed).run (moves ++ [move])).flights)
    (hnew : flight ∉ ((ofConfig config link feed).run moves).flights)
    (howner : flight.owner = .run .reconcile task) :
    let start := ofConfig config link feed
    let session := start.run (moves ++ [move])
    ∃ kind name entry earlier later, moves = earlier ++ later ∧
      start.Snapshot flight.owner kind (name, entry) earlier later ∧
      entry.demand? kind name = some flight.request.demand ∧
      (session.agrees flight.request.demand = true ↔
        (∀ wish, ((start.run earlier).wishes kind name (later ++ [move])).getLast? = some wish →
          wish = entry.wish) ∧ session.owes kind name = true) := by
  intro start session
  have hsound : start.Sound := sound_ofConfig config link feed
  obtain ⟨middle, honset, hsequel⟩ := (hsound.run moves).step_course move
  rw [← run_snoc] at hsequel
  rcases hsequel.flight_mem_or hsent howner with hold | hpushed
  · exact absurd (honset.flights_subset hold) hnew
  · obtain ⟨kind, name, entry, -, -, -, hdemand, hholds, -⟩ := hpushed
    obtain ⟨earlier, later, rfl, hsnapshot⟩ :=
      hholds.exists_snapshot hsound (not_carries_ofConfig config link feed)
    refine ⟨kind, name, entry, earlier, later, rfl, hsnapshot, hdemand, ?_⟩
    -- The log wants what was wished last since, or else still what it wanted then.
    have hthen : (start.run earlier).wanted? kind name = entry.wish.registration? :=
      Intent.Log.wanted?_of_find? hsnapshot.listed
    have hnow : session.wanted? kind name =
        ((start.run earlier).wishes kind name (later ++ [move])).getLast?.elim
          ((start.run earlier).wanted? kind name) Wish.registration? := by
      rw [← wanted?_run (hsound.run earlier), ← run_append, ← List.append_assoc]
    rw [agrees_iff hdemand, hnow, hthen]
    cases ((start.run earlier).wishes kind name (later ++ [move])).getLast? with
    | none => simp
    | some wish => simp [Wish.registration?_inj]

/-- While the first pass waits with another name, the registration that it is yet to push is
replaced. -/
def replacedRegistration : List Move :=
  [registering 0 "svc-b", registering 1 "svc-a"] ++ goingOnline ++
    [.call 2 (.register .agent "svc-a"
      (Agent.Registration.single { sampleEndpoint with port := 9001 })), acknowledging 1]

/-- The pass goes on to push the registration that was replaced. -/
theorem exists_outdated_request :
    let session := (opened false).run (replacedRegistration ++ [acknowledging 0])
    ∃ flight ∈ session.flights, flight ∉ ((opened false).run replacedRegistration).flights ∧
      flight.owner = .run .reconcile 0 ∧ session.agrees flight.request.demand = false := by
  intro session
  have hsent : session.flights.any (fun flight =>
      decide (2 ≤ flight.id ∧ flight.owner = .run .reconcile 0) &&
        !session.agrees flight.request.demand) = true := by decide +kernel
  have hearlier : ((opened false).run replacedRegistration).flights.all (·.id < 2) = true := by
    decide +kernel
  obtain ⟨flight, hflight, hflags⟩ := List.any_eq_true.1 hsent
  obtain ⟨hfacts, houtdated⟩ := (Bool.and_eq_true _ _).mp hflags
  obtain ⟨hid, howner⟩ := of_decide_eq_true hfacts
  refine ⟨flight, hflight, fun hold => ?_, howner, by simpa using houtdated⟩
  have hlt : flight.id < 2 := by simpa using List.all_eq_true.1 hearlier flight hold
  omega

/-- The registration was replaced after the pass had come to the log. -/
theorem pass_request_agrees_iff_replaced :
    let session := (opened false).run (replacedRegistration ++ [acknowledging 0])
    ∃ flight ∈ session.flights, flight ∉ ((opened false).run replacedRegistration).flights ∧
      flight.owner = .run .reconcile 0 ∧
      ∃ kind name entry earlier later, replacedRegistration = earlier ++ later ∧
        (opened false).Snapshot flight.owner kind (name, entry) earlier later ∧
        ¬ ((∀ wish, (((opened false).run earlier).wishes kind name
            (later ++ [acknowledging 0])).getLast? = some wish → wish = entry.wish) ∧
          session.owes kind name = true) := by
  intro session
  obtain ⟨flight, hflight, hnew, howner, houtdated⟩ := exists_outdated_request
  refine ⟨flight, hflight, hnew, howner, ?_⟩
  obtain ⟨kind, name, entry, earlier, later, hmoves, hsnapshot, -, hagrees⟩ :=
    pass_request_agrees_iff {} { isRunning := false } (.ofCapacity 16) replacedRegistration
      (acknowledging 0) flight 0 hflight hnew howner
  refine ⟨kind, name, entry, earlier, later, hmoves, hsnapshot, fun hstill => ?_⟩
  exact Bool.false_ne_true (houtdated.symm.trans (hagrees.2 hstill))

/-- So a pass can push what the log does not call for any more. -/
theorem not_forall_pass_request_agrees :
    ¬ ∀ (config : Config) (link : Link) (feed : Feed) (moves : List Move) (move : Move)
      (flight : Flight) (task : Nat),
      let start := ofConfig config link feed
      let session := start.run (moves ++ [move])
      flight ∈ session.flights → flight ∉ (start.run moves).flights →
        flight.owner = .run .reconcile task → session.agrees flight.request.demand = true := by
  intro hall
  obtain ⟨flight, hflight, hnew, howner, houtdated⟩ := exists_outdated_request
  have hagrees := hall {} { isRunning := false } (.ofCapacity 16) replacedRegistration
    (acknowledging 0) flight 0 hflight hnew howner
  exact Bool.false_ne_true (houtdated.symm.trans hagrees)

end Session

end RegistrySession
