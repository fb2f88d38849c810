import RegistrySession.Proofs.Session.Smooth

/-!
# Pushes in hand

While a run goes smoothly, every intent is pushed by its own call, and for a while the log has
something left to do that is in good hands already: the acknowledgement of the push will confirm
just what the entry wants.  As long as no pass has sent anything, what is left to push is always in
the hands of a call, and a call on its way is always about what the entry wants.
-/

namespace RegistrySession

open Intent (Operation Wish)

namespace Intent

variable {π : Type}

def Wish.intent (name : String) : Wish π → Operation π
  | .register desired => .intendRegister name desired
  | .deregister => .intendDeregister name

variable [DecidableEq π]

/-- An entry stands for the wish that was recorded last, and is not settled. -/
theorem Wish.exists_of_revise_intent (wish : Wish π) (name : String) (session : Nat)
    {entry : Option (Entry π)} (hknown : wish = .deregister → entry ≠ none) :
    ∃ found, (wish.intent name).revise session name entry = some found ∧ found.wish = wish ∧
      found.isSettled = false := by
  cases wish with
  | register desired =>
    refine ⟨_, if_pos rfl, ?_, ?_⟩
    · cases entry <;> rfl
    · cases entry with
      | none => rfl
      | some old => simp [Option.elim, Log.renew, Entry.isSettled]
  | deregister =>
    obtain ⟨old, rfl⟩ := Option.ne_none_iff_exists'.1 (hknown rfl)
    refine ⟨{ old with isUnregistering := true, isExpected := false }, ?_, rfl, ?_⟩
    · exact if_pos rfl
    · simp [Entry.isSettled]

/-- Once its wish is confirmed, an entry has nothing left to push. -/
theorem Entry.action_ne_of_revise_confirmation {kind : Kind} {name : String} {session : Nat}
    {entry found : Entry kind.Registration}
    (hfound : (entry.wish.confirmation name session).operation.revise session name (some entry) =
      some found) : found.action ≠ some .register ∧ found.action ≠ some .deregister := by
  cases hexpected : entry.isExpected with
  | true =>
    have hconfirmed : { entry with isRegistered := true } = found := by
      simpa [wish, hexpected, Wish.confirmation, Log.Confirmation.operation, Operation.revise]
        using hfound
    have hnone : found.action = none := by
      rw [action_eq_none_iff, ← hconfirmed]
      exact ⟨rfl, hexpected⟩
    rw [hnone]
    exact ⟨(Option.some_ne_none _).symm, (Option.some_ne_none _).symm⟩
  | false =>
    have hconfirmed : { entry with isRegistered := false, isUnregistering := false } = found := by
      simpa [wish, hexpected, Wish.confirmation, Log.Confirmation.operation, Operation.revise]
        using hfound
    have hremove : found.action = some .remove := by
      rw [action_eq_remove_iff, ← hconfirmed]
      simp [isSettled, hexpected]
    rw [hremove]
    exact ⟨by decide, by decide⟩

/-- Confirming what was wished for a name is nothing to the others. -/
theorem Wish.revise_confirmation_of_ne (wish : Wish π) {name other : String}
    (hname : other ≠ name) (started session : Nat) (entry : Option (Entry π)) :
    (wish.confirmation name started).operation.revise session other entry = entry := by
  cases wish with
  | register desired => exact if_neg hname
  | deregister => exact if_neg hname

theorem Wish.revise_intent_of_ne (wish : Wish π) {name other : String}
    (hname : other ≠ name) (session : Nat) (entry : Option (Entry π)) :
    (wish.intent name).revise session other entry = entry := by
  cases wish with
  | register desired => exact if_neg hname
  | deregister => exact if_neg hname

end Intent

namespace Session

variable {start session next : Session} {kind : Kind} {name : String} {move : Move}
  {flight : Flight}

/-- What is left to push for a name has one call at work on it, and whatever call is at work on the
name will confirm what its entry wants. -/
structure InHand (session : Session) (kind : Kind) (name : String) : Prop where
  serves : ∀ flight ∈ session.flights, flight.request.demand.concerns kind name = true →
    (∃ id, flight.owner = .call id) ∧
      ∃ entry, (session.log kind).find? name = some entry ∧ entry.isSettled = false ∧
        flight.errand = .confirm kind (entry.wish.confirmation name (session.log kind).session)
  waits : session.owes kind name = true →
    ∃ flight ∈ session.flights, flight.request.demand.concerns kind name = true
  single : ∀ flight ∈ session.flights, flight.request.demand.concerns kind name = true →
    ∀ other ∈ session.flights, other.request.demand.concerns kind name = true → other = flight

/-- Something is left to push just while an entry is to be registered or deregistered. -/
theorem owes_iff :
    session.owes kind name = true ↔ ∃ entry, (session.log kind).find? name = some entry ∧
      (entry.action = some .register ∨ entry.action = some .deregister) := by
  simp only [owes, Option.any_eq_true, Bool.or_eq_true, decide_eq_true_eq]

/-- Where nothing is on its way and nothing is left to do, all is in hand. -/
theorem InHand.of_free
    (hfree : ∀ flight ∈ session.flights, flight.request.demand.concerns kind name ≠ true)
    (hdone : session.owes kind name ≠ true) : session.InHand kind name where
  serves flight hflight hconcerns := absurd hconcerns (hfree flight hflight)
  waits howes := absurd howes hdone
  single flight hflight hconcerns := absurd hconcerns (hfree flight hflight)

/-- A name stays in hand while nothing happens to it, save that its entry is removed once it is
settled. -/
theorem InHand.keep (hinhand : session.InHand kind name)
    (hflights : ∀ flight, flight.request.demand.concerns kind name = true →
      (flight ∈ next.flights ↔ flight ∈ session.flights))
    (hsession : (next.log kind).session = (session.log kind).session)
    (hfind : (next.log kind).find? name = (session.log kind).find? name ∨
      (next.log kind).find? name = none ∧
        ∃ entry, (session.log kind).find? name = some entry ∧ entry.isSettled = true) :
    next.InHand kind name := by
  have hsingle : ∀ flight ∈ next.flights, flight.request.demand.concerns kind name = true →
      ∀ other ∈ next.flights, other.request.demand.concerns kind name = true →
        other = flight := by
    intro flight hflight hconcerns other hother hotherConcerns
    exact hinhand.single flight ((hflights flight hconcerns).1 hflight) hconcerns other
      ((hflights other hotherConcerns).1 hother) hotherConcerns
  rcases hfind with hsame | ⟨hgone, settled, hsettled, hrest⟩
  · refine ⟨fun flight hflight hconcerns => ?_, fun howes => ?_, hsingle⟩
    · rw [hsame, hsession]
      exact hinhand.serves flight ((hflights flight hconcerns).1 hflight) hconcerns
    · rw [owes, hsame] at howes
      obtain ⟨flight, hflight, hconcerns⟩ := hinhand.waits howes
      exact ⟨flight, (hflights flight hconcerns).2 hflight, hconcerns⟩
  · apply InHand.of_free
    · -- No call is at work on an entry that is settled.
      intro flight hflight hconcerns
      obtain ⟨-, entry, hentry, hunsettled, -⟩ :=
        hinhand.serves flight ((hflights flight hconcerns).1 hflight) hconcerns
      obtain rfl := Option.some.inj (hsettled.symm.trans hentry)
      exact absurd (hrest.symm.trans hunsettled) Bool.noConfusion
    · rw [owes, hgone]
      exact Bool.false_ne_true

/-! ## What follows the onset -/

theorem Sequel.logSession_eq (hsequel : start.Sequel session next) (kind : Kind) :
    (next.log kind).session = (session.log kind).session := by
  induction hsequel with
  | rest session => rfl
  | aside haside _ ih => rw [ih, haside.logSession]
  | @prune session last other target _ ih =>
    rw [ih]
    by_cases hkind : kind = other
    · subst hkind
      rw [log_modifyLog_self]
      exact Intent.Log.session_prune _ _
    · rw [log_modifyLog_of_ne _ _ hkind]
  | ask howner hsend => rfl
  | push other target entry confirmation remaining hentry hremaining hdemand hsend => rfl

/-- Behind the onset of a step an entry stays as it is, or is removed as settled. -/
theorem Sequel.find?_eq_or (hsequel : start.Sequel session next) (kind : Kind) (name : String) :
    (next.log kind).find? name = (session.log kind).find? name ∨
      (next.log kind).find? name = none ∧
        ∃ entry, (session.log kind).find? name = some entry ∧ entry.isSettled = true := by
  cases hentry : (session.log kind).find? name with
  | none =>
    cases hnext : (next.log kind).find? name with
    | none => exact .inl rfl
    | some entry =>
      exact absurd (hentry.symm.trans (hsequel.find?_of_find? hnext)) (Option.some_ne_none _).symm
  | some entry =>
    cases hsettled : entry.isSettled with
    | true =>
      cases hnext : (next.log kind).find? name with
      | none => exact .inr ⟨rfl, entry, rfl, hsettled⟩
      | some found => exact .inl ((hsequel.find?_of_find? hnext).symm.trans hentry)
    | false =>
      obtain ⟨found, hfound, -⟩ := hsequel.isOpen ⟨entry, hentry, hsettled⟩
      rw [hfound]
      exact .inl ((hsequel.find?_of_find? hfound).symm.trans hentry)

/-! ## What an operation keeps -/

/-- Only a loss of the session changes the number of the session of a log. -/
theorem session_modifyLog_apply {other : Kind} {operation : Operation other.Registration}
    (hkept : operation ≠ .loseSession) (kind : Kind) :
    ((session.modifyLog other fun log => log.apply operation).log kind).session =
      (session.log kind).session := by
  by_cases hkind : kind = other
  · subst hkind
    rw [log_modifyLog_self, Intent.Log.session_apply, if_neg hkept, Nat.add_zero]
  · rw [log_modifyLog_of_ne _ _ hkind]

/-- An operation that is about one name keeps the entries of all others. -/
theorem find?_modifyLog_apply_of_ne {other : Kind} {target : String}
    {operation : Operation other.Registration} (hother : ¬ (kind = other ∧ name = target))
    (hrevise : ∀ {found : String}, found ≠ target → ∀ entry,
      operation.revise (session.log other).session found entry = entry) :
    ((session.modifyLog other fun log => log.apply operation).log kind).find? name =
      (session.log kind).find? name := by
  by_cases hkind : kind = other
  · subst hkind
    rw [log_modifyLog_self, Intent.Log.find?_apply, hrevise fun hname => hother ⟨rfl, hname⟩]
  · rw [log_modifyLog_of_ne _ _ hkind]

/-! ## Calls that push -/

/-- Online a registration is pushed at once. -/
theorem register_of_isOnline (honline : session.isOnline = true) (owner : Owner)
    (registration : kind.Registration) :
    session.register owner kind name registration =
      (session.modifyLog kind fun log => log.apply (.intendRegister name registration)).send owner
        (.confirm kind (.pushed name registration (session.log kind).session))
        (.register kind name registration) := by
  have hstill : (session.modifyLog kind fun log => log.intendRegister name registration).isOnline =
      true := honline
  rw [register, if_pos hstill, log_modifyLog_self, Intent.Log.session_intendRegister]
  rfl

/-- Online a withdrawal is pushed at once. -/
theorem deregister_of_isOnline (honline : session.isOnline = true) (owner : Owner)
    (endpoint : kind.Endpoint) {entry : Intent.Entry kind.Registration}
    (hentry : (session.log kind).find? name = some entry) :
    session.deregister owner kind name endpoint =
      (session.modifyLog kind fun log => log.apply (.intendDeregister name)).send owner
        (.confirm kind (.withdrawn name (session.log kind).session))
        (.withdraw kind name endpoint) := by
  rw [session.deregister_of_find? owner endpoint hentry]
  exact if_pos honline

/-- Online, a call that asks for a request records its wish and sends the request. -/
theorem exists_of_asks? (honline : session.isOnline = true) {demand : Demand}
    (hasks : session.asks? move = some demand) :
    ∃ (id : Nat) (call : Call) (kind : Kind) (name : String) (wish : Wish kind.Registration),
      move = .call id call ∧ call.target? = some (kind, name) ∧
      demand.concerns kind name = true ∧
      (wish = .deregister → (session.log kind).find? name ≠ none) ∧
      session.step move =
        (session.modifyLog kind fun log => log.apply (wish.intent name)).send (.call id)
          (.confirm kind (wish.confirmation name (session.log kind).session)) demand := by
  cases move with
  | call id call =>
    cases hcheck : session.check call with
    | error error =>
      rw [asks?, hcheck] at hasks
      exact absurd hasks (Option.some_ne_none _).symm
    | ok _ =>
      have hstep : session.step (.call id call) = session.perform (.call id) call := by
        rw [step, Session.call, hcheck]
      rw [asks?_of_check hcheck] at hasks
      cases call with
      | register kind name registration =>
        obtain rfl := Option.some.inj hasks
        refine ⟨id, _, kind, name, .register registration, rfl, rfl,
          Demand.concerns_register kind name registration, ?_, ?_⟩
        · rintro ⟨⟩
        · rw [hstep]
          exact register_of_isOnline honline (.call id) registration
      | deregisterAgent name endpoint =>
        obtain ⟨entry, hentry, rfl⟩ := Option.map_eq_some_iff.1 hasks
        refine ⟨id, _, .agent, name, .deregister, rfl, rfl,
          Demand.concerns_withdraw .agent name endpoint, fun _ => ?_, ?_⟩
        · rw [hentry]
          exact Option.some_ne_none entry
        · rw [hstep]
          exact deregister_of_isOnline honline (.call id) endpoint hentry
      | deregisterMcp name address port =>
        obtain ⟨entry, hentry, rfl⟩ := Option.map_eq_some_iff.1 hasks
        refine ⟨id, _, .mcp, name, .deregister, rfl, rfl,
          Demand.concerns_withdraw .mcp name _, fun _ => ?_, ?_⟩
        · rw [hentry]
          exact Option.some_ne_none entry
        · rw [hstep]
          exact deregister_of_isOnline honline (.call id) _ hentry
      | _ => exact absurd hasks (Option.some_ne_none _).symm
  | _ => exact absurd hasks (Option.some_ne_none _).symm

/-- No call for the name is on its way when a call is permitted. -/
theorem not_concerns_of_permits (hinhand : session.InHand kind name) {id : Nat} {call : Call}
    (hpermits : session.permits (.call id call) = true)
    (htarget : call.target? = some (kind, name)) (hflight : flight ∈ session.flights) :
    flight.request.demand.concerns kind name ≠ true := by
  intro hconcerns
  obtain ⟨⟨caller, howner⟩, -⟩ := hinhand.serves flight hflight hconcerns
  rw [permits, htarget, Option.all_some] at hpermits
  have hidle := List.all_eq_true.1 hpermits flight hflight
  rw [howner, hconcerns] at hidle
  exact absurd hidle Bool.false_ne_true

/-- The call that records a wish has its push in hand. -/
theorem InHand.asks (hinhand : ∀ kind name, session.InHand kind name)
    (honline : session.isOnline = true) (hpermits : session.permits move = true) {demand : Demand}
    (hasks : session.asks? move = some demand) (kind : Kind) (name : String) :
    (session.step move).InHand kind name := by
  obtain ⟨id, call, other, target, wish, rfl, htarget, hconcerns, hknown, hstep⟩ :=
    exists_of_asks? honline hasks
  have hfree : ∀ flight ∈ session.flights, flight.request.demand.concerns other target ≠ true :=
    fun flight => not_concerns_of_permits (hinhand other target) hpermits htarget
  have hkept : wish.intent target ≠ .loseSession := by cases wish <;> exact nofun
  rw [hstep]
  by_cases hsame : kind = other ∧ name = target
  · obtain ⟨rfl, rfl⟩ := hsame
    obtain ⟨entry, hentry, hwish, hunsettled⟩ :=
      wish.exists_of_revise_intent name (session.log kind).session hknown
    -- The new flight is the only one for the name.
    constructor
    case serves =>
      intro flight hflight hown
      rcases List.mem_append.1 hflight with hold | hnew
      · exact absurd hown (hfree flight hold)
      · obtain rfl := List.mem_singleton.1 hnew
        refine ⟨⟨id, rfl⟩, entry, ?_, hunsettled, ?_⟩
        · rw [log_send, log_modifyLog_self, Intent.Log.find?_apply, hentry]
        · rw [log_send, session_modifyLog_apply hkept, hwish]
    case waits =>
      exact fun _ => ⟨_, List.mem_append_right _ (List.mem_singleton_self _), hconcerns⟩
    case single =>
      intro flight hflight hown found hfound hfoundOwn
      rcases List.mem_append.1 hflight with hold | hnew
      · exact absurd hown (hfree flight hold)
      · rcases List.mem_append.1 hfound with hold | hfoundNew
        · exact absurd hfoundOwn (hfree found hold)
        · rw [List.mem_singleton.1 hnew, List.mem_singleton.1 hfoundNew]
  · refine (hinhand kind name).keep (fun flight hown => ?_) ?_ (.inl ?_)
    · constructor
      · intro hflight
        rcases List.mem_append.1 hflight with hold | hnew
        · exact hold
        · obtain rfl := List.mem_singleton.1 hnew
          exact absurd (Demand.eq_of_concerns hconcerns hown) hsame
      · exact fun hflight => List.mem_append_left _ hflight
    · rw [log_send, session_modifyLog_apply hkept]
    · rw [log_send]
      exact find?_modifyLog_apply_of_ne hsame fun hname => wish.revise_intent_of_ne hname _

/-! ## Acknowledgements -/

/-- The acknowledgement of the push of a call confirms, and ends the call. -/
theorem step_acknowledged (hnumbered : session.Numbered) (hflight : flight ∈ session.flights)
    (hendpoint : flight.request.demand.isEndpointDemand = true)
    (hdue : session.now ≤ flight.deadline) {id : Nat} (howner : flight.owner = .call id)
    {confirmation : Intent.Log.Confirmation kind.Registration}
    (herrand : flight.errand = .confirm kind confirmation) :
    session.step (.reply flight.id (.response .acknowledged)) =
      ((session.land flight.id .acknowledgement).confirm kind confirmation).conclude (.call id)
        (.done .nothing) := by
  have hfound := hnumbered.flight?_eq_some hflight
  have hconclude : flight.request.demand.conclude (.reply (.response .acknowledged)) =
      .done .nothing := Demand.conclude_acknowledgement hendpoint
  rw [step, reply, hfound]
  simp only
  rw [if_pos hdue, arrive, hfound]
  simp only [resume, herrand, howner, hconclude]
  rfl

/-- The acknowledgement of a push confirms what its entry wants, and nothing is left to do. -/
theorem InHand.acknowledge (hinhand : ∀ kind name, session.InHand kind name)
    (hnumbered : session.Numbered) (hflight : flight ∈ session.flights)
    (hendpoint : flight.request.demand.isEndpointDemand = true)
    (hdue : session.now ≤ flight.deadline) (kind : Kind) (name : String) :
    (session.step (.reply flight.id (.response .acknowledged))).InHand kind name := by
  obtain ⟨other, target, hconcerns⟩ := Demand.exists_concerns hendpoint
  obtain ⟨⟨id, howner⟩, entry, hentry, hunsettled, herrand⟩ :=
    (hinhand other target).serves flight hflight hconcerns
  rw [step_acknowledged hnumbered hflight hendpoint hdue howner herrand]
  let landed := session.land flight.id .acknowledgement
  let confirmation := entry.wish.confirmation target (session.log other).session
  have hflights : ∀ found, found ∈ (landed.confirm other confirmation).flights ↔
      found ∈ session.flights ∧ found.id ≠ flight.id := by
    intro found
    exact List.mem_filter.trans (and_congr_right fun _ => decide_eq_true_iff)
  have hlog : ∀ kind, ((landed.confirm other confirmation).conclude (.call id)
      (.done .nothing)).log kind =
      (landed.modifyLog other fun log => log.apply confirmation.operation).log kind := by
    intro kind
    rw [← confirm_eq_apply]
    rfl
  have hkept : confirmation.operation ≠ .loseSession := by
    cases confirmation <;> exact nofun
  by_cases hsame : kind = other ∧ name = target
  · obtain ⟨rfl, rfl⟩ := hsame
    apply InHand.of_free
    · intro found hfoundIn hown
      obtain ⟨hfoundOld, hid⟩ := (hflights found).1 hfoundIn
      have honly := (hinhand kind name).single flight hflight hconcerns found hfoundOld hown
      exact hid (congrArg Flight.id honly)
    · intro howes
      obtain ⟨confirmed, hconfirmed, haction⟩ := owes_iff.1 howes
      rw [hlog, log_modifyLog_self, Intent.Log.find?_apply, log_land, hentry] at hconfirmed
      obtain ⟨hregister, hderegister⟩ := Intent.Entry.action_ne_of_revise_confirmation hconfirmed
      exact haction.elim hregister hderegister
  · refine (hinhand kind name).keep (fun found hown => ?_) ?_ (.inl ?_)
    · refine (hflights found).trans ⟨And.left, fun hfoundOld => ⟨hfoundOld, fun hid => hsame ?_⟩⟩
      rw [hnumbered.unique flight hflight found hfoundOld hid] at hown
      exact Demand.eq_of_concerns hconcerns hown
    · rw [hlog, session_modifyLog_apply hkept]
      exact congrArg Intent.Log.session (session.log_land flight.id _ kind)
    · rw [hlog, find?_modifyLog_apply_of_ne hsame fun hname =>
        entry.wish.revise_confirmation_of_ne hname _ _]
      exact congrArg (Intent.Log.find? · name) (session.log_land flight.id _ kind)

/-! ## Every other step -/

/-- What is taken off the feed without the session going offline leaves the logs alone. -/
theorem aside_receive (honline : session.receive.isOnline = true) :
    session.Aside session.receive := by
  rw [receive] at honline ⊢
  cases hwatching : session.isWatching with
  | false => exact .refl session
  | true =>
    rw [hwatching] at honline
    cases hreceive : session.feed.receive? with
    | none => exact .refl session
    | some taken =>
      rw [hreceive] at honline
      obtain ⟨received, feed⟩ := taken
      let taken : Session :=
        { session with
          feed
          ledger := session.ledger.observeReceived received
          isWatching := received ≠ Received.closed }
      change (taken.note (.observed received)).isOnline = true at honline
      change session.Aside (taken.note (.observed received))
      have hsound : received.isLoss = false ∧
          (session.ledger.observeReceived received).logs = session.ledger.logs := by
        rcases received with ⟨_ | _⟩ | _ | _
        case event.connected => exact ⟨rfl, rfl⟩
        case closed => exact ⟨rfl, rfl⟩
        case event.disconnected => exact absurd honline Bool.false_ne_true
        case lagged => exact absurd honline Bool.false_ne_true
      have haside : session.Aside taken := .of_eq hsound.2 (fun _ h => h) rfl rfl rfl
      exact haside.trans (Aside.note taken rfl hsound.1)

/-- A push on its way is acknowledged in time. -/
def IsAcknowledged (session : Session) (move : Move) : Prop :=
  ∃ flight ∈ session.flights, flight.request.demand.isEndpointDemand = true ∧
    session.now ≤ flight.deadline ∧ move = .reply flight.id (.response .acknowledged)

/-- A move brings nothing by itself that asks for no request, acknowledges none and takes nothing
off the feed. -/
theorem Onset.eq_of_quiet (honset : session.Onset move next) (hsound : session.Sound)
    (hasks : session.asks? move = none) (hreceive : move ≠ .receive)
    (hquiet : ¬ session.IsAcknowledged move) : next = session := by
  cases honset with
  | rest => rfl
  | lose hmove => exact absurd hmove hreceive
  | confirm flight hflight other confirmation hconfirms hmove hdue =>
    have hendpoint := ((hsound.fits flight hflight).answers hconfirms).isEndpointDemand
    exact absurd ⟨flight, hflight, hendpoint, hdue, hmove⟩ hquiet
  | intend other operation hintent hspontaneous =>
    cases move with
    | call id call =>
      cases hcheck : session.check call with
      | error error =>
        rw [intent?, hcheck] at hintent
        exact absurd hintent (Option.some_ne_none _).symm
      | ok _ =>
        rw [intent?_of_check hcheck] at hintent
        rw [asks?_of_check hcheck] at hasks
        -- Only a deregistration of what has no entry is left.
        cases call with
        | register => exact absurd hasks (Option.some_ne_none _)
        | deregisterAgent target endpoint =>
          cases other with
          | mcp => exact absurd hintent (Option.some_ne_none _).symm
          | agent =>
            obtain rfl := Option.some.inj hintent
            exact modifyLog_intendDeregister_of_absent (Option.map_eq_none_iff.1 hasks)
        | deregisterMcp target address port =>
          cases other with
          | agent => exact absurd hintent (Option.some_ne_none _).symm
          | mcp =>
            obtain rfl := Option.some.inj hintent
            exact modifyLog_intendDeregister_of_absent (Option.map_eq_none_iff.1 hasks)
        | _ => cases other <;> exact absurd hintent (Option.some_ne_none _).symm
    | _ => exact absurd hintent (Option.some_ne_none _).symm

/-- While the run goes smoothly, a call waits until its push is acknowledged. -/
theorem InHand.mem_flights_step (hinhand : session.InHand kind name)
    (hnumbered : session.Numbered) (hpermits : session.permits move = true)
    (hquiet : ¬ session.IsAcknowledged move) (hflight : flight ∈ session.flights)
    (hconcerns : flight.request.demand.concerns kind name = true) :
    flight ∈ (session.step move).flights := by
  have hendpoint := Demand.isEndpointDemand_of_concerns hconcerns
  have hfound := hnumbered.flight?_eq_some hflight
  obtain ⟨⟨id, howner⟩, -⟩ := hinhand.serves flight hflight hconcerns
  rcases Session.mem_flights_step hflight howner move with hkept | ⟨reply, rfl⟩ | rfl
  · exact hkept
  · rw [permits, hfound, Option.all_some, hendpoint] at hpermits
    obtain rfl := Reply.eq_of_isAcknowledgement hpermits
    by_cases hdue : session.now ≤ flight.deadline
    · exact absurd ⟨flight, hflight, hendpoint, hdue, rfl⟩ hquiet
    · rw [step, Session.reply, hfound]
      simp only
      rwa [if_neg hdue]
  · rw [permits, hfound, Option.all_some, hendpoint] at hpermits
    have hlate : ¬ flight.deadline ≤ session.now := Nat.not_le.2 (of_decide_eq_true hpermits)
    rw [step, expire, hfound]
    simp only
    rwa [if_neg hlate]

/-- Everything stays in hand, as long as no pass sends anything. -/
theorem InHand.step (hinhand : ∀ kind name, session.InHand kind name) (hsound : session.Sound)
    (hnumbered : session.Numbered) (honline : session.isOnline = true)
    (hnext : (session.step move).isOnline = true) (hpermits : session.permits move = true)
    (hidle : ∀ flight task, session.Sends move flight → flight.owner ≠ .run .reconcile task)
    (kind : Kind) (name : String) : (session.step move).InHand kind name := by
  cases hasks : session.asks? move with
  | some demand => exact InHand.asks hinhand honline hpermits hasks kind name
  | none =>
    by_cases hreceive : move = .receive
    · subst hreceive
      have haside := aside_receive hnext
      refine (hinhand kind name).keep (fun flight _ => ?_) (haside.logSession kind)
        (.inl (haside.find? kind name))
      rw [Session.step, flights_receive]
    by_cases hacknowledged : session.IsAcknowledged move
    · obtain ⟨flight, hflight, hendpoint, hdue, rfl⟩ := hacknowledged
      exact InHand.acknowledge hinhand hnumbered hflight hendpoint hdue kind name
    · obtain ⟨middle, honset, hsequel⟩ := hsound.step_course move
      obtain rfl := honset.eq_of_quiet hsound hasks hreceive hacknowledged
      refine (hinhand kind name).keep (fun flight hconcerns => ⟨fun hsent => ?_, ?_⟩)
        (hsequel.logSession_eq kind) (hsequel.find?_eq_or kind name)
      · by_contra hnew
        have hsends : middle.Sends move flight := ⟨hsent, hnew⟩
        cases hsends.pushes hsound (Demand.isEndpointDemand_of_concerns hconcerns) with
        | called id call hmove howner hcheck honline hpush =>
          rw [hmove, asks?_of_check hcheck, hpush] at hasks
          exact absurd hasks (Option.some_ne_none _)
        | passed task other target entry howner => exact hidle flight task hsends howner
      · exact fun hflight =>
          (hinhand kind name).mem_flights_step hnumbered hpermits hacknowledged hflight hconcerns

end Session

end RegistrySession
