import RegistrySession.Proofs.Session.InHand
import RegistrySession.Proofs.Session.Origin

/-!
# Pushed once

While a run goes smoothly, every intent is pushed by its own call.  A pass pushes it once more if it
begins before the acknowledgement, for the log does not tell what is being pushed from what is yet
to be.  So each intent is pushed exactly once just if no pass begins while a push is on its way that
has something to confirm.
-/

namespace RegistrySession.Session

variable {start session : Session} {kind : Kind} {name : String} {move : Move} {flight : Flight}

/-- All endpoint requests sent so far, the first to be sent first. -/
def pushed (session : Session) : List Demand :=
  session.requested.filter Demand.isEndpointDemand

/-- The endpoint requests for the intents that a run records, one for each. -/
def asked (session : Session) : List Move → List Demand
  | [] => []
  | move :: moves => (session.asks? move).toList ++ (session.step move).asked moves

/-- The request registers just what the log has confirmed. -/
def repeats (session : Session) : Demand → Bool
  | .register kind name registration =>
    ((session.log kind).find? name).any fun entry =>
      entry.action = none && entry.desired = registration
  | _ => false

def beginsPass (session : Session) : Bool :=
  session.reconciler.start?.any fun started => started.2.isSome

/-- No pass sends anything in a run. -/
def LeftToCalls (start : Session) (moves : List Move) : Prop :=
  ∀ earlier move, earlier ++ [move] <+: moves →
    ∀ flight task, (start.run earlier).Sends move flight → flight.owner ≠ .run .reconcile task

theorem asked_append (session : Session) (earlier later : List Move) :
    session.asked (earlier ++ later) =
      session.asked earlier ++ (session.run earlier).asked later := by
  induction earlier generalizing session with
  | nil => rfl
  | cons move earlier ih =>
    rw [List.cons_append, asked, asked, ih, List.append_assoc]
    rfl

theorem LeftToCalls.of_prefix {earlier moves : List Move} (hleft : start.LeftToCalls moves)
    (hinitial : earlier <+: moves) : start.LeftToCalls earlier :=
  fun sooner move hsooner => hleft sooner move (hsooner.trans hinitial)

theorem LeftToCalls.snoc {moves : List Move} (hleft : start.LeftToCalls moves)
    (hidle : ∀ flight task, (start.run moves).Sends move flight →
      flight.owner ≠ .run .reconcile task) : start.LeftToCalls (moves ++ [move]) := by
  intro earlier last hinitial
  rcases List.prefix_concat_iff.1 hinitial with hwhole | hbefore
  · obtain ⟨rfl, hlast⟩ := List.append_inj' hwhole rfl
    obtain rfl := List.singleton_inj.1 hlast
    exact hidle
  · exact hleft earlier last hbefore

/-- Nothing that is on its way was sent by a pass. -/
theorem LeftToCalls.owner_ne (hstart : start.flights = []) {moves : List Move}
    (hleft : start.LeftToCalls moves) (hflight : flight ∈ (start.run moves).flights) (task : Nat) :
    flight.owner ≠ .run .reconcile task := by
  obtain ⟨earlier, move, later, rfl, hsends⟩ := exists_sent hstart hflight
  exact hleft earlier move ⟨later, List.append_assoc _ _ _⟩ flight task hsends

/-! ## What is sent in a step -/

theorem requested_of_asks? (honline : session.isOnline = true) {demand : Demand}
    (hasks : session.asks? move = some demand) :
    (session.step move).requested = session.requested ++ [demand] := by
  obtain ⟨id, call, kind, name, wish, -, -, -, -, hstep⟩ := exists_of_asks? honline hasks
  rw [hstep]
  exact requested_note _ _

/-- What a call asks for is an endpoint request. -/
theorem isEndpointDemand_of_asks? (honline : session.isOnline = true) {demand : Demand}
    (hasks : session.asks? move = some demand) : demand.isEndpointDemand = true := by
  obtain ⟨id, call, kind, name, wish, -, -, hconcerns, -, -⟩ := exists_of_asks? honline hasks
  exact Demand.isEndpointDemand_of_concerns hconcerns

/-- What a call asks for, no pass sends. -/
theorem owner_ne_of_asks? (honline : session.isOnline = true) {demand : Demand}
    (hasks : session.asks? move = some demand) (hsends : session.Sends move flight) (task : Nat) :
    flight.owner ≠ .run .reconcile task := by
  obtain ⟨id, call, kind, name, wish, -, -, -, -, hstep⟩ := exists_of_asks? honline hasks
  have hsent := hsends.sent
  rw [hstep] at hsent
  rw [((mem_flights_send hsent).resolve_left hsends.new).1]
  exact Owner.call_ne_run id .reconcile task

/-- Online, a step pushes what a call asks for, if there is one, or else what a pass sends. -/
theorem pushed_step (hsound : session.Sound) (hnumbered : session.Numbered)
    (honline : session.isOnline = true) (move : Move) :
    (session.step move).pushed = session.pushed ++ (session.asks? move).toList ∧
        (∀ flight task, session.Sends move flight → flight.owner ≠ .run .reconcile task) ∨
      session.asks? move = none ∧ ∃ flight task, session.Sends move flight ∧
        flight.owner = .run .reconcile task ∧
        (session.step move).pushed = session.pushed ++ [flight.request.demand] := by
  cases hasks : session.asks? move with
  | some demand =>
    refine .inl ⟨?_, fun flight task hsends => owner_ne_of_asks? honline hasks hsends task⟩
    rw [pushed, requested_of_asks? honline hasks, List.filter_append,
      List.filter_singleton, isEndpointDemand_of_asks? honline hasks]
    rfl
  | none =>
    rcases hsound.step_requested hnumbered move with ⟨hsame, hnone⟩ | ⟨flight, hsends, honly, hnew⟩
    · refine .inl ⟨?_, fun flight task hsends => absurd hsends (hnone flight)⟩
      rw [pushed, hsame]
      exact (List.append_nil _).symm
    · cases hendpoint : flight.request.demand.isEndpointDemand with
      | true =>
        cases hsends.pushes hsound hendpoint with
        | called id call hmove howner hcheck hstill hpush =>
          rw [hmove, asks?_of_check hcheck, hpush] at hasks
          exact absurd hasks (Option.some_ne_none _)
        | passed task kind name entry howner =>
          refine .inr ⟨rfl, flight, task, hsends, howner, ?_⟩
          rw [pushed, hnew, List.filter_append, List.filter_singleton, hendpoint]
          rfl
      | false =>
        refine .inl ⟨?_, fun other task hother howner => ?_⟩
        · rw [pushed, hnew, List.filter_append, List.filter_singleton, hendpoint]
          rfl
        · have hpass := hother.isEndpointDemand_of_pass hsound howner
          rw [honly other hother, hendpoint] at hpass
          exact Bool.false_ne_true hpass

/-! ## What is sent in a run -/

/-- Each intent is pushed at least once. -/
theorem asked_sublist (hsound : session.Sound) (hnumbered : session.Numbered) {moves : List Move}
    (hsmooth : session.goesSmoothly moves = true) :
    (session.pushed ++ session.asked moves).Sublist (session.run moves).pushed := by
  induction moves generalizing session with
  | nil =>
    rw [asked, List.append_nil]
    exact List.Sublist.refl _
  | cons move moves ih =>
    obtain ⟨honline, -, hrest⟩ := goesSmoothly_cons_iff.1 hsmooth
    have hprogress := hsound.step_progress move
    have hlater := ih (hprogress.sound hsound) (hprogress.numbered hnumbered) hrest
    have hstep : (session.pushed ++ (session.asks? move).toList).Sublist
        (session.step move).pushed := by
      rcases pushed_step hsound hnumbered honline move with ⟨heq, -⟩ | ⟨hnone, flight, _, -, -, heq⟩
      · rw [heq]
      · rw [heq, hnone, Option.toList_none, List.append_nil]
        exact List.sublist_append_left _ _
    rw [asked, ← List.append_assoc]
    exact (hstep.append_right _).trans hlater

theorem pushed_run (hsound : start.Sound) (hnumbered : start.Numbered) {moves : List Move}
    (hsmooth : start.goesSmoothly moves = true) (hleft : start.LeftToCalls moves) :
    (start.run moves).pushed = start.pushed ++ start.asked moves := by
  induction moves using List.reverseRecOn with
  | nil => exact (List.append_nil _).symm
  | append_singleton moves move ih =>
    obtain ⟨hbefore, hstep⟩ := goesSmoothly_append_iff.1 hsmooth
    have honline := (goesSmoothly_cons_iff.1 hstep).1
    rcases pushed_step (hsound.run moves) (hnumbered.run hsound moves) honline move with
      ⟨heq, -⟩ | ⟨-, flight, task, hsends, howner, -⟩
    · rw [run_snoc, heq, ih hbefore (hleft.of_prefix (List.prefix_append _ _)), asked_append,
        asked, asked, List.append_nil, List.append_assoc]
    · exact absurd howner (hleft moves move (List.prefix_refl _) flight task hsends)

/-- Each intent is pushed just once if no pass sends anything, and only then. -/
theorem pushed_run_iff (hsound : start.Sound) (hnumbered : start.Numbered) {moves : List Move}
    (hsmooth : start.goesSmoothly moves = true) :
    (start.run moves).pushed = start.pushed ++ start.asked moves ↔ start.LeftToCalls moves := by
  refine ⟨fun heq earlier move hinitial flight task hsends howner => ?_,
    pushed_run hsound hnumbered hsmooth⟩
  obtain ⟨later, rfl⟩ := hinitial
  obtain ⟨hupTo, hafter⟩ := goesSmoothly_append_iff.1 hsmooth
  obtain ⟨hbefore, hstep⟩ := goesSmoothly_append_iff.1 hupTo
  have honline := (goesSmoothly_cons_iff.1 hstep).1
  have hsoundThen := hsound.run earlier
  have hnumberedThen := hnumbered.run hsound earlier
  rcases pushed_step hsoundThen hnumberedThen honline move with
    ⟨-, hidle⟩ | ⟨hnone, sent, -, -, -, hpushed⟩
  · exact hidle flight task hsends howner
  · -- One request too many in this step is never made up for.
    have hfirst := (asked_sublist hsound hnumbered hbefore).length_le
    have hlast := (asked_sublist (hsound.run (earlier ++ [move]))
      (hnumbered.run hsound (earlier ++ [move])) hafter).length_le
    have htotal := congrArg List.length heq
    rw [run_append, List.length_append, asked_append, asked_append, asked, asked, hnone] at htotal
    rw [run_snoc, hpushed, ← run_snoc] at hlast
    simp only [List.length_append, Option.toList_none, List.length_nil, List.length_singleton]
      at htotal hfirst hlast
    omega

/-! ## Passes that begin -/

/-- A pass through one log sends a request for the first entry that calls for one, and goes on
behind the log if there is none. -/
theorem reconcileLog_cases (owner : Owner) {next : Session → Session}
    {remaining : List (String × Intent.Entry kind.Registration)}
    (hremaining : Withdrawable remaining) (session : Session) :
    (∃ flight ∈ (reconcileLog owner kind true next remaining session).flights,
      flight.owner = owner ∧ flight.id = session.nextFlight) ∨
      (∀ entry ∈ remaining, entry.2.demand? kind entry.1 = none) ∧
        ∃ last, reconcileLog owner kind true next remaining session = next last ∧
          (∀ other, other ≠ kind → last.log other = session.log other) ∧
          last.nextFlight = session.nextFlight := by
  have hsend : ∀ (session : Session) errand demand,
      ∃ flight ∈ (session.send owner errand demand).flights,
        flight.owner = owner ∧ flight.id = session.nextFlight :=
    fun session errand demand =>
      ⟨_, List.mem_append_right _ (List.mem_singleton_self _), rfl, rfl⟩
  induction remaining generalizing session with
  | nil => exact .inr ⟨fun _ h => absurd h List.not_mem_nil, session, rfl, fun _ _ => rfl, rfl⟩
  | cons head remaining ih =>
    obtain ⟨name, entry⟩ := head
    obtain ⟨hhead, hrest⟩ := List.forall_mem_cons.1 hremaining
    rw [reconcileLog]
    cases haction : entry.action with
    | none =>
      refine (ih hrest session).imp_right (And.imp_left fun hnone => ?_)
      exact List.forall_mem_cons.2 ⟨by simp only [Intent.Entry.demand?, haction], hnone⟩
    | some action =>
      cases action with
      | remove =>
        rcases ih hrest (session.modifyLog kind fun log => (log.prune name).1) with
          hsends | ⟨hnone, last, heq, hothers, hid⟩
        · exact .inl hsends
        · refine .inr ⟨?_, last, heq, fun other hother => ?_, hid⟩
          · exact List.forall_mem_cons.2 ⟨by simp only [Intent.Entry.demand?, haction], hnone⟩
          · rw [hothers other hother, log_modifyLog_of_ne _ _ hother]
      | register => exact .inl (hsend _ _ _)
      | deregister =>
        obtain ⟨endpoint, hprimary⟩ := Option.isSome_iff_exists.1 hhead
        simp only [hprimary]
        exact .inl (hsend _ _ _)

/-- What is left to push for a name is the request that its entry calls for. -/
theorem owes_iff_exists_demand? (hsound : session.Sound) :
    session.owes kind name = true ↔ ∃ entry, (session.log kind).find? name = some entry ∧
      ∃ demand, entry.demand? kind name = some demand := by
  rw [owes_iff]
  refine exists_congr fun entry => and_congr_right fun hentry => ?_
  obtain ⟨endpoint, hprimary⟩ :=
    Option.isSome_iff_exists.1 (hsound.withdrawable kind name entry hentry)
  rw [Intent.Entry.demand?]
  cases entry.action with
  | none => simp
  | some action =>
    cases action with
    | register => simp
    | deregister => simp [hprimary]
    | remove => simp

/-- A pass that begins online sends at once, if anything is left to push. -/
theorem exists_sent_startReconcile (hsound : session.Sound) (honline : session.isOnline = true)
    (howes : session.owes kind name = true) (owner : Owner) :
    ∃ flight ∈ (session.startReconcile owner).flights,
      flight.owner = owner ∧ flight.id = session.nextFlight := by
  obtain ⟨entry, hentry, demand, hdemand⟩ := (owes_iff_exists_demand? hsound).1 howes
  obtain ⟨found, hfound, haction⟩ := owes_iff.1 howes
  obtain rfl := Option.some.inj (hentry.symm.trans hfound)
  -- The entry that calls for a request is listed.
  have hlisted : (name, entry) ∈ (session.log kind).pending := by
    refine List.mem_filter.2 ⟨(Table.mem_entries_iff _ _ _).2 hentry, ?_⟩
    rcases haction with h | h
    · rw [h]
      rfl
    · rw [h]
      rfl
  rw [startReconcile, honline]
  rcases reconcileLog_cases owner (hsound.pending .agent) session with
    hsends | ⟨hagents, last, heq, hothers, hid⟩
  · exact hsends
  · rw [heq, reconcileAfter, hothers .mcp (by decide)]
    rcases reconcileLog_cases owner (hsound.pending .mcp) last with hsends | ⟨hservers, -⟩
    · rwa [hid] at hsends
    · -- Neither log has anything that calls for a request.
      have hnone : entry.demand? kind name = none := by
        cases kind with
        | agent => exact hagents _ hlisted
        | mcp => exact hservers _ hlisted
      exact absurd (hnone.symm.trans hdemand) (Option.some_ne_none _).symm

theorem exists_sends_of_beginsPass (hsound : session.Sound) (hnumbered : session.Numbered)
    (honline : session.isOnline = true) (hbegins : session.beginsPass = true)
    (howes : session.owes kind name = true) :
    ∃ flight task, session.Sends (.start .reconcile) flight ∧
      flight.owner = .run .reconcile task := by
  obtain ⟨⟨reconciler, started⟩, hstart, hstarted⟩ := (Option.any_eq_true _ _).1 hbegins
  obtain ⟨task, rfl⟩ := Option.isSome_iff_exists.1 hstarted
  let ready : Session := { session with reconciler }
  have haside : session.Aside ready := .of_eq rfl (fun _ h => h) rfl rfl rfl
  obtain ⟨flight, hflight, howner, hid⟩ := exists_sent_startReconcile (haside.sound hsound) honline
    howes (.run .reconcile task.id)
  refine ⟨flight, task.id, ⟨?_, fun hold => ?_⟩, howner⟩
  · rw [step, Session.start, hstart]
    exact hflight
  · exact Nat.ne_of_lt (hnumbered.fresh flight hold) hid

/-- A pass that sends something begins with its start. -/
theorem beginsPass_of_sends (hsends : session.Sends (.start .reconcile) flight) :
    session.beginsPass = true := by
  by_contra hnot
  have hsent := hsends.sent
  rw [step, Session.start] at hsent
  rw [beginsPass] at hnot
  cases hstart : session.reconciler.start? with
  | none =>
    rw [hstart] at hsent
    exact hsends.new hsent
  | some found =>
    obtain ⟨reconciler, started⟩ := found
    rw [hstart] at hsent hnot
    cases started with
    | none => exact hsends.new hsent
    | some task => exact hnot rfl

/-! ## Pushes that a pass repeats -/

/-- A call at work on a name has something to confirm, unless it repeats what is confirmed. -/
theorem InHand.owes_or_repeats (hinhand : session.InHand kind name) (hsound : session.Sound)
    (hflight : flight ∈ session.flights)
    (hconcerns : flight.request.demand.concerns kind name = true) :
    session.owes kind name = true ∨ session.repeats flight.request.demand = true := by
  obtain ⟨-, entry, hentry, hunsettled, herrand⟩ := hinhand.serves flight hflight hconcerns
  cases haction : entry.action with
  | some action =>
    refine .inl (owes_iff.2 ⟨entry, hentry, ?_⟩)
    cases action with
    | register => exact .inl haction
    | deregister => exact .inr haction
    | remove =>
      have hsettled := (Intent.Entry.action_eq_remove_iff entry).1 haction
      exact absurd (hsettled.symm.trans hunsettled) Bool.noConfusion
  | none =>
    have hexpected := ((Intent.Entry.action_eq_none_iff entry).1 haction).2
    have hfits := hsound.fits flight hflight
    rw [herrand, Intent.Entry.wish, if_pos hexpected] at hfits
    have hdemand : flight.request.demand = .register kind name entry.desired := hfits.1
    refine .inr ?_
    rw [hdemand, repeats, hentry, Option.any_some, haction, decide_eq_true rfl]
    exact decide_eq_true rfl

/-- Where a request repeats what is confirmed, nothing is left to push. -/
theorem not_owes_of_repeats {demand : Demand} (hconcerns : demand.concerns kind name = true)
    (hrepeats : session.repeats demand = true) : session.owes kind name ≠ true := by
  intro howes
  obtain ⟨entry, hentry, haction⟩ := owes_iff.1 howes
  rcases Demand.concerns_iff.1 hconcerns with ⟨registration, rfl⟩ | ⟨endpoint, rfl⟩
  · rw [repeats, hentry, Option.any_some, Bool.and_eq_true, decide_eq_true_eq] at hrepeats
    rw [hrepeats.1] at haction
    exact haction.elim (absurd · (Option.some_ne_none _).symm)
      (absurd · (Option.some_ne_none _).symm)
  · exact Bool.false_ne_true hrepeats

/-! ## Runs -/

/-- As long as no pass sends anything, everything is in hand. -/
theorem LeftToCalls.inHand {config : Config} {link : Link} {feed : Feed} {moves : List Move}
    (hleft : (ofConfig config link feed).LeftToCalls moves)
    (hsmooth : (ofConfig config link feed).goesSmoothly moves = true) (kind : Kind)
    (name : String) : ((ofConfig config link feed).run moves).InHand kind name := by
  have hstart := sound_ofConfig config link feed
  induction moves using List.reverseRecOn generalizing kind name with
  | nil =>
    refine .of_free (fun flight hflight => absurd hflight List.not_mem_nil) fun howes => ?_
    obtain ⟨entry, hentry, -⟩ := owes_iff.1 howes
    exact absurd (hentry.symm.trans (find?_ofConfig config link feed kind name))
      (Option.some_ne_none _)
  | append_singleton moves move ih =>
    obtain ⟨hbefore, hstep⟩ := goesSmoothly_append_iff.1 hsmooth
    obtain ⟨honline, hpermits, hnext⟩ := goesSmoothly_cons_iff.1 hstep
    rw [run_snoc]
    exact InHand.step (ih (hleft.of_prefix (List.prefix_append _ _)) hbefore) (hstart.run moves)
      ((numbered_ofConfig config link feed).run hstart moves) honline hnext hpermits
      (hleft moves move (List.prefix_refl _)) kind name

/-- Whenever a pass begins, what is on its way repeats what is confirmed. -/
def BeginsIdly (start : Session) (moves : List Move) : Prop :=
  ∀ earlier, earlier ++ [.start .reconcile] <+: moves → (start.run earlier).beginsPass = true →
    ∀ flight ∈ (start.run earlier).flights, flight.request.demand.isEndpointDemand = true →
      (start.run earlier).repeats flight.request.demand = true

/-- Where everything is in the hands of calls, a pass that sends begins just now, while the push of a
call is on its way that has something to confirm. -/
theorem Sends.exists_waiting (hsends : session.Sends move flight) (hsound : session.Sound)
    (hinhand : ∀ kind name, session.InHand kind name) {task : Nat}
    (howner : flight.owner = .run .reconcile task)
    (hcalls : ∀ waiting ∈ session.flights, waiting.owner ≠ .run .reconcile task) :
    move = .start .reconcile ∧ ∃ waiting ∈ session.flights,
      waiting.request.demand.isEndpointDemand = true ∧
        session.repeats waiting.request.demand ≠ true := by
  cases hsends.pushes hsound (hsends.isEndpointDemand_of_pass hsound howner) with
  | called id call hmove hcalled =>
    exact absurd (hcalled.symm.trans howner) (Owner.call_ne_run id .reconcile task)
  | passed task kind name entry _ hdemand hholds hpass =>
    rw [howner] at hholds hpass
    have hmove : move = .start .reconcile := by
      rcases hpass with ⟨hmove, -⟩ | ⟨waiting, hwaiting, hpass⟩
      · exact hmove
      · exact absurd hpass (hcalls waiting hwaiting)
    have howes : session.owes kind name = true := by
      rcases hholds with ⟨waiting, hwaiting, hpass, -⟩ | hlisted
      · exact absurd hpass (hcalls waiting hwaiting)
      · exact (owes_iff_exists_demand? hsound).2 ⟨entry, hlisted, _, hdemand⟩
    obtain ⟨waiting, hwaiting, hconcerns⟩ := (hinhand kind name).waits howes
    exact ⟨hmove, waiting, hwaiting, Demand.isEndpointDemand_of_concerns hconcerns,
      fun hrepeats => not_owes_of_repeats hconcerns hrepeats howes⟩

/-- Passes leave everything to the calls just if none begins while the push of a call is on its way
that has something to confirm. -/
theorem leftToCalls_iff {config : Config} {link : Link} {feed : Feed} {moves : List Move}
    (hsmooth : (ofConfig config link feed).goesSmoothly moves = true) :
    (ofConfig config link feed).LeftToCalls moves ↔
      (ofConfig config link feed).BeginsIdly moves := by
  have hstart := sound_ofConfig config link feed
  have hnumbered := numbered_ofConfig config link feed
  constructor
  · intro hleft earlier hinitial hbegins flight hflight hendpoint
    obtain ⟨later, rfl⟩ := hinitial
    obtain ⟨hupTo, -⟩ := goesSmoothly_append_iff.1 hsmooth
    obtain ⟨hbefore, hstep⟩ := goesSmoothly_append_iff.1 hupTo
    have honline := (goesSmoothly_cons_iff.1 hstep).1
    obtain ⟨kind, name, hconcerns⟩ := Demand.exists_concerns hendpoint
    have hearlier := hleft.of_prefix ((List.prefix_append _ _).trans (List.prefix_append _ later))
    rcases (hearlier.inHand hbefore kind name).owes_or_repeats (hstart.run earlier) hflight
      hconcerns with howes | hrepeats
    · obtain ⟨sent, task, hsends, howner⟩ := exists_sends_of_beginsPass (hstart.run earlier)
        (hnumbered.run hstart earlier) honline hbegins howes
      exact absurd howner (hleft earlier _ (List.prefix_append _ _) sent task hsends)
    · exact hrepeats
  · intro hidly
    induction moves using List.reverseRecOn with
    | nil =>
      intro earlier move hinitial
      exact absurd (List.prefix_nil.1 hinitial) (List.append_ne_nil_of_right_ne_nil _
        (List.cons_ne_nil move []))
    | append_singleton moves move ih =>
      have hbefore := (goesSmoothly_append_iff.1 hsmooth).1
      have hleft := ih hbefore fun earlier hinitial =>
        hidly earlier (hinitial.trans (List.prefix_append _ _))
      refine hleft.snoc fun flight task hsends howner => ?_
      obtain ⟨rfl, waiting, hwaiting, hendpoint, hnew⟩ := hsends.exists_waiting (hstart.run moves)
        (hleft.inHand hbefore) howner fun waiting hwaiting => hleft.owner_ne rfl hwaiting task
      exact hnew (hidly moves (List.prefix_refl _) (beginsPass_of_sends hsends) waiting hwaiting
        hendpoint)

/-- In a run that goes smoothly each intent is pushed at least once, and no more than that just if
no pass begins while the push of a call is on its way that has something to confirm. -/
theorem pushed_once_iff (config : Config) (link : Link) (feed : Feed) (moves : List Move)
    (hsmooth : (ofConfig config link feed).goesSmoothly moves = true) :
    let start := ofConfig config link feed
    (start.asked moves).Sublist (start.run moves).pushed ∧
      ((start.run moves).pushed = start.asked moves ↔ start.BeginsIdly moves) := by
  have hstart := sound_ofConfig config link feed
  have hnumbered := numbered_ofConfig config link feed
  exact ⟨asked_sublist hstart hnumbered hsmooth,
    (pushed_run_iff hstart hnumbered hsmooth).trans (leftToCalls_iff hsmooth)⟩

/-- A pass begins half a second after the push of a call, whose acknowledgement takes a second. -/
def overtaken : List Move :=
  [.elapse 2500, registering 0 "svc-a", .elapse 500, .wake .reconcile 0, .start .reconcile,
    .elapse 500, acknowledging 0, acknowledging 1]

theorem goesSmoothly_overtaken : (opened true).goesSmoothly overtaken = true := by
  decide +kernel

theorem length_pushed_overtaken : ((opened true).run overtaken).pushed.length = 2 := by
  decide +kernel

theorem length_asked_overtaken : ((opened true).asked overtaken).length = 1 := by
  decide +kernel

/-- The pass that begins meanwhile finds a push on its way that has something to confirm. -/
theorem pushed_once_iff_overtaken :
    (opened true).goesSmoothly overtaken = true ∧
      ((opened true).asked overtaken).Sublist ((opened true).run overtaken).pushed ∧
      ¬ (opened true).BeginsIdly overtaken := by
  obtain ⟨hleast, hiff⟩ := pushed_once_iff {} { isRunning := true } (.ofCapacity 16) overtaken
    goesSmoothly_overtaken
  refine ⟨goesSmoothly_overtaken, hleast, fun hidly => ?_⟩
  have hlength := congrArg List.length (hiff.2 hidly)
  rw [← opened, length_pushed_overtaken, length_asked_overtaken] at hlength
  exact absurd hlength (by decide)

/-- So a pass can push once more what a call has pushed already. -/
theorem not_forall_pushed_once :
    ¬ ∀ (config : Config) (link : Link) (feed : Feed) (moves : List Move),
      let start := ofConfig config link feed
      start.goesSmoothly moves = true → (start.run moves).pushed = start.asked moves := by
  intro hall
  have heq := hall {} { isRunning := true } (.ofCapacity 16) overtaken goesSmoothly_overtaken
  have hlength := congrArg List.length heq
  rw [← opened, length_pushed_overtaken, length_asked_overtaken] at hlength
  exact absurd hlength (by decide)

end RegistrySession.Session
