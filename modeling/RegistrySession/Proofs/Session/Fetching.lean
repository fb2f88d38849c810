import RegistrySession.Proofs.Session.Listening
import RegistrySession.Proofs.Wire.Settlement

/-!
# Fetched records

A session fetches records for subscriptions and for refreshes.  Everything else that it does leaves
the records at hand as they are, and so does a fetch that brings none.  What one access does to an
audience is told in terms of the fetch that it completes.
-/

namespace RegistrySession

/-! ## What a fetch brings -/

def Demand.asks : Demand → Kind → Bool
  | .queryAgent .., .agent => true
  | .queryMcp _, .mcp => true
  | _, _ => false

/-- Subscriptions and refreshes keep what they fetch. -/
def Errand.keeps (kind : Kind) : Errand → Bool
  | .subscribe other _ => other = kind
  | .refresh other => other = kind
  | _ => false

def Arrival.record? (kind : Kind) : Arrival → Option kind.Record
  | .reply (.response (.record other found)) => if h : other = kind then some (h ▸ found) else none
  | _ => none

def Outcome.record? (kind : Kind) : Outcome Answer → Option kind.Record
  | .done answer => answer.record? kind
  | _ => none

/-- The key that a subscription or a refresh asked for, with the record that arrives for it. -/
def Flight.fetch? (kind : Kind) (flight : Flight) (arrival : Arrival) :
    Option (Key × kind.Record) :=
  if flight.errand.keeps kind && flight.request.demand.asks kind then
    (arrival.record? kind).map fun record => (flight.request.demand.resourceKey, record)
  else none

theorem Answer.record?_eq_some_iff {answer : Answer} {kind : Kind} {record : kind.Record} :
    answer.record? kind = some record ↔ answer = .record kind record := by
  cases answer with
  | nothing => simp [record?]
  | identifier id => simp [record?]
  | record other found =>
    constructor
    · intro h
      obtain ⟨rfl, rfl⟩ : ∃ h : other = kind, h ▸ found = record := by simpa [record?] using h
      rfl
    · intro h
      obtain ⟨rfl, rfl⟩ := Answer.record.inj h
      simp [record?]

theorem Outcome.record?_eq_some_iff {outcome : Outcome Answer} {kind : Kind}
    {record : kind.Record} :
    outcome.record? kind = some record ↔ outcome = .done (.record kind record) := by
  cases outcome with
  | done answer => rw [record?, Answer.record?_eq_some_iff, done.injEq]
  | failed | panicked => simp [record?]

theorem Outcome.record?_eq_none {outcome : Outcome Answer} {kind : Kind}
    (h : ∀ answer, outcome = .done answer → answer.record? kind = none) :
    outcome.record? kind = none := by
  cases outcome with
  | done answer => exact h answer rfl
  | failed | panicked => rfl

theorem Arrival.record?_eq_some_iff {arrival : Arrival} {kind : Kind} {record : kind.Record} :
    arrival.record? kind = some record ↔ arrival = .reply (.response (.record kind record)) := by
  constructor
  · intro h
    cases arrival with
    | expired span => exact absurd h (Option.some_ne_none record).symm
    | reply reply =>
      cases reply with
      | failure | breakdown => exact absurd h (Option.some_ne_none record).symm
      | response response =>
        cases response with
        | released | acknowledged | failed => exact absurd h (Option.some_ne_none record).symm
        | record other found =>
          obtain ⟨rfl, rfl⟩ : ∃ h : other = kind, h ▸ found = record := by simpa [record?] using h
          rfl
  · rintro rfl
    simp [record?]

/-- The only records that a request takes are those of the kind asked for. -/
theorem Demand.yields_record_iff {demand : Demand} {response : Response} {kind : Kind}
    {record : kind.Record} :
    demand.Yields response (.record kind record) ↔
      response = .record kind record ∧ demand.asks kind = true := by
  constructor
  · intro hyields
    cases hyields with
    | card | server => exact ⟨rfl, rfl⟩
  · rintro ⟨rfl, hasks⟩
    cases demand with
    | queryAgent key registrationType =>
      cases kind with
      | agent => exact .card key registrationType record
      | mcp => exact absurd hasks Bool.false_ne_true
    | queryMcp key =>
      cases kind with
      | agent => exact absurd hasks Bool.false_ne_true
      | mcp => exact .server key record
    | releaseAgent | releaseMcp | register | withdraw => exact absurd hasks Bool.false_ne_true

/-- A request brings a record just if it asked for one of the kind and such a record arrives. -/
theorem Demand.record?_conclude (demand : Demand) (arrival : Arrival) (kind : Kind) :
    (demand.conclude arrival).record? kind =
      if demand.asks kind then arrival.record? kind else none := by
  ext record
  rw [Outcome.record?_eq_some_iff, conclude_eq_done_iff]
  cases hasks : demand.asks kind with
  | true => simp [Arrival.record?_eq_some_iff, yields_record_iff, hasks]
  | false => simp [yields_record_iff, hasks]

theorem Flight.fetch?_eq (kind : Kind) (flight : Flight) (arrival : Arrival) :
    flight.fetch? kind arrival =
      if flight.errand.keeps kind then
        ((flight.request.demand.conclude arrival).record? kind).map fun record =>
          (flight.request.demand.resourceKey, record)
      else none := by
  rw [fetch?, Demand.record?_conclude]
  cases flight.errand.keeps kind <;> cases flight.request.demand.asks kind <;> rfl

theorem Flight.fetch?_eq_none {kind : Kind} {flight : Flight}
    (h : flight.errand.keeps kind = false) (arrival : Arrival) :
    flight.fetch? kind arrival = none := by
  rw [fetch?, h]
  rfl

/-- What is fetched is a record of the kind that was asked for. -/
theorem Flight.fetch?_eq_some_iff {kind : Kind} {flight : Flight} {arrival : Arrival} {key : Key}
    {record : kind.Record} :
    flight.fetch? kind arrival = some (key, record) ↔
      flight.errand.keeps kind = true ∧ flight.request.demand.asks kind = true ∧
        arrival = .reply (.response (.record kind record)) ∧
        flight.request.demand.resourceKey = key := by
  simp only [fetch?, Option.ite_none_right_eq_some, Bool.and_eq_true, Option.map_eq_some_iff,
    Prod.mk.injEq, exists_eq_right_right, Arrival.record?_eq_some_iff, and_assoc]

/-! ## What an access does to an audience -/

namespace Audience

variable {ρ ℓ : Type} [Resource ρ] [DecidableEq ℓ]

/-- What one access does to an audience, with the fetch that it completes if it does. -/
inductive Effect (audience next : Audience ρ ℓ) : Option (Key × ρ) → Prop
  | rest (hcovers : audience.Covers next) : Effect audience next none
  | unsubscribe (key : Key) (listener : ℓ) (hcovers : (audience.deregister key listener).Covers next) :
      Effect audience next none
  | await (key : Key) (listener : ℓ) (hcached : audience.list.find? key = none)
      (hcovers : (audience.register key listener).Covers next) : Effect audience next none
  | subscribe (key : Key) (listener : ℓ) (record : ρ)
      (hcached : audience.list.find? key = some record)
      (hcovers : ((audience.register key listener).welcome
        (audience.list.subscriptions.register key listener).2 record).Covers next) :
      Effect audience next none
  | refresh (key : Key) (record : ρ) (hcovers : (audience.absorb record).Covers next) :
      Effect audience next (some (key, record))
  | complete (handle : Handle ℓ) (key : Key) (record : ρ)
      (hwaits : (handle, key) ∈ audience.awaiting)
      (hcovers : ((audience.absorb record).welcome handle record).Covers next) :
      Effect audience next (some (key, record))

theorem Effect.of_covers {audience next last : Audience ρ ℓ} {fetch? : Option (Key × ρ)}
    (heffect : audience.Effect next fetch?) (hlater : next.Covers last) :
    audience.Effect last fetch? := by
  cases heffect with
  | rest hcovers => exact .rest (hcovers.trans hlater)
  | unsubscribe key listener hcovers => exact .unsubscribe key listener (hcovers.trans hlater)
  | await key listener hcached hcovers => exact .await key listener hcached (hcovers.trans hlater)
  | subscribe key listener record hcached hcovers =>
    exact .subscribe key listener record hcached (hcovers.trans hlater)
  | refresh key record hcovers => exact .refresh key record (hcovers.trans hlater)
  | complete handle key record hwaits hcovers =>
    exact .complete handle key record hwaits (hcovers.trans hlater)

end Audience

namespace Session

/-! ### Subscriptions -/

section Steps

variable (session : Session)

/-- Subscribing registers the listener, and does nothing else to the audience. -/
theorem register_covers {now : Nat} {kind : Kind} {key : Key} {listener : Listener}
    {list : Watchlist kind.Record Listener} {handle : Handle Listener}
    (h : (session.watchlist kind).subscribe? now key listener = some (list, handle)) :
    ((session.audience kind).register key listener).Covers
      ((session.setWatchlist kind list).audience kind) := by
  obtain ⟨hrecords, hregister⟩ := Watchlist.subscribe?_keeps h
  have hlist : (session.setWatchlist kind list).watchlist kind = list := PerKind.get_set_self _ _ _
  refine ⟨?_, ?_, rfl, fun _ h => List.mem_cons_of_mem _ h⟩
  · exact (congrArg Watchlist.records hlist).trans hrecords
  · exact (congrArg Watchlist.subscriptions hlist).trans (congrArg Prod.fst hregister)

/-- The flight of a subscription stands for the wait of its handle. -/
theorem send_covers {kind : Kind} {key : Key} {handle : Handle Listener}
    {audience : Audience kind.Record Listener} (hcovers : audience.Covers (session.audience kind))
    (hwaits : (handle, key) ∈ audience.awaiting) (owner : Owner) :
    audience.Covers
      ((session.send owner (.subscribe kind handle) (.query kind key)).audience kind) := by
  refine ⟨hcovers.records, hcovers.subscriptions, hcovers.deliveries, ?_⟩
  intro waiting hwaiting
  obtain ⟨flight, hflight, hfound⟩ := List.mem_filterMap.1 hwaiting
  rcases List.mem_append.1 hflight with hold | hnew
  · exact hcovers.awaiting (List.mem_filterMap.2 ⟨flight, hold, hfound⟩)
  · obtain rfl := List.mem_singleton.1 hnew
    rw [Flight.subscription?_eq_some rfl, Demand.resourceKey_query] at hfound
    obtain rfl := Option.some.inj hfound
    exact hwaits

/-- What happens to the audiences, with the fetches that are completed. -/
def Effects (next : Session) (fetch? : ∀ kind : Kind, Option (Key × kind.Record)) : Prop :=
  ∀ kind, (session.audience kind).Effect (next.audience kind) (fetch? kind)

variable {session}

theorem Quiet.effects {next : Session} (hquiet : session.Quiet next) :
    session.Effects next fun _ => none :=
  fun kind => .rest (hquiet kind)

theorem Effects.quiet {next last : Session} {fetch? : ∀ kind : Kind, Option (Key × kind.Record)}
    (heffects : session.Effects next fetch?) (hquiet : next.Quiet last) :
    session.Effects last fetch? :=
  fun kind => (heffects kind).of_covers (hquiet kind)

/-- What happens to the audience of one kind, and leaves that of the other alone. -/
theorem Effects.of_kind {next : Session} (kind : Kind)
    {fetch? : ∀ kind : Kind, Option (Key × kind.Record)}
    (hkind : (session.audience kind).Effect (next.audience kind) (fetch? kind))
    (hothers : ∀ other, other ≠ kind → fetch? other = none ∧
      (session.audience other).Covers (next.audience other)) :
    session.Effects next fetch? := by
  intro other
  by_cases hother : other = kind
  · rw [hother]
    exact hkind
  · obtain ⟨hnone, hcovers⟩ := hothers other hother
    rw [hnone]
    exact .rest hcovers

variable (session)

/-- A subscription is refused, is handed the record at hand, or leaves a flight that waits for one. -/
theorem subscribe_audience_cases (owner : Owner) (kind : Kind) (key : Key) (listener : Listener) :
    session.subscribe owner kind key listener = session.conclude owner (.failed .shutdown) ∨
    ∃ list : Watchlist kind.Record Listener,
      ((session.audience kind).register key listener).Covers
        ((session.setWatchlist kind list).audience kind) ∧
      ((∃ record, (session.audience kind).list.find? key = some record ∧
          session.subscribe owner kind key listener =
            (session.setWatchlist kind list).completeSubscription owner kind
              ((session.audience kind).handleFor key listener) record) ∨
        ((session.audience kind).list.find? key = none ∧
          session.subscribe owner kind key listener =
            (session.setWatchlist kind list).send owner
              (.subscribe kind ((session.audience kind).handleFor key listener))
              (.query kind key))) := by
  rcases session.subscribe_cases owner key listener with
    ⟨-, heq⟩ | ⟨list, handle, hsubscribe, hlist⟩
  · exact .inl heq
  · obtain ⟨hrecords, hregister⟩ := Watchlist.subscribe?_keeps hsubscribe
    obtain rfl : handle = (session.audience kind).handleFor key listener :=
      congrArg Prod.snd hregister
    have hcached : (session.audience kind).list.find? key = list.find? key :=
      congrArg (Table.find? · key) hrecords.symm
    rw [hcached]
    exact .inr ⟨list, session.register_covers hsubscribe, hlist⟩

theorem subscribe_effects (owner : Owner) (kind : Kind) (key : Key) (listener : Listener) :
    session.Effects (session.subscribe owner kind key listener) fun _ => none := by
  rcases session.subscribe_audience_cases owner kind key listener with
    heq | ⟨list, hregistered, ⟨record, hcached, heq⟩ | ⟨hcached, heq⟩⟩
  · rw [heq]
    exact (Quiet.conclude session owner _).effects
  · rw [heq]
    refine .of_kind kind (.subscribe key listener record hcached ?_) fun other hother => ⟨rfl, ?_⟩
    · exact (hregistered.welcome _ record).trans
        (completeSubscription_covers_self _ kind owner _ record)
    · rw [← session.audience_setWatchlist_of_ne kind hother list]
      exact completeSubscription_covers_of_ne _ kind hother owner _ record
  · rw [heq]
    refine .of_kind kind (.await key listener hcached ?_) fun other hother => ⟨rfl, ?_⟩
    · exact send_covers _ hregistered (Audience.handleFor_mem_awaiting _ key listener) owner
    · rw [← session.audience_setWatchlist_of_ne kind hother list]
      exact covers_send _ owner _ fun handle h => hother (Errand.subscribe.inj h).1.symm

theorem unsubscribe_effects (kind : Kind) (key : Key) (listener : Listener) :
    session.Effects (session.unsubscribe kind key listener) fun _ => none := by
  obtain ⟨hrecords, hsubscriptions⟩ := (session.watchlist kind).unsubscribe_keeps key listener
  have hlist : (session.unsubscribe kind key listener).watchlist kind =
      (session.watchlist kind).unsubscribe key listener := PerKind.get_set_self _ _ _
  refine .of_kind kind (.unsubscribe key listener ⟨?_, ?_, rfl, fun _ h => h⟩) ?_
  · exact (congrArg Watchlist.records hlist).trans hrecords
  · exact (congrArg Watchlist.subscriptions hlist).trans hsubscriptions
  · intro other hother
    rw [unsubscribe, session.audience_setWatchlist_of_ne kind hother]
    exact ⟨rfl, .refl _⟩

/-! ### Replies -/

variable {session}

/-- Replies to calls that keep nothing, and to passes. -/
theorem Quiet.resume (session : Session) {flight : Flight}
    (hkeeps : ∀ kind, flight.errand.keeps kind = false) (outcome : Outcome Answer) :
    session.Quiet (session.resume flight outcome) := by
  unfold Session.resume
  cases herrand : flight.errand with
  | handOn => exact .conclude session flight.owner outcome
  | confirm kind confirmation =>
    cases outcome with
    | done answer => exact (Quiet.modifyLog session kind _).trans (.conclude _ flight.owner _)
    | failed error => exact .conclude session flight.owner _
    | panicked => exact .conclude session flight.owner _
  | reconcile kind confirmation remaining =>
    cases outcome with
    | done answer =>
      exact (Quiet.modifyLog session kind _).trans
        ((Quiet.intentFrame flight.owner).resumeReconcile _ kind remaining)
    | failed error => exact (Quiet.intentFrame flight.owner).resumeReconcile session kind remaining
    | panicked => exact (Quiet.intentFrame flight.owner).resumeReconcile session kind remaining
  | subscribe kind handle => simp [herrand, Errand.keeps] at hkeeps
  | refresh kind => simp [herrand, Errand.keeps] at hkeeps

/-- Whether the flight that brought a record is gone is nothing to the records and deliveries. -/
theorem land_absorb_covers (session : Session) (id : Nat) (arrival : Arrival) (kind : Kind)
    (record : kind.Record) :
    ((session.audience kind).absorb record).Covers
      (((session.land id arrival).absorb kind record).audience kind) := by
  rw [audience_absorb_self]
  exact ⟨rfl, rfl, rfl, (Quiet.land session id arrival kind).awaiting⟩

/-- A flight that keeps what it fetches leads to a stored record, or to nothing. -/
theorem resume_cases_of_keeps {flight : Flight} (hflight : flight ∈ session.flights)
    (arrival : Arrival) {kind : Kind} (hkeeps : flight.errand.keeps kind = true) :
    let outcome := flight.request.demand.conclude arrival
    let next := (session.land flight.id arrival).resume flight outcome
    (∃ record, outcome.record? kind = some record ∧
      (session.audience kind).Effect (next.audience kind)
        (some (flight.request.demand.resourceKey, record)) ∧
      ∀ other, other ≠ kind → (session.audience other).Covers (next.audience other)) ∨
    (outcome.record? kind = none ∧ session.Quiet next) := by
  intro outcome next
  let landed := session.land flight.id arrival
  have hlanded : session.Quiet landed := Quiet.land session flight.id arrival
  have hstored := session.land_absorb_covers flight.id arrival kind
  have hothers : ∀ record other, other ≠ kind →
      (session.audience other).Covers ((landed.absorb kind record).audience other) := by
    intro record other hother
    rw [audience_absorb_of_ne _ kind hother]
    exact hlanded other
  cases herrand : flight.errand with
  | subscribe other handle =>
    obtain rfl : other = kind := by simpa [herrand, Errand.keeps] using hkeeps
    -- The flight is still there where the record is stored, and gone where it is handed over.
    have hwaits : (handle, flight.request.demand.resourceKey) ∈
        (session.audience other).awaiting :=
      List.mem_filterMap.2 ⟨flight, hflight, Flight.subscription?_eq_some herrand⟩
    rcases landed.resume_subscribe_cases outcome herrand with
      ⟨answer, record, houtcome, hrecord, heq⟩ | ⟨hnone, result, heq, -, -⟩
    · change next = _ at heq
      rw [heq]
      refine .inl ⟨record, (congrArg (Outcome.record? other) houtcome).trans hrecord, ?_, fun third hthird => (hothers record third hthird).trans ?_⟩
      · exact .complete handle flight.request.demand.resourceKey record hwaits
          (((hstored record).welcome handle record).trans
            (completeSubscription_covers_self _ other flight.owner handle record))
      · exact completeSubscription_covers_of_ne _ other hthird flight.owner handle record
    · change next = _ at heq
      rw [heq]
      exact .inr ⟨Outcome.record?_eq_none hnone,
        hlanded.trans (.conclude landed flight.owner result)⟩
  | refresh other =>
    obtain rfl : other = kind := by simpa [herrand, Errand.keeps] using hkeeps
    rcases landed.resume_refresh_cases outcome herrand with
      ⟨answer, record, houtcome, hrecord, heq⟩ | ⟨hnone, result, heq, -⟩
    · have hconcluded := Quiet.conclude (landed.absorb other record) flight.owner (.done .nothing)
      change next = _ at heq
      rw [heq]
      refine .inl ⟨record, (congrArg (Outcome.record? other) houtcome).trans hrecord, ?_,
        fun third hthird => ?_⟩
      · exact .refresh flight.request.demand.resourceKey record
          ((hstored record).trans (hconcluded other))
      · exact (hothers record third hthird).trans (hconcluded third)
    · change next = _ at heq
      rw [heq]
      exact .inr ⟨Outcome.record?_eq_none hnone,
        hlanded.trans (.conclude landed flight.owner result)⟩
  | handOn => simp [herrand, Errand.keeps] at hkeeps
  | confirm => simp [herrand, Errand.keeps] at hkeeps
  | reconcile => simp [herrand, Errand.keeps] at hkeeps

/-- A flight keeps records of one kind at most. -/
theorem Errand.keeps_eq_false_of_ne {errand : Errand} {kind other : Kind}
    (hkeeps : errand.keeps kind = true) (hother : other ≠ kind) : errand.keeps other = false := by
  cases errand with
  | subscribe third handle =>
    obtain rfl : third = kind := by simpa [Errand.keeps] using hkeeps
    simpa [Errand.keeps] using hother.symm
  | refresh third =>
    obtain rfl : third = kind := by simpa [Errand.keeps] using hkeeps
    simpa [Errand.keeps] using hother.symm
  | handOn => rfl
  | confirm => rfl
  | reconcile => rfl

/-- The audiences hear of a reply just if it is a record that was waited for. -/
theorem arrive_effects (id : Nat) (arrival : Arrival) :
    session.Effects (session.arrive id arrival) fun kind =>
      (session.flight? id).bind fun flight => flight.fetch? kind arrival := by
  unfold arrive
  cases hfound : session.flight? id with
  | none => exact (Quiet.refl session).effects
  | some flight =>
    have hflight : flight ∈ session.flights := List.mem_of_find?_eq_some hfound
    obtain rfl : flight.id = id := by simpa using List.find?_some hfound
    simp only [Option.bind_some]
    by_cases hkeeps : ∃ kind, flight.errand.keeps kind = true
    case neg =>
      have hnothing : ∀ kind, flight.errand.keeps kind = false :=
        fun kind => Bool.eq_false_of_not_eq_true fun h => hkeeps ⟨kind, h⟩
      simp only [Flight.fetch?_eq_none (hnothing _)]
      exact ((Quiet.land session flight.id arrival).trans (.resume _ hnothing _)).effects
    obtain ⟨kind, hkeeps⟩ := hkeeps
    have hothers : ∀ other, other ≠ kind → flight.fetch? other arrival = none := fun other hother =>
      Flight.fetch?_eq_none (Errand.keeps_eq_false_of_ne hkeeps hother) arrival
    rcases resume_cases_of_keeps hflight arrival hkeeps with
      ⟨record, hrecord, heffect, hcovers⟩ | ⟨hnone, hquiet⟩
    · refine .of_kind kind ?_ fun other hother => ⟨hothers other hother, hcovers other hother⟩
      rw [Flight.fetch?_eq, if_pos hkeeps, hrecord]
      exact heffect
    · refine .of_kind kind ?_ fun other hother => ⟨hothers other hother, hquiet other⟩
      rw [Flight.fetch?_eq, if_pos hkeeps, hnone]
      exact .rest (hquiet kind)

/-! ### Accesses -/

/-- A call tells the audiences nothing but what it finds at hand. -/
theorem perform_effects (session : Session) (owner : Owner) (call : Call) :
    session.Effects (session.perform owner call) fun _ => none := by
  cases call with
  | getAgent | getMcp | releaseAgent | releaseMcp =>
    exact Quiet.effects (.send session owner _ nofun)
  | register kind name registration =>
    exact ((Quiet.intentFrame owner).register session kind name _).effects
  | deregisterAgent name endpoint =>
    exact ((Quiet.intentFrame owner).deregister session .agent name _).effects
  | deregisterMcp name address port =>
    exact ((Quiet.intentFrame owner).deregister session .mcp name _).effects
  | subscribe kind name version listener => exact session.subscribe_effects owner kind _ listener
  | unsubscribe kind name version listener =>
    exact (session.unsubscribe_effects kind _ listener).quiet (.conclude _ owner _)
  | shutdown => exact ((Quiet.shutdown session).trans (.conclude _ owner _)).effects

end Steps

/-! ## Accesses -/

/-- A move, or a use of a watchlist by itself, for which keys are not checked and no task is
needed. -/
inductive Access
  | move (move : Move)
  | subscribe (call : Nat) (kind : Kind) (key : Key) (listener : Listener)
  | unsubscribe (kind : Kind) (key : Key) (listener : Listener)
  | refresh (call : Nat) (kind : Kind) (key : Key)

def access (session : Session) : Access → Session
  | .move move => session.step move
  | .subscribe call kind key listener => session.subscribe (.call call) kind key listener
  | .unsubscribe kind key listener => session.unsubscribe kind key listener
  | .refresh call kind key => session.send (.call call) (.refresh kind) (.query kind key)

def follow (session : Session) (accesses : List Access) : Session :=
  accesses.foldl access session

theorem follow_append (session : Session) (earlier later : List Access) :
    session.follow (earlier ++ later) = (session.follow earlier).follow later :=
  List.foldl_append

theorem follow_snoc (session : Session) (accesses : List Access) (access : Access) :
    session.follow (accesses ++ [access]) = (session.follow accesses).access access :=
  session.follow_append accesses [access]

/-- The fetch of a subscription or a refresh that a reply completes in time: the key asked for, and
the record. -/
def fetch? (session : Session) (kind : Kind) : Access → Option (Key × kind.Record)
  | .move (.reply id reply) =>
    match session.flight? id with
    | some flight =>
      if session.now ≤ flight.deadline then flight.fetch? kind (.reply reply) else none
    | none => none
  | _ => none

/-- What completes a fetch that is kept. -/
theorem exists_reply_of_fetch? {session : Session} {access : Access} {kind : Kind} {key : Key}
    {record : kind.Record} (hfetch : session.fetch? kind access = some (key, record)) :
    ∃ id flight, access = .move (.reply id (.response (.record kind record))) ∧
      session.flight? id = some flight ∧ flight.errand.keeps kind = true ∧
      flight.request.demand.asks kind = true ∧ flight.request.demand.resourceKey = key ∧
      session.now ≤ flight.deadline := by
  cases access with
  | move move =>
    cases move with
    | reply id reply =>
      rw [fetch?] at hfetch
      cases hflight : session.flight? id with
      | none =>
        rw [hflight] at hfetch
        exact absurd hfetch (Option.some_ne_none _).symm
      | some flight =>
        rw [hflight] at hfetch
        obtain ⟨htime, hfetch⟩ := Option.ite_none_right_eq_some.1 hfetch
        obtain ⟨hkeeps, hasks, hreply, hkey⟩ := Flight.fetch?_eq_some_iff.1 hfetch
        obtain rfl := Arrival.reply.inj hreply
        exact ⟨id, flight, rfl, hflight, hkeeps, hasks, hkey, htime⟩
    | _ => exact absurd hfetch (Option.some_ne_none _).symm
  | _ => exact absurd hfetch (Option.some_ne_none _).symm

theorem reply_effects (session : Session) (id : Nat) (reply : Reply) :
    session.Effects (session.reply id reply) fun kind =>
      session.fetch? kind (.move (.reply id reply)) := by
  have harrive := session.arrive_effects id (.reply reply)
  unfold Session.reply
  cases hflight : session.flight? id with
  | none => exact fun kind => by simpa [fetch?, hflight] using (Quiet.refl session).effects kind
  | some flight =>
    simp only [fetch?, hflight]
    by_cases hdue : session.now ≤ flight.deadline
    · simpa [hdue, hflight] using harrive
    · simp only [if_neg hdue]
      exact (Quiet.refl session).effects

/-- A wait that is given up fetches nothing. -/
theorem expire_effects (session : Session) (id : Nat) :
    session.Effects (session.expire id) fun _ => none := by
  rcases session.expire_cases id with hsame | harrives
  · rw [hsame]
    exact (Quiet.refl session).effects
  · have harrive := session.arrive_effects id (.expired session.timeout)
    rw [harrives]
    simpa [Flight.fetch?, Arrival.record?] using harrive

/-- An access stores the record of the fetch that it completes, and no other. -/
theorem access_effects (session : Session) (access : Access) :
    session.Effects (session.access access) fun kind => session.fetch? kind access := by
  cases access with
  | subscribe call kind key listener =>
    exact session.subscribe_effects (.call call) kind key listener
  | unsubscribe kind key listener => exact session.unsubscribe_effects kind key listener
  | refresh call kind key => exact Quiet.effects (.send session (.call call) _ nofun)
  | move move =>
    cases move with
    | call id call =>
      rcases session.call_cases id call with ⟨-, heq⟩ | ⟨error, -, heq⟩
      · rw [access, step, heq]
        exact perform_effects session (.call id) call
      · rw [access, step, heq]
        exact (Quiet.conclude session (.call id) _).effects
    | reply id reply => exact session.reply_effects id reply
    | expire id => exact session.expire_effects id
    | receive => exact (Quiet.receive session).effects
    | wake pool task => exact (Quiet.wake session pool task).effects
    | start pool => exact (Quiet.start session pool).effects
    | elapse | setRunning | setSupport | announce | closeFeed =>
      exact (Quiet.of_eq rfl rfl fun _ h => h).effects
    | reorder kind name => exact (Quiet.modifyLog session kind _).effects

end Session

end RegistrySession
