import RegistrySession.Proofs.Session.Hearing
import RegistrySession.Proofs.Threads.Marks
import RegistrySession.Proofs.Watchlist.Introduction

/-!
# First deliveries

A subscription hands its listener the record at hand once at most, as the first thing that comes
through the handle, and returns a record only when something came through it: however subscriptions,
refreshes and replies interleave.  One step is what goes on between two waits for a reply.  Among
threads a handle is marked before its listener is called, and what holds of every interleaving is
said of the marks.
-/

namespace RegistrySession

/-- What came through a handle, the first to come first. -/
def through {ρ ℓ : Type} [DecidableEq ℓ] (deliveries : List (Delivery ℓ ρ)) (handle : Handle ℓ) :
    List (Delivery ℓ ρ) :=
  (deliveries.filter fun delivery => delivery.handle = handle).reverse

/-- Threads make one initial delivery through a handle at most. -/
theorem Shared.Marked.length_initial_le {ρ ℓ : Type} [DecidableEq ℓ] {shared : Shared ρ ℓ}
    (hmarked : shared.Marked) (handle : Handle ℓ) :
    ((through shared.deliveries handle).filter Delivery.isInitial).length ≤ 1 :=
  calc ((through shared.deliveries handle).filter Delivery.isInitial).length
    _ = shared.deliveries.countP fun delivery =>
          delivery.isInitial && decide (delivery.handle = handle) := by
        rw [through, List.filter_reverse, List.length_reverse, List.filter_filter,
          List.countP_eq_length_filter]
    _ ≤ shared.deliveries.countP fun delivery =>
          delivery.isInitial && delivery.handle.id == handle.id := by
        refine List.countP_mono_left fun delivery _ h => ?_
        simp only [Bool.and_eq_true, decide_eq_true_eq] at h
        simp [h.1, h.2]
    _ ≤ shared.introductions handle := Nat.le_add_right _ _
    _ ≤ if shared.list.subscriptions.isReached handle then 1 else 0 := hmarked.introduced handle
    _ ≤ 1 := by cases shared.list.subscriptions.isReached handle <;> simp

namespace Audience

variable {ρ ℓ : Type} [DecidableEq ℓ]

theorem Effect.introduced [Resource ρ] {audience next : Audience ρ ℓ} {fetch? : Option (Key × ρ)}
    (heffect : audience.Effect next fetch?) (hintroduced : audience.Introduced) :
    next.Introduced := by
  cases heffect with
  | rest hcovers => exact hintroduced.of_covers hcovers
  | unsubscribe key listener hcovers =>
    exact (hintroduced.deregister key listener).of_covers hcovers
  | await key listener hcached hcovers =>
    exact (hintroduced.register key listener).of_covers hcovers
  | subscribe key listener record hcached hcovers =>
    exact ((hintroduced.register key listener).welcome
      (.waiting key (audience.handleFor_mem_awaiting key listener)) record).of_covers hcovers
  | refresh key record hcovers => exact (hintroduced.absorb record).of_covers hcovers
  | complete handle key record hwaits hcovers =>
    exact ((hintroduced.absorb record).welcome (.waiting key hwaits) record).of_covers hcovers

/-- Of what comes through a handle, only the first may be the record that was at hand. -/
theorem Introduced.pairwise_through {audience : Audience ρ ℓ} (hintroduced : audience.Introduced)
    (handle : Handle ℓ) :
    (through audience.deliveries handle).Pairwise fun _ later => later.isInitial = false := by
  rw [through, List.pairwise_reverse]
  refine (hintroduced.initial.filter _).imp_of_mem fun hlater hearlier hinitial => ?_
  have hsame {delivery : Delivery ℓ ρ}
      (h : delivery ∈ audience.deliveries.filter fun delivery => delivery.handle = handle) :
      delivery.handle = handle := of_decide_eq_true (List.mem_filter.1 h).2
  refine Bool.eq_false_of_not_eq_true fun htrue => hinitial htrue ?_
  rw [hsame hlater, hsame hearlier]

end Audience

/-! ## What a call returns -/

def Note.returned? (kind : Kind) (call : Nat) : Note → Option kind.Record
  | .finished id outcome => if id = call then outcome.record? kind else none
  | _ => none

/-- The call that waits for the first record of a subscription, with the subscription's handle. -/
def Flight.subscriber? (kind : Kind) (flight : Flight) : Option (Nat × Handle Listener) :=
  match flight.owner, flight.errand with
  | .call id, .subscribe other handle => if other = kind then some (id, handle) else none
  | _, _ => none

namespace Session

/-- The records that the call of a number returned, the last one first. -/
def returned (session : Session) (kind : Kind) (call : Nat) : List kind.Record :=
  session.journal.filterMap fun note => note.2.returned? kind call

/-- The call that an access makes or goes on with, if it is one that subscribes, with the handle that
the listener is registered with. -/
def subscriber? (session : Session) (kind : Kind) : Access → Option (Nat × Handle Listener)
  | .subscribe call other key listener =>
    if other = kind then some (call, (session.audience kind).handleFor key listener) else none
  | .move (.call call (.subscribe other name version listener)) =>
    if other = kind then
      some (call, (session.audience kind).handleFor (.of name version) listener)
    else none
  | .move (.reply id _) => (session.flight? id).bind (Flight.subscriber? kind)
  | .move (.expire id) => (session.flight? id).bind (Flight.subscriber? kind)
  | _ => none

variable {session : Session} {kind : Kind} {call : Nat}

theorem returned_note (session : Session) {note : Note} (hnote : note.returned? kind call = none) :
    (session.note note).returned kind call = session.returned kind call := by
  rw [returned, Session.note, List.filterMap_cons, hnote]
  rfl

theorem returned_conclude (session : Session) {owner : Owner} {outcome : Outcome Answer}
    (houtcome : outcome.record? kind = none) :
    (session.conclude owner outcome).returned kind call = session.returned kind call := by
  cases owner with
  | call id =>
    refine returned_note session ?_
    rw [Note.returned?, houtcome, ite_self]
  | run pool task => cases pool <;> rfl

theorem Flight.subscriber?_eq_some_iff {flight : Flight} {handle : Handle Listener} :
    flight.subscriber? kind = some (call, handle) ↔
      flight.owner = .call call ∧ flight.errand = .subscribe kind handle := by
  obtain ⟨id, owner, errand, request, deadline⟩ := flight
  cases owner with
  | run pool task =>
    exact ⟨fun h => absurd h (Option.some_ne_none _).symm, fun h => Owner.noConfusion h.1⟩
  | call id =>
    cases errand with
    | subscribe other found =>
      rw [Flight.subscriber?, Option.ite_none_right_eq_some]
      constructor
      · rintro ⟨rfl, h⟩
        obtain ⟨rfl, rfl⟩ := Prod.mk.inj (Option.some.inj h)
        exact ⟨rfl, rfl⟩
      · rintro ⟨hcall, hsubscribe⟩
        obtain rfl := Owner.call.inj hcall
        obtain ⟨rfl, rfl⟩ := Errand.subscribe.inj hsubscribe
        exact ⟨rfl, rfl⟩
    | handOn | confirm | refresh | reconcile =>
      exact ⟨fun h => absurd h (Option.some_ne_none _).symm, fun h => Errand.noConfusion h.2⟩

/-- A call that subscribes and returns a record at once has served its handle. -/
theorem exists_delivery_of_subscribe (hintroduced : (session.audience kind).Introduced) {key : Key}
    {listener : Listener}
    (hreturned : (session.subscribe (.call call) kind key listener).returned kind call ≠
      session.returned kind call) :
    ∃ delivery ∈ (session.subscribe (.call call) kind key listener).deliveries kind,
      delivery.handle = (session.audience kind).handleFor key listener := by
  rcases session.subscribe_audience_cases (.call call) kind key listener with
    heq | ⟨list, hregistered, ⟨record, -, heq⟩ | ⟨-, heq⟩⟩
  · rw [heq, returned_conclude session rfl] at hreturned
    exact absurd rfl hreturned
  · have hserved :=
      (hregistered.welcome ((session.audience kind).handleFor key listener) record).trans
        (completeSubscription_covers_self _ kind (.call call) _ record)
    rw [← heq] at hserved
    change ∃ delivery ∈ ((session.subscribe (.call call) kind key listener).audience kind).deliveries,
      delivery.handle = (session.audience kind).handleFor key listener
    rw [hserved.deliveries]
    exact (hintroduced.register key listener).exists_delivery_welcome
      (.waiting key ((session.audience kind).handleFor_mem_awaiting key listener)) record
  · rw [heq] at hreturned
    exact absurd (returned_note _ rfl) hreturned

/-- A subscription that ends with a record has served its handle. -/
theorem exists_delivery_of_arrive (hintroduced : (session.audience kind).Introduced) {id : Nat}
    {arrival : Arrival} {handle : Handle Listener}
    (hsubscriber : (session.flight? id).bind (Flight.subscriber? kind) = some (call, handle))
    (hreturned : (session.arrive id arrival).returned kind call ≠ session.returned kind call) :
    ∃ delivery ∈ (session.arrive id arrival).deliveries kind, delivery.handle = handle := by
  obtain ⟨flight, hfound, hflight⟩ := Option.bind_eq_some_iff.1 hsubscriber
  obtain ⟨-, herrand⟩ := Flight.subscriber?_eq_some_iff.1 hflight
  have hmem : flight ∈ session.flights := List.mem_of_find?_eq_some hfound
  have harrive : session.arrive id arrival =
      (session.land id arrival).resume flight (flight.request.demand.conclude arrival) := by
    rw [arrive, hfound]
  have hlanded : (session.land id arrival).returned kind call = session.returned kind call :=
    returned_note _ rfl
  rcases (session.land id arrival).resume_subscribe_cases
    (flight.request.demand.conclude arrival) herrand with
    ⟨answer, record, -, -, heq⟩ | ⟨-, result, heq, hnothing, -⟩
  · have hserved := ((session.land_absorb_covers id arrival kind record).welcome handle record).trans
      (completeSubscription_covers_self _ kind flight.owner handle record)
    rw [← heq, ← harrive] at hserved
    change ∃ delivery ∈ ((session.arrive id arrival).audience kind).deliveries,
      delivery.handle = handle
    rw [hserved.deliveries]
    exact (hintroduced.absorb record).exists_delivery_welcome
      (.waiting _ (List.mem_filterMap.2 ⟨flight, hmem, Flight.subscription?_eq_some herrand⟩)) record
  · have hresult : result.record? kind = none :=
      Outcome.record?_eq_none fun answer h => hnothing answer h ▸ rfl
    rw [harrive, heq, returned_conclude _ hresult, hlanded] at hreturned
    exact absurd rfl hreturned

theorem exists_delivery_of_access (hintroduced : (session.audience kind).Introduced)
    {access : Access} {handle : Handle Listener}
    (hsubscriber : session.subscriber? kind access = some (call, handle))
    (hreturned : (session.access access).returned kind call ≠ session.returned kind call) :
    ∃ delivery ∈ (session.access access).deliveries kind, delivery.handle = handle := by
  have hnobody {owner : Owner} {outcome : Outcome Answer} (hnone : outcome.record? kind = none)
      (heq : session.access access = session.conclude owner outcome) :
      ∃ delivery ∈ (session.access access).deliveries kind, delivery.handle = handle := by
    rw [heq] at hreturned
    exact absurd (returned_conclude session hnone) hreturned
  have hsilent (heq : session.access access = session) :
      ∃ delivery ∈ (session.access access).deliveries kind, delivery.handle = handle := by
    rw [heq] at hreturned
    exact absurd rfl hreturned
  cases access with
  | subscribe other third key listener =>
    obtain ⟨rfl, h⟩ := Option.ite_none_right_eq_some.1 hsubscriber
    obtain ⟨rfl, rfl⟩ := Prod.mk.inj (Option.some.inj h)
    exact exists_delivery_of_subscribe hintroduced hreturned
  | unsubscribe | refresh => exact absurd hsubscriber (Option.some_ne_none _).symm
  | move move =>
    cases move with
    | call other request =>
      cases request with
      | subscribe third name version listener =>
        obtain ⟨rfl, h⟩ := Option.ite_none_right_eq_some.1 hsubscriber
        obtain ⟨rfl, rfl⟩ := Prod.mk.inj (Option.some.inj h)
        rcases session.call_cases other (.subscribe third name version listener) with
          ⟨-, heq⟩ | ⟨error, -, heq⟩
        · rw [access, step, heq] at hreturned ⊢
          exact exists_delivery_of_subscribe hintroduced hreturned
        · exact hnobody rfl heq
      | _ => exact absurd hsubscriber (Option.some_ne_none _).symm
    | reply id reply =>
      rcases session.reply_cases id reply with hsame | harrives
      · exact hsilent hsame
      · rw [access, step, harrives] at hreturned ⊢
        exact exists_delivery_of_arrive hintroduced hsubscriber hreturned
    | expire id =>
      rcases session.expire_cases id with hsame | harrives
      · exact hsilent hsame
      · rw [access, step, harrives] at hreturned ⊢
        exact exists_delivery_of_arrive hintroduced hsubscriber hreturned
    | _ => exact absurd hsubscriber (Option.some_ne_none _).symm

/-! ## Runs -/

/-- Whatever is done, every handle that was reached was introduced. -/
theorem introduced_follow (hintroduced : (session.audience kind).Introduced)
    (accesses : List Access) : ((session.follow accesses).audience kind).Introduced := by
  induction accesses generalizing session with
  | nil => exact hintroduced
  | cons access accesses ih => exact ih ((session.access_effects access kind).introduced hintroduced)

theorem introduced_ofConfig (config : Config) (link : Link) (feed : Feed) (kind : Kind) :
    ((ofConfig config link feed).audience kind).Introduced := by
  have hnumbered := (orderly_ofConfig config link feed kind).numbered
  have hnobody : ∀ handle, ¬ ((ofConfig config link feed).audience kind).Knows handle := by
    intro handle hknows
    have hlt := hknows.lt_next hnumbered
    cases kind <;> exact absurd hlt (Nat.not_lt_zero _)
  constructor
  case numbered => exact hnumbered
  case sole => exact fun first _ hfirst => absurd hfirst (hnobody first)
  case reached =>
    intro handle
    constructor
    · intro hreached
      have hlt := hnumbered.reached handle hreached
      cases kind <;> exact absurd hlt (Nat.not_lt_zero _)
    · rintro ⟨delivery, hdelivery, -⟩
      exact absurd hdelivery List.not_mem_nil
  case initial => exact List.Pairwise.nil

/-- Through each handle the record that was at hand comes once at most, and then first; and a call
that subscribes returns a record only when something came through its handle: as long as each record
that is fetched, and each first delivery, goes to the listeners in one go.  However the steps of
threads interleave, there is one first delivery through a handle at most, a handle is marked just when
something came through it or is about to, and a subscription returns a record only once its handle is
marked. -/
theorem initial_delivery_comes_first (config : Config) (link : Link) (feed : Feed)
    (accesses : List Access) (kind : Kind) (pool : Pool Key) (interval : Millis)
    (acts : List (Shared.Act kind.Record Listener)) :
    let final := (ofConfig config link feed).follow accesses
    let shared : Shared kind.Record Listener := Shared.run { list := .ofPool pool interval } acts
    (∀ handle,
      ((through (final.deliveries kind) handle).filter Delivery.isInitial).length ≤ 1 ∧
        ∀ delivery ∈ (through (final.deliveries kind) handle).tail,
          delivery.isInitial = false) ∧
    (∀ access call handle, final.subscriber? kind access = some (call, handle) →
      (final.access access).returned kind call ≠ final.returned kind call →
      ∃ delivery ∈ (final.access access).deliveries kind, delivery.handle = handle) ∧
    ∀ handle,
      ((through shared.deliveries handle).filter Delivery.isInitial).length ≤ 1 ∧
        (shared.list.subscriptions.isReached handle = true ↔ shared.Calls handle) ∧
        ∀ thread ∈ shared.threads, ∀ record, thread.subscriber = some handle →
          thread.point.found? = some record →
          shared.list.subscriptions.isReached handle = true := by
  intro final shared
  have hmarked : shared.Marked := (Shared.marked_ofPool pool interval).run acts
  have hintroduced : (final.audience kind).Introduced :=
    introduced_follow (introduced_ofConfig config link feed kind) accesses
  refine ⟨fun handle => ?_, fun access call handle hsubscriber hreturned =>
    exists_delivery_of_access hintroduced hsubscriber hreturned, fun handle =>
    ⟨hmarked.length_initial_le handle, hmarked.reached handle, fun thread hthread record =>
      hmarked.returned thread hthread handle record⟩⟩
  have hpairwise : (through (final.deliveries kind) handle).Pairwise
      fun _ later => later.isInitial = false := hintroduced.pairwise_through handle
  cases hthrough : through (final.deliveries kind) handle with
  | nil => simp
  | cons first rest =>
    rw [hthrough, List.pairwise_cons] at hpairwise
    have hrest : rest.filter Delivery.isInitial = [] :=
      List.filter_eq_nil_iff.2 fun later hlater => by simp [hpairwise.1 later hlater]
    refine ⟨?_, hpairwise.1⟩
    rw [List.filter_cons, hrest]
    cases first.isInitial <;> simp

def firstListener : Listener := { label := "first" }

def secondListener : Listener := { label := "second" }

/-- A listener is about to be handed the record at hand, of which its handle is marked already, when
it subscribes once more and a refresh tells it of another record. -/
def racing : List (Shared.Act Mcp.Record Listener) :=
  [.refresh (sampleServer "http")] ++ List.replicate 7 (.step 0) ++
  [.subscribe 0 ⟨"srv", some "1"⟩ firstListener, .step 1, .step 1,
    .subscribe 0 ⟨"srv", some "1"⟩ firstListener, .step 2, .step 2,
    .refresh (sampleServer "sse")] ++ List.replicate 5 (.step 3) ++ [.step 1]

/-- The first listener is told of the record by its own fetch, and the second one is handed what is
at hand then. Among threads a listener is handed a record after it was told of another one. -/
theorem initial_delivery_comes_first_second :
    let final := (ofConfig {} {} (.ofCapacity 16)).follow
      [.subscribe 0 .mcp ⟨"srv", some "1"⟩ firstListener, answering 0 "http"]
    let access := Access.subscribe 1 .mcp ⟨"srv", some "1"⟩ secondListener
    let next := final.access access
    let shared := Shared.fresh.run racing
    (final.subscriber? .mcp access = some (1, ⟨1, secondListener⟩) ∧
      next.returned .mcp 1 ≠ final.returned .mcp 1 ∧
      (∃ delivery ∈ next.deliveries .mcp, delivery.handle = ⟨1, secondListener⟩) ∧
      (through (next.deliveries .mcp) ⟨0, firstListener⟩).map Delivery.isInitial = [false] ∧
      (through (next.deliveries .mcp) ⟨1, secondListener⟩).map Delivery.isInitial = [true]) ∧
    (through shared.deliveries ⟨0, firstListener⟩).map Delivery.isInitial = [false, true] ∧
      ((through shared.deliveries ⟨0, firstListener⟩).filter Delivery.isInitial).length ≤ 1 := by
  intro final access next shared
  have hsubscriber : final.subscriber? .mcp access = some (1, ⟨1, secondListener⟩) := by
    decide +kernel
  have hreturned : next.returned .mcp 1 ≠ final.returned .mcp 1 := by
    intro hsame
    exact absurd (congrArg List.length hsame) (by decide +kernel)
  obtain ⟨-, hserves, hthreads⟩ := initial_delivery_comes_first {} {} (.ofCapacity 16)
    [.subscribe 0 .mcp ⟨"srv", some "1"⟩ firstListener, answering 0 "http"] .mcp
    (.ofWorkers "mcp-refresh" 2) 10000 racing
  exact ⟨⟨hsubscriber, hreturned, hserves access 1 _ hsubscriber hreturned, by decide +kernel,
    by decide +kernel⟩, by decide +kernel, (hthreads ⟨0, firstListener⟩).1⟩

end Session

namespace Shared

/-- Among threads an initial delivery need not be the first, and a subscription may return a record
before anything came through its handle. -/
theorem not_forall_initial_delivery_first :
    (¬ ∀ (acts : List (Act Mcp.Record Listener)) (handle : Handle Listener),
      ∀ delivery ∈ (through (fresh.run acts).deliveries handle).tail, delivery.isInitial = false) ∧
    ¬ ∀ (acts : List (Act Mcp.Record Listener)) (handle : Handle Listener),
      ∀ thread ∈ (fresh.run acts).threads, thread.subscriber = some handle →
        thread.point.found?.isSome = true →
        ∃ delivery ∈ (fresh.run acts).deliveries, delivery.handle = handle := by
  constructor
  · intro h
    have hinitial : ((through (fresh.run Session.racing).deliveries
        ⟨0, Session.firstListener⟩).tail.all fun delivery => !delivery.isInitial) = true :=
      List.all_eq_true.2 fun delivery hdelivery => by
        rw [h Session.racing ⟨0, Session.firstListener⟩ delivery hdelivery]
        rfl
    exact absurd hinitial (by decide +kernel)
  · intro h
    let early := Session.racing.take 14
    have hreturned : ((fresh.run early).threads[2]?.any fun thread =>
        thread.subscriber = some ⟨0, Session.firstListener⟩ && thread.point.found?.isSome) = true := by
      decide +kernel
    obtain ⟨thread, hthread, hfound⟩ := (Option.any_eq_true _ _).1 hreturned
    obtain ⟨hsubscriber, hfound⟩ := (Bool.and_eq_true _ _).mp hfound
    obtain ⟨delivery, hdelivery, -⟩ := h early ⟨0, Session.firstListener⟩ thread
      (List.mem_of_getElem? hthread) (of_decide_eq_true hsubscriber) hfound
    have hnothing : (fresh.run early).deliveries.length = 0 := by decide +kernel
    exact absurd hdelivery (List.eq_nil_of_length_eq_zero hnothing ▸ List.not_mem_nil)

end Shared

end RegistrySession
