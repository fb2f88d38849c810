import RegistrySession.Proofs.Watchlist.Orderly

/-!
# How listeners are introduced

A listener is handed the record at hand only as the first thing that comes through its handle.  What
decides is a mark on the handle, which says just whether anything came through it; the handle may be
gone from its key by then, so that handles are told apart by their numbers.
-/

namespace RegistrySession.Audience

variable {ρ ℓ : Type}

/-- A handle that is listed, that waits for its first record or that was handed one. -/
inductive Knows (audience : Audience ρ ℓ) (handle : Handle ℓ) : Prop
  | listed (key : Key) (hlisted : handle ∈ audience.handlesOf key)
  | waiting (key : Key) (hwaits : (handle, key) ∈ audience.awaiting)
  | served (delivery : Delivery ℓ ρ) (hdelivery : delivery ∈ audience.deliveries)
      (hhandle : delivery.handle = handle)

/-- Handles have numbers of their own, are marked just if something came through them, and nothing
came through them before the record that was at hand. -/
structure Introduced (audience : Audience ρ ℓ) : Prop where
  numbered : audience.Numbered
  sole : ∀ first second, audience.Knows first → audience.Knows second →
    first.id = second.id → first = second
  reached : ∀ handle, audience.list.subscriptions.isReached handle = true ↔
    ∃ delivery ∈ audience.deliveries, delivery.handle.id = handle.id
  initial : audience.deliveries.Pairwise fun later earlier =>
    later.isInitial = true → earlier.handle.id ≠ later.handle.id

theorem Knows.lt_next {audience : Audience ρ ℓ} {handle : Handle ℓ}
    (hknows : audience.Knows handle) (hnumbered : audience.Numbered) :
    handle.id < audience.list.subscriptions.next := by
  cases hknows with
  | listed key hlisted => exact hnumbered.registered key handle hlisted
  | waiting key hwaits => exact hnumbered.awaiting (handle, key) hwaits
  | served delivery hdelivery hhandle =>
    rw [← hhandle]
    exact hnumbered.delivered delivery hdelivery

/-- Those to whom a stored record goes out are listed. -/
theorem exists_hearers_absorb [Resource ρ] (audience : Audience ρ ℓ) (record : ρ) :
    ∃ hearers : List (Handle ℓ), (∀ hearer ∈ hearers, ∃ key, hearer ∈ audience.handlesOf key) ∧
      (audience.absorb record).deliveries =
        (announce record hearers).reverse ++ audience.deliveries ∧
      ∀ handle, (audience.absorb record).list.subscriptions.isReached handle = true ↔
        audience.list.subscriptions.isReached handle = true ∨
          ∃ hearer ∈ hearers, hearer.id = handle.id := by
  let list := audience.list
  let own := list.hearers (Resource.changed record (list.find? (Resource.key record)))
    (Resource.key record)
  let latest := list.hearers (list.reachesLatest record) (Resource.key record).asLatest
  refine ⟨own ++ latest, fun hearer => exists_handlesOf_of_mem_hearers, ?_, fun handle => ?_⟩
  · rw [absorb, Watchlist.absorb_eq_reachesLatest]
  · rw [absorb, Watchlist.absorb_eq_reachesLatest]
    exact Subscriptions.isReached_markAll _ _ handle

/-! ## What happens to an audience -/

namespace Introduced

variable {audience next : Audience ρ ℓ}

/-- That some wait no longer is nothing to those who were introduced. -/
theorem of_covers (hintroduced : audience.Introduced) (hcovers : audience.Covers next) :
    next.Introduced := by
  have hknows : ∀ handle, next.Knows handle → audience.Knows handle := by
    intro handle h
    cases h with
    | listed key hlisted => exact .listed key (hcovers.handlesOf key ▸ hlisted)
    | waiting key hwaits => exact .waiting key (hcovers.awaiting hwaits)
    | served delivery hdelivery hhandle =>
      exact .served delivery (hcovers.deliveries ▸ hdelivery) hhandle
  constructor
  case numbered => exact hintroduced.numbered.of_covers hcovers
  case sole =>
    intro first second hfirst hsecond
    exact hintroduced.sole first second (hknows first hfirst) (hknows second hsecond)
  case reached =>
    rw [hcovers.subscriptions, hcovers.deliveries]
    exact hintroduced.reached
  case initial =>
    rw [hcovers.deliveries]
    exact hintroduced.initial

/-- Those to whom a stored record goes out are listed, and none of them takes it for the record that
was at hand. -/
theorem absorb [Resource ρ] (hintroduced : audience.Introduced) (record : ρ) :
    (audience.absorb record).Introduced := by
  obtain ⟨hearers, hlisted, hdeliveries, hmarked⟩ := audience.exists_hearers_absorb record
  have hnew : ∀ delivery ∈ (announce record hearers).reverse,
      delivery.handle ∈ hearers ∧ delivery.isInitial = false := by
    intro delivery hdelivery
    obtain ⟨handle, hhandle, rfl⟩ := List.mem_map.1 (List.mem_reverse.1 hdelivery)
    exact ⟨hhandle, rfl⟩
  have hknows : ∀ handle, (audience.absorb record).Knows handle → audience.Knows handle := by
    intro handle h
    cases h with
    | listed key hlisted =>
      rw [handlesOf_absorb] at hlisted
      exact .listed key hlisted
    | waiting key hwaits => exact .waiting key hwaits
    | served delivery hdelivery hhandle =>
      rw [hdeliveries] at hdelivery
      rcases List.mem_append.1 hdelivery with hdelivery | hdelivery
      · obtain ⟨key, hkey⟩ := hlisted delivery.handle (hnew delivery hdelivery).1
        exact .listed key (hhandle ▸ hkey)
      · exact .served delivery hdelivery hhandle
  constructor
  case numbered => exact hintroduced.numbered.absorb record
  case sole =>
    intro first second hfirst hsecond
    exact hintroduced.sole first second (hknows first hfirst) (hknows second hsecond)
  case reached =>
    intro handle
    rw [hmarked, hintroduced.reached, hdeliveries]
    constructor
    · rintro (⟨delivery, hdelivery, hid⟩ | ⟨hearer, hhearer, hid⟩)
      · exact ⟨delivery, List.mem_append_right _ hdelivery, hid⟩
      · refine ⟨⟨hearer, record, false⟩, List.mem_append_left _ ?_, hid⟩
        exact List.mem_reverse.2 (mem_announce.2 hhearer)
    · rintro ⟨delivery, hdelivery, hid⟩
      rcases List.mem_append.1 hdelivery with hdelivery | hdelivery
      · exact .inr ⟨delivery.handle, (hnew delivery hdelivery).1, hid⟩
      · exact .inl ⟨delivery, hdelivery, hid⟩
  case initial =>
    have hplain : ∀ later ∈ (announce record hearers).reverse, ¬ later.isInitial = true :=
      fun later hlater => Bool.not_eq_true _ ▸ (hnew later hlater).2
    rw [hdeliveries, List.pairwise_append]
    refine ⟨List.pairwise_of_forall_mem_list ?_, hintroduced.initial, ?_⟩
    · exact fun later hlater _ _ hinitial => absurd hinitial (hplain later hlater)
    · exact fun later hlater _ _ hinitial => absurd hinitial (hplain later hlater)

/-- A handle that is handed the record at hand was handed nothing before. -/
theorem welcome (hintroduced : audience.Introduced) {handle : Handle ℓ}
    (hknown : audience.Knows handle) (record : ρ) : (audience.welcome handle record).Introduced := by
  have hmarked : ∀ other, (audience.welcome handle record).list.subscriptions.isReached other = true ↔
      audience.list.subscriptions.isReached other = true ∨ handle.id = other.id :=
    fun other => Subscriptions.isReached_markReached _ handle other
  have hdeliveries : ∀ delivery, delivery ∈ (audience.welcome handle record).deliveries ↔
      (audience.list.subscriptions.isReached handle = false ∧ delivery = ⟨handle, record, true⟩) ∨
        delivery ∈ audience.deliveries := by
    intro delivery
    rw [Audience.welcome, List.mem_append]
    cases audience.list.subscriptions.isReached handle <;> simp
  have hknows : ∀ other, (audience.welcome handle record).Knows other → audience.Knows other := by
    intro other h
    cases h with
    | listed key hlisted =>
      rw [handlesOf_welcome] at hlisted
      exact .listed key hlisted
    | waiting key hwaits => exact .waiting key hwaits
    | served delivery hdelivery hhandle =>
      rcases (hdeliveries delivery).1 hdelivery with ⟨-, rfl⟩ | hdelivery
      · exact hhandle ▸ hknown
      · exact .served delivery hdelivery hhandle
  constructor
  case numbered =>
    exact hintroduced.numbered.welcome (hknown.lt_next hintroduced.numbered) record
  case sole =>
    intro first second hfirst hsecond
    exact hintroduced.sole first second (hknows first hfirst) (hknows second hsecond)
  case reached =>
    intro other
    rw [hmarked, hintroduced.reached]
    constructor
    · rintro (⟨delivery, hdelivery, hid⟩ | hid)
      · exact ⟨delivery, (hdeliveries delivery).2 (.inr hdelivery), hid⟩
      · cases hreached : audience.list.subscriptions.isReached handle with
        | false => exact ⟨⟨handle, record, true⟩, (hdeliveries _).2 (.inl ⟨hreached, rfl⟩), hid⟩
        | true =>
          obtain ⟨delivery, hdelivery, hsame⟩ := (hintroduced.reached handle).1 hreached
          exact ⟨delivery, (hdeliveries delivery).2 (.inr hdelivery), hsame.trans hid⟩
    · rintro ⟨delivery, hdelivery, hid⟩
      rcases (hdeliveries delivery).1 hdelivery with ⟨-, rfl⟩ | hdelivery
      · exact .inr hid
      · exact .inl ⟨delivery, hdelivery, hid⟩
  case initial =>
    by_cases hreached : audience.list.subscriptions.isReached handle = true
    · rw [Audience.welcome, if_pos hreached]
      exact hintroduced.initial
    · rw [Audience.welcome, if_neg hreached]
      refine List.pairwise_cons.2 ⟨fun earlier hearlier _ hid => ?_, hintroduced.initial⟩
      exact hreached ((hintroduced.reached handle).2 ⟨earlier, hearlier, hid⟩)

/-- Whoever is welcomed was handed something then. -/
theorem exists_delivery_welcome (hintroduced : audience.Introduced) {handle : Handle ℓ}
    (hknown : audience.Knows handle) (record : ρ) :
    ∃ delivery ∈ (audience.welcome handle record).deliveries, delivery.handle = handle := by
  by_cases hreached : audience.list.subscriptions.isReached handle = true
  · rw [Audience.welcome, if_pos hreached]
    obtain ⟨delivery, hdelivery, hid⟩ := (hintroduced.reached handle).1 hreached
    exact ⟨delivery, hdelivery,
      hintroduced.sole _ handle (.served delivery hdelivery rfl) hknown hid⟩
  · rw [Audience.welcome, if_neg hreached]
    exact ⟨⟨handle, record, true⟩, List.mem_cons_self, rfl⟩

variable [DecidableEq ℓ]

theorem deregister (hintroduced : audience.Introduced) (key : Key) (listener : ℓ) :
    (audience.deregister key listener).Introduced := by
  have hknows : ∀ handle, (audience.deregister key listener).Knows handle →
      audience.Knows handle := by
    intro handle h
    cases h with
    | listed other hlisted =>
      exact .listed other (handlesOf_deregister_subset audience key listener other hlisted)
    | waiting other hwaits => exact .waiting other hwaits
    | served delivery hdelivery hhandle => exact .served delivery hdelivery hhandle
  constructor
  case numbered => exact hintroduced.numbered.deregister key listener
  case sole =>
    intro first second hfirst hsecond
    exact hintroduced.sole first second (hknows first hfirst) (hknows second hsecond)
  case reached =>
    intro handle
    rw [Audience.deregister, Subscriptions.isReached, Subscriptions.reached_deregister]
    exact hintroduced.reached handle
  case initial => exact hintroduced.initial

/-- A handle is known already or has the next number, which no other has. -/
theorem register (hintroduced : audience.Introduced) (key : Key) (listener : ℓ) :
    (audience.register key listener).Introduced := by
  have hknows : ∀ handle, (audience.register key listener).Knows handle →
      audience.Knows handle ∨ (handle = audience.handleFor key listener ∧
        handle.id = audience.list.subscriptions.next) := by
    intro handle h
    cases h with
    | listed other hlisted =>
      exact (mem_handlesOf_register hlisted).imp (.listed other) And.right
    | waiting other hwaits =>
      rcases List.mem_cons.1 hwaits with hnew | hwaits
      · obtain ⟨rfl, rfl⟩ := Prod.mk.inj hnew
        rcases audience.register_cases other listener with ⟨-, hlisted⟩ | ⟨hid, -⟩
        · exact .inl (.listed other hlisted)
        · exact .inr ⟨rfl, hid⟩
      · exact .inl (.waiting other hwaits)
    | served delivery hdelivery hhandle => exact .inl (.served delivery hdelivery hhandle)
  constructor
  case numbered => exact hintroduced.numbered.register key listener
  case sole =>
    intro first second hfirst hsecond hid
    rcases hknows first hfirst with hfirst | ⟨hfirst, hnext⟩
    · rcases hknows second hsecond with hsecond | ⟨-, hnext⟩
      · exact hintroduced.sole first second hfirst hsecond hid
      · have hlt := hfirst.lt_next hintroduced.numbered
        omega
    · rcases hknows second hsecond with hsecond | ⟨hsecond, -⟩
      · have hlt := hsecond.lt_next hintroduced.numbered
        omega
      · rw [hfirst, hsecond]
  case reached =>
    intro handle
    rw [isReached_register]
    exact hintroduced.reached handle
  case initial => exact hintroduced.initial

end Introduced

end RegistrySession.Audience
