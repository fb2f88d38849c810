import Mathlib.Logic.Relation
import RegistrySession.Proofs.Watchlist.Audience

/-!
# An orderly audience

Whatever happens to an audience, its handles keep numbers of their own, and those on keys of one
version follow the record at hand.
-/

namespace RegistrySession

variable {ρ ℓ : Type}

namespace Audience

/-! ## A listener goes -/

section Deregister

variable [DecidableEq ℓ] {audience : Audience ρ ℓ}

theorem handlesOf_deregister_subset (audience : Audience ρ ℓ) (key : Key) (listener : ℓ)
    (other : Key) :
    (audience.deregister key listener).handlesOf other ⊆ audience.handlesOf other :=
  (audience.list.subscriptions.handlesOf_deregister_sublist key listener other).subset

theorem Numbered.deregister (hnumbered : audience.Numbered) (key : Key) (listener : ℓ) :
    (audience.deregister key listener).Numbered := by
  have hnext : (audience.deregister key listener).list.subscriptions.next =
      audience.list.subscriptions.next := Subscriptions.next_deregister _ _ _
  constructor
  case registered =>
    intro other handle hhandle
    rw [hnext]
    exact hnumbered.registered other handle
      (handlesOf_deregister_subset audience key listener other hhandle)
  case nodup =>
    intro other
    exact (audience.list.subscriptions.handlesOf_deregister_sublist key listener other).nodup
      (hnumbered.nodup other)
  case awaiting =>
    rw [hnext]
    exact hnumbered.awaiting
  case delivered =>
    rw [hnext]
    exact hnumbered.delivered
  case reached =>
    intro handle hreached
    rw [hnext]
    refine hnumbered.reached handle ?_
    rwa [Audience.deregister, Subscriptions.isReached, Subscriptions.reached_deregister]
      at hreached

variable [Resource ρ] {key : Key} {handle : Handle ℓ}

theorem Follows.deregister (hfollows : audience.Follows key handle) (other : Key) (listener : ℓ) :
    (audience.deregister other listener).Follows key handle := by
  constructor
  case known =>
    rw [Audience.deregister, Subscriptions.next_deregister]
    exact hfollows.known
  case sole =>
    intro third found hfound
    exact hfollows.sole third found
      (handlesOf_deregister_subset audience other listener third hfound)
  case bound => exact hfollows.bound
  case reached =>
    rw [Audience.deregister, Subscriptions.isReached, Subscriptions.reached_deregister]
    exact hfollows.reached
  case chain => exact hfollows.chain

theorem UpToDate.deregister (hupToDate : audience.UpToDate key handle) (other : Key)
    (listener : ℓ) : (audience.deregister other listener).UpToDate key handle :=
  fun hhandle => hupToDate (handlesOf_deregister_subset audience other listener key hhandle)

end Deregister

/-! ## A listener comes -/

section Register

variable {audience : Audience ρ ℓ}

/-- A new handle was not reached before. -/
theorem Numbered.isReached_eq_false (hnumbered : audience.Numbered) {handle : Handle ℓ}
    (hnew : handle.id = audience.list.subscriptions.next) :
    audience.list.subscriptions.isReached handle = false := by
  refine Bool.eq_false_of_not_eq_true fun hreached => ?_
  have hlt := hnumbered.reached handle hreached
  omega

variable [DecidableEq ℓ]

def handleFor (audience : Audience ρ ℓ) (key : Key) (listener : ℓ) : Handle ℓ :=
  (audience.list.subscriptions.register key listener).2

theorem handleFor_mem_awaiting (audience : Audience ρ ℓ) (key : Key) (listener : ℓ) :
    (audience.handleFor key listener, key) ∈ (audience.register key listener).awaiting :=
  List.mem_cons_self

/-- Registering gives out the next number, or none. -/
theorem register_cases (audience : Audience ρ ℓ) (key : Key) (listener : ℓ) :
    ((audience.register key listener).list = audience.list ∧
      audience.handleFor key listener ∈ audience.handlesOf key) ∨
    ((audience.handleFor key listener).id = audience.list.subscriptions.next ∧
      (audience.register key listener).list.subscriptions.next =
        audience.list.subscriptions.next + 1 ∧
      (∀ handle, (audience.register key listener).list.subscriptions.isReached handle =
        audience.list.subscriptions.isReached handle) ∧
      ∀ other, (audience.register key listener).handlesOf other =
        if other = key then audience.handlesOf key ++ [audience.handleFor key listener]
        else audience.handlesOf other) := by
  rcases audience.list.subscriptions.register_cases key listener with
    ⟨hsame, hmem⟩ | ⟨hid, hnext, hreached, hhandles⟩
  · refine .inl ⟨?_, hmem⟩
    rw [register, hsame]
  · refine .inr ⟨hid, hnext, fun handle => ?_, hhandles⟩
    rw [register, Subscriptions.isReached, hreached]
    rfl

/-- Only the new handle is registered in addition. -/
theorem mem_handlesOf_register {key other : Key} {listener : ℓ} {handle : Handle ℓ}
    (h : handle ∈ (audience.register key listener).handlesOf other) :
    handle ∈ audience.handlesOf other ∨
      (other = key ∧ handle = audience.handleFor key listener ∧
        handle.id = audience.list.subscriptions.next) :=
  Subscriptions.mem_handlesOf_of_register h

theorem next_le_register (audience : Audience ρ ℓ) (key : Key) (listener : ℓ) :
    audience.list.subscriptions.next ≤
      (audience.register key listener).list.subscriptions.next := by
  rcases audience.register_cases key listener with ⟨hsame, -⟩ | ⟨-, hnext, -, -⟩
  · rw [hsame]
  · rw [hnext]
    exact Nat.le_succ _

theorem isReached_register (audience : Audience ρ ℓ) (key : Key) (listener : ℓ)
    (handle : Handle ℓ) :
    (audience.register key listener).list.subscriptions.isReached handle =
      audience.list.subscriptions.isReached handle := by
  rcases audience.register_cases key listener with ⟨hsame, -⟩ | ⟨-, -, hreached, -⟩
  · rw [hsame]
  · exact hreached handle

theorem Numbered.handleFor_lt (hnumbered : audience.Numbered) (key : Key) (listener : ℓ) :
    (audience.handleFor key listener).id <
      (audience.register key listener).list.subscriptions.next := by
  rcases audience.register_cases key listener with ⟨hsame, hmem⟩ | ⟨hid, hnext, -, -⟩
  · rw [hsame]
    exact hnumbered.registered key _ hmem
  · rw [hid, hnext]
    exact Nat.lt_succ_self _

theorem Numbered.register (hnumbered : audience.Numbered) (key : Key) (listener : ℓ) :
    (audience.register key listener).Numbered := by
  have hnext := audience.next_le_register key listener
  constructor
  case registered =>
    intro other handle hhandle
    rcases mem_handlesOf_register hhandle with hold | ⟨-, rfl, -⟩
    · exact (hnumbered.registered other handle hold).trans_le hnext
    · exact hnumbered.handleFor_lt key listener
  case nodup =>
    exact Subscriptions.nodup_handlesOf_register hnumbered.nodup hnumbered.registered key listener
  case awaiting =>
    intro waiting hwaiting
    rcases List.mem_cons.1 hwaiting with rfl | hwaiting
    · exact hnumbered.handleFor_lt key listener
    · exact (hnumbered.awaiting waiting hwaiting).trans_le hnext
  case delivered =>
    exact fun delivery hdelivery => (hnumbered.delivered delivery hdelivery).trans_le hnext
  case reached =>
    intro handle hreached
    rw [isReached_register] at hreached
    exact (hnumbered.reached handle hreached).trans_le hnext

/-- Nothing ever went out to a handle that is new. -/
theorem Numbered.heard_eq_nil (hnumbered : audience.Numbered) {handle : Handle ℓ}
    (hnew : handle.id = audience.list.subscriptions.next) :
    heard audience.deliveries handle = [] := by
  refine RegistrySession.heard_eq_nil fun delivery hdelivery => ?_
  rintro rfl
  have hlt := hnumbered.delivered delivery hdelivery
  omega

variable [Resource ρ] {key : Key} {handle : Handle ℓ}

/-- Whoever else is registered, a handle goes on to follow its key. -/
theorem Follows.register (hfollows : audience.Follows key handle) (other : Key) (listener : ℓ) :
    (audience.register other listener).Follows key handle := by
  -- A handle that was given a number earlier is none that is registered now.
  have hold : ∀ third, ∀ found ∈ (audience.register other listener).handlesOf third,
      found.id = handle.id → found ∈ audience.handlesOf third := by
    intro third found hfound hid
    refine (mem_handlesOf_register hfound).resolve_right ?_
    rintro ⟨-, -, hnew⟩
    exact absurd hfollows.known (by omega)
  constructor
  case known => exact hfollows.known.trans_le (audience.next_le_register other listener)
  case sole =>
    intro third found hfound hid
    exact hfollows.sole third found (hold third found hfound hid) hid
  case bound =>
    intro waiting hwaiting hid
    rcases List.mem_cons.1 hwaiting with rfl | hwaiting
    · have hmem : audience.handleFor other listener ∈
          (audience.register other listener).handlesOf other :=
        audience.list.subscriptions.mem_handlesOf_register other listener
      obtain ⟨hsame, hkey⟩ := hfollows.sole other _ (hold other _ hmem hid) hid
      exact Prod.ext hsame hkey
    · exact hfollows.bound waiting hwaiting hid
  case reached =>
    rw [isReached_register]
    exact hfollows.reached
  case chain => exact hfollows.chain

/-- A listener that joins does not put another behind. -/
theorem UpToDate.register (hupToDate : audience.UpToDate key handle)
    (hfollows : audience.Follows key handle) (other : Key) (listener : ℓ) :
    (audience.register other listener).UpToDate key handle := by
  intro hhandle
  refine hupToDate ((mem_handlesOf_register hhandle).resolve_right ?_)
  rintro ⟨-, -, hnew⟩
  exact absurd hfollows.known (by omega)

/-- From its registration on a handle hears of its key. -/
theorem Numbered.follows_handleFor (hnumbered : audience.Numbered) {listener : ℓ}
    (hnew : (audience.handleFor key listener).id = audience.list.subscriptions.next) :
    (audience.register key listener).Follows key (audience.handleFor key listener) := by
  constructor
  case known => exact hnumbered.handleFor_lt key listener
  case sole =>
    intro other found hfound hid
    rcases mem_handlesOf_register hfound with hold | ⟨hother, hsame, -⟩
    · have hlt := hnumbered.registered other found hold
      omega
    · exact ⟨hsame, hother⟩
  case bound =>
    intro waiting hwaiting hid
    rcases List.mem_cons.1 hwaiting with hwaiting | hwaiting
    · exact hwaiting
    · have hlt := hnumbered.awaiting waiting hwaiting
      omega
  case reached =>
    have hnone : heard (audience.register key listener).deliveries
        (audience.handleFor key listener) = [] := hnumbered.heard_eq_nil hnew
    rw [isReached_register, hnumbered.isReached_eq_false hnew, hnone]
    simp
  case chain =>
    have hnone : heard (audience.register key listener).deliveries
        (audience.handleFor key listener) = [] := hnumbered.heard_eq_nil hnew
    rw [hnone]
    exact List.isChain_nil

end Register

/-! ## A listener is handed its first record -/

section Welcome

@[simp]
theorem handlesOf_welcome (audience : Audience ρ ℓ) (handle : Handle ℓ) (record : ρ) (key : Key) :
    (audience.welcome handle record).handlesOf key = audience.handlesOf key := by
  rw [handlesOf, welcome, Subscriptions.handlesOf, Subscriptions.handles_markReached]
  rfl

theorem Numbered.welcome {audience : Audience ρ ℓ} {handle : Handle ℓ}
    (hnumbered : audience.Numbered)
    (hhandle : handle.id < audience.list.subscriptions.next) (record : ρ) :
    (audience.welcome handle record).Numbered := by
  have hnext : (audience.welcome handle record).list.subscriptions.next =
      audience.list.subscriptions.next := Subscriptions.next_markReached _ _
  constructor
  case registered =>
    intro key other hother
    rw [handlesOf_welcome] at hother
    rw [hnext]
    exact hnumbered.registered key other hother
  case nodup =>
    intro key
    rw [handlesOf_welcome]
    exact hnumbered.nodup key
  case awaiting =>
    rw [hnext]
    exact hnumbered.awaiting
  case delivered =>
    intro delivery hdelivery
    rw [hnext]
    rcases List.mem_append.1 hdelivery with hnew | hold
    · by_cases hreached : audience.list.subscriptions.isReached handle = true
      · rw [if_pos hreached] at hnew
        exact absurd hnew List.not_mem_nil
      · rw [if_neg hreached] at hnew
        obtain rfl := List.mem_singleton.1 hnew
        exact hhandle
    · exact hnumbered.delivered delivery hold
  case reached =>
    intro other hreached
    rw [hnext]
    rcases (Subscriptions.isReached_markReached _ _ _).1 hreached with hreached | hid
    · exact hnumbered.reached other hreached
    · rwa [← hid]

variable [DecidableEq ℓ] {audience : Audience ρ ℓ} {key : Key} {handle : Handle ℓ}

/-- Whoever is welcomed, the others hear nothing of it. -/
theorem heard_welcome_of_ne {other : Handle ℓ} (hne : other ≠ handle) (record : ρ) :
    heard (audience.welcome other record).deliveries handle =
      heard audience.deliveries handle := by
  rw [welcome, heard_append, List.append_left_eq_self]
  by_cases hreached : audience.list.subscriptions.isReached other = true
  · rw [if_pos hreached]
    rfl
  · rw [if_neg hreached, heard_cons, if_neg hne]
    rfl

theorem heard_welcome_self (audience : Audience ρ ℓ) (handle : Handle ℓ) (record : ρ) :
    heard (audience.welcome handle record).deliveries handle =
      if audience.list.subscriptions.isReached handle then heard audience.deliveries handle
      else record :: heard audience.deliveries handle := by
  rw [welcome, heard_append]
  by_cases hreached : audience.list.subscriptions.isReached handle = true
  · rw [if_pos hreached, if_pos hreached]
    rfl
  · rw [if_neg hreached, if_neg hreached, heard_cons, if_pos rfl]
    rfl

variable [Resource ρ] {other : Key} {found : Handle ℓ} {record : ρ}

theorem Follows.welcome (hfollows : audience.Follows key handle)
    (hwaits : (found, other) ∈ audience.awaiting) :
    (audience.welcome found record).Follows key handle := by
  have hsame : found.id = handle.id → found = handle := fun hid =>
    congrArg Prod.fst (hfollows.bound (found, other) hwaits hid)
  constructor
  case known =>
    rw [Audience.welcome, Subscriptions.next_markReached]
    exact hfollows.known
  case sole =>
    intro third listed hlisted
    rw [handlesOf_welcome] at hlisted
    exact hfollows.sole third listed hlisted
  case bound => exact hfollows.bound
  case reached =>
    have hreached : (audience.welcome found record).list.subscriptions.isReached handle = true ↔
        audience.list.subscriptions.isReached handle = true ∨ found.id = handle.id :=
      Subscriptions.isReached_markReached _ _ _
    rw [hreached]
    by_cases hfound : found = handle
    · subst hfound
      rw [heard_welcome_self]
      by_cases hbefore : audience.list.subscriptions.isReached found = true
      · simp [hbefore, hfollows.reached.1 hbefore]
      · simp [hbefore]
    · rw [heard_welcome_of_ne hfound, or_iff_left (mt hsame hfound)]
      exact hfollows.reached
  case chain =>
    by_cases hfound : found = handle
    · subst hfound
      rw [heard_welcome_self]
      by_cases hbefore : audience.list.subscriptions.isReached found = true
      · rw [if_pos hbefore]
        exact hfollows.chain
      · have hnone : heard audience.deliveries found = [] := by
          by_contra hsome
          exact hbefore (hfollows.reached.2 hsome)
        rw [if_neg hbefore, hnone]
        exact List.isChain_singleton record
    · rw [heard_welcome_of_ne hfound]
      exact hfollows.chain

/-- What a handle heard first is at hand, so that it is up to date if it was so before or heard of
nothing. -/
theorem Follows.upToDate_welcome [LawfulResource ρ] (hfollows : audience.Follows key handle)
    (hwaits : (found, other) ∈ audience.awaiting)
    (hcached : other.version.isSome = true → audience.list.find? other = some record)
    (hkey : key.version.isSome = true)
    (hupToDate : audience.list.subscriptions.isReached handle = true ∨ found ≠ handle →
      audience.UpToDate key handle) :
    (audience.welcome found record).UpToDate key handle := by
  intro hhandle
  rw [handlesOf_welcome] at hhandle
  by_cases hfound : found = handle
  · subst hfound
    obtain rfl := congrArg Prod.snd (hfollows.bound (found, other) hwaits rfl)
    rw [heard_welcome_self]
    by_cases hreached : audience.list.subscriptions.isReached found = true
    · rw [if_pos hreached]
      exact hupToDate (.inl hreached) hhandle
    · rw [if_neg hreached]
      change (audience.list.find? other = none → _) ∧ ∀ stored,
        audience.list.find? other = some stored → _
      rw [hcached hkey]
      refine ⟨fun h => absurd h (Option.some_ne_none _), fun stored hstored => ?_⟩
      obtain rfl := Option.some.inj hstored
      exact ⟨record, rfl, Resource.connectsElsewhere_self record⟩
  · rw [heard_welcome_of_ne hfound]
    exact hupToDate (.inr hfound) hhandle

end Welcome

/-! ## Whatever happens -/

section Shifts

variable [DecidableEq ℓ] [Resource ρ] {audience next : Audience ρ ℓ} {key : Key}
  {handle : Handle ℓ}

theorem Shift.numbered (hshift : audience.Shift next) (hnumbered : audience.Numbered) :
    next.Numbered := by
  cases hshift with
  | rest hcovers => exact hnumbered.of_covers hcovers
  | absorb record hcovers => exact (hnumbered.absorb record).of_covers hcovers
  | unsubscribe other listener hcovers =>
    exact (hnumbered.deregister other listener).of_covers hcovers
  | await other listener hcached hcovers =>
    exact (hnumbered.register other listener).of_covers hcovers
  | subscribe other listener record hcached hcovers =>
    exact ((hnumbered.register other listener).welcome
      (hnumbered.handleFor_lt other listener) record).of_covers hcovers
  | complete found other record hwaits hcached hcovers =>
    exact (hnumbered.welcome (hnumbered.awaiting _ hwaits) record).of_covers hcovers

/-- What holds of the handles on keys of one version. -/
structure Informs (audience : Audience ρ ℓ) (key : Key) (handle : Handle ℓ) : Prop where
  follows : audience.Follows key handle
  upToDate : audience.UpToDate key handle

variable [LawfulResource ρ]

/-- No shift keeps a record from those who follow its key. -/
theorem Shift.informs (hshift : audience.Shift next) (hnumbered : audience.Numbered)
    (hkey : key.version.isSome = true) (hinforms : audience.Informs key handle) :
    next.Informs key handle := by
  obtain ⟨hfollows, hupToDate⟩ := hinforms
  cases hshift with
  | rest hcovers => exact ⟨hfollows.of_covers hcovers, hupToDate.of_covers hcovers⟩
  | absorb record hcovers =>
    exact ⟨(hfollows.absorb hupToDate hnumbered hkey record).of_covers hcovers,
      (hupToDate.absorb hfollows hnumbered hkey record).of_covers hcovers⟩
  | unsubscribe other listener hcovers =>
    exact ⟨(hfollows.deregister other listener).of_covers hcovers,
      (hupToDate.deregister other listener).of_covers hcovers⟩
  | await other listener hcached hcovers =>
    exact ⟨(hfollows.register other listener).of_covers hcovers,
      (hupToDate.register hfollows other listener).of_covers hcovers⟩
  | subscribe other listener record hcached hcovers =>
    have hregistered := hfollows.register other listener
    have hwaits := audience.handleFor_mem_awaiting other listener
    exact ⟨(hregistered.welcome hwaits).of_covers hcovers,
      (hregistered.upToDate_welcome hwaits (fun _ => hcached) hkey
        fun _ => hupToDate.register hfollows other listener).of_covers hcovers⟩
  | complete found other record hwaits hcached hcovers =>
    exact ⟨(hfollows.welcome hwaits).of_covers hcovers,
      (hfollows.upToDate_welcome hwaits hcached hkey fun _ => hupToDate).of_covers hcovers⟩

/-- A handle is up to date from the moment on at which it is registered. -/
theorem Shift.informs_of_new (hshift : audience.Shift next) (hnumbered : audience.Numbered)
    (hkey : key.version.isSome = true) (hbefore : handle ∉ audience.handlesOf key)
    (hafter : handle ∈ next.handlesOf key) : next.Informs key handle := by
  cases hshift with
  | rest hcovers =>
    rw [hcovers.handlesOf] at hafter
    exact absurd hafter hbefore
  | absorb record hcovers =>
    rw [hcovers.handlesOf, handlesOf_absorb] at hafter
    exact absurd hafter hbefore
  | unsubscribe other listener hcovers =>
    rw [hcovers.handlesOf] at hafter
    exact absurd (handlesOf_deregister_subset audience other listener key hafter) hbefore
  | await other listener hcached hcovers =>
    rw [hcovers.handlesOf] at hafter
    obtain ⟨rfl, rfl, hnew⟩ := (mem_handlesOf_register hafter).resolve_left hbefore
    refine ⟨(hnumbered.follows_handleFor hnew).of_covers hcovers, ?_⟩
    have hupToDate : (audience.register key listener).UpToDate key
        (audience.handleFor key listener) := by
      refine fun _ => ⟨fun _ => hnumbered.heard_eq_nil hnew, fun record hrecord => ?_⟩
      exact absurd (hcached.symm.trans hrecord) (Option.some_ne_none record).symm
    exact hupToDate.of_covers hcovers
  | subscribe other listener record hcached hcovers =>
    rw [hcovers.handlesOf, handlesOf_welcome] at hafter
    obtain ⟨rfl, rfl, hnew⟩ := (mem_handlesOf_register hafter).resolve_left hbefore
    have hfollows := hnumbered.follows_handleFor hnew
    have hwaits := audience.handleFor_mem_awaiting key listener
    refine ⟨(hfollows.welcome hwaits).of_covers hcovers,
      (hfollows.upToDate_welcome hwaits (fun _ => hcached) hkey ?_).of_covers hcovers⟩
    rintro (hreached | hne)
    · rw [isReached_register, hnumbered.isReached_eq_false hnew] at hreached
      exact absurd hreached Bool.false_ne_true
    · exact absurd rfl hne
  | complete found other record hwaits hcached hcovers =>
    rw [hcovers.handlesOf, handlesOf_welcome] at hafter
    exact absurd hafter hbefore

/-- Every handle that is registered on a key of one version follows its record. -/
structure Orderly (audience : Audience ρ ℓ) : Prop where
  numbered : audience.Numbered
  informs : ∀ key : Key, key.version.isSome = true → ∀ handle ∈ audience.handlesOf key,
    audience.Informs key handle

/-- Every shift keeps the audience in order. -/
theorem Shift.orderly (hshift : audience.Shift next) (horderly : audience.Orderly) :
    next.Orderly := by
  refine ⟨hshift.numbered horderly.numbered, fun key hkey handle hafter => ?_⟩
  by_cases hbefore : handle ∈ audience.handlesOf key
  · exact hshift.informs horderly.numbered hkey (horderly.informs key hkey handle hbefore)
  · exact hshift.informs_of_new horderly.numbered hkey hbefore hafter

/-- As long as only shifts happen, the audience stays in order. -/
theorem Orderly.of_shifts (horderly : audience.Orderly)
    (hshifts : Relation.ReflTransGen Shift audience next) : next.Orderly := by
  induction hshifts with
  | refl => exact horderly
  | tail _ hshift ih => exact hshift.orderly ih

theorem Informs.of_shifts (hinforms : audience.Informs key handle) (horderly : audience.Orderly)
    (hkey : key.version.isSome = true) (hshifts : Relation.ReflTransGen Shift audience next) :
    next.Informs key handle := by
  induction hshifts with
  | refl => exact hinforms
  | tail hearlier hshift ih =>
    exact hshift.informs (horderly.of_shifts hearlier).numbered hkey ih

end Shifts

end Audience

end RegistrySession
