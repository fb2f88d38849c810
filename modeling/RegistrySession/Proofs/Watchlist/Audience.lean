import Mathlib.Data.List.Chain
import RegistrySession.Proofs.Watchlist.Alike
import RegistrySession.Proofs.Watchlist.Handles

/-!
# The audience of a watchlist

What listeners hear of the records of a watchlist.  A handle belongs to one key for good, since its
number is never given out again.  On a key of one version, what goes out to a handle is told apart
from what came before by where it connects to, and while the handle is registered it has heard of
the record at hand, or of one that connects alike.
-/

namespace RegistrySession

variable {ρ ℓ : Type}

namespace Watchlist

/-- The handles that hear of a record in a dispatch that takes place or does not. -/
def hearers (list : Watchlist ρ ℓ) (isDue : Bool) (key : Key) : List (Handle ℓ) :=
  if isDue then list.subscriptions.handlesOf key else []

theorem mem_hearers {list : Watchlist ρ ℓ} {isDue : Bool} {key : Key} {handle : Handle ℓ} :
    handle ∈ list.hearers isDue key ↔
      isDue = true ∧ handle ∈ list.subscriptions.handlesOf key := by
  cases isDue <;> simp [hearers]

theorem dispatch_if (list : Watchlist ρ ℓ) (isDue : Bool) (key : Key) (record : ρ) :
    (if isDue then list.dispatch key record else (list, [])) =
      ({ list with subscriptions := list.subscriptions.markAll (list.hearers isDue key) },
        announce record (list.hearers isDue key)) := by
  cases isDue <;> rfl

variable [Resource ρ]

/-- The records at hand once a fetched one is stored. -/
def recordsWith (list : Watchlist ρ ℓ) (record : ρ) : Table Key ρ :=
  let records := list.records.insert (Resource.key record) record
  if Resource.isLatest record then records.insert (Resource.key record).asLatest record
  else records

/-- Whether a fetched record goes out to the listeners of the latest slot: it is not marked as another
than the latest, and differs from the record of its own slot or replaces another version. -/
def reachesLatest (list : Watchlist ρ ℓ) (record : ρ) : Bool :=
  Resource.isLatest record &&
    (Resource.changed record (list.find? (Resource.key record)) ||
      ((list.records.insert (Resource.key record) record).find?
        (Resource.key record).asLatest).any fun held => Resource.key held ≠ Resource.key record)

/-- A record goes out to the listeners of its own key if it connects elsewhere than the record held
there, and to those of the latest slot if it reaches them. -/
theorem absorb_eq_reachesLatest (list : Watchlist ρ ℓ) (record : ρ) :
    let own := list.hearers (Resource.changed record (list.find? (Resource.key record)))
      (Resource.key record)
    let latest := list.hearers (list.reachesLatest record) (Resource.key record).asLatest
    list.absorb record =
      ({ list with
          records := list.recordsWith record
          subscriptions := list.subscriptions.markAll (own ++ latest) },
        announce record (own ++ latest)) := by
  intro own latest
  let moved := ((list.records.insert (Resource.key record) record).find?
    (Resource.key record).asLatest).any fun held => Resource.key held ≠ Resource.key record
  have hreaches : (Resource.isLatest record &&
      (Resource.changed record (list.find? (Resource.key record)) ||
        (Resource.isLatest record && moved))) = list.reachesLatest record := by
    unfold reachesLatest
    cases Resource.isLatest record <;> rfl
  rw [Subscriptions.markAll_append, announce_append]
  simp only [own, latest, ← hreaches, absorb, dispatch_if, recordsWith, hearers,
    Subscriptions.handlesOf_markAll]
  rfl

/-- What goes out to the listeners of the latest slot may have another reason than what goes out to
those of a record's own key. -/
theorem absorb_eq (list : Watchlist ρ ℓ) (record : ρ) :
    ∃ toLatest : Bool,
      let own := list.hearers (Resource.changed record (list.find? (Resource.key record)))
        (Resource.key record)
      let latest := list.hearers toLatest (Resource.key record).asLatest
      list.absorb record =
        ({ list with
            records := list.recordsWith record
            subscriptions := list.subscriptions.markAll (own ++ latest) },
          announce record (own ++ latest)) :=
  ⟨list.reachesLatest record, list.absorb_eq_reachesLatest record⟩

/-- A fetched record stands in its own slot and, unless it is marked as another than the latest, in
the latest one. -/
theorem find?_recordsWith_eq (list : Watchlist ρ ℓ) (record : ρ) (key : Key) :
    (list.recordsWith record).find? key =
      if key = Resource.key record ∨
          (Resource.isLatest record = true ∧ key = (Resource.key record).asLatest) then some record
      else list.find? key := by
  unfold recordsWith find?
  cases Resource.isLatest record with
  | false => simp only [Bool.false_eq_true, if_false, Table.find?_insert, false_and, or_false]
  | true =>
    simp only [if_true, Table.find?_insert, true_and]
    by_cases hlatest : key = (Resource.key record).asLatest
    · rw [if_pos hlatest, if_pos (.inr hlatest)]
    · simp only [hlatest, if_false, or_false]

theorem find?_recordsWith (list : Watchlist ρ ℓ) (record : ρ) {key : Key}
    (hkey : key.version.isSome = true) :
    (list.recordsWith record).find? key =
      if key = Resource.key record then some record else list.find? key := by
  have hlatest : key ≠ (Resource.key record).asLatest := by
    rintro rfl
    exact absurd hkey Bool.false_ne_true
  rw [find?_recordsWith_eq]
  simp only [hlatest, and_false, or_false]

end Watchlist

/-! ## What happens to an audience -/

/-- A watchlist with all that it handed out, the newest first, and the subscriptions whose first
record is still on its way. -/
structure Audience (ρ ℓ : Type) where
  list : Watchlist ρ ℓ
  deliveries : List (Delivery ℓ ρ)
  awaiting : List (Handle ℓ × Key)

namespace Audience

def handlesOf (audience : Audience ρ ℓ) (key : Key) : List (Handle ℓ) :=
  audience.list.subscriptions.handlesOf key

/-- Another audience in which nothing happened but that some wait no longer. -/
structure Covers (audience next : Audience ρ ℓ) : Prop where
  records : next.list.records = audience.list.records
  subscriptions : next.list.subscriptions = audience.list.subscriptions
  deliveries : next.deliveries = audience.deliveries
  awaiting : next.awaiting ⊆ audience.awaiting

/-- A handle is handed a record unless it heard of one before. -/
def welcome (audience : Audience ρ ℓ) (handle : Handle ℓ) (record : ρ) : Audience ρ ℓ where
  list :=
    { audience.list with subscriptions := audience.list.subscriptions.markReached handle }
  deliveries :=
    (if audience.list.subscriptions.isReached handle then [] else [⟨handle, record, true⟩]) ++
      audience.deliveries
  awaiting := audience.awaiting

def absorb [Resource ρ] (audience : Audience ρ ℓ) (record : ρ) : Audience ρ ℓ where
  list := (audience.list.absorb record).1
  deliveries := (audience.list.absorb record).2.reverse ++ audience.deliveries
  awaiting := audience.awaiting

section Definitions

variable [DecidableEq ℓ]

/-- A listener is registered on a key and waits for a record. -/
def register (audience : Audience ρ ℓ) (key : Key) (listener : ℓ) : Audience ρ ℓ where
  list :=
    { audience.list with
      subscriptions := (audience.list.subscriptions.register key listener).1 }
  deliveries := audience.deliveries
  awaiting := ((audience.list.subscriptions.register key listener).2, key) :: audience.awaiting

def deregister (audience : Audience ρ ℓ) (key : Key) (listener : ℓ) : Audience ρ ℓ :=
  { audience with
    list :=
      { audience.list with
        subscriptions := (audience.list.subscriptions.deregister key listener).1 } }

/-- One thing that happens to an audience. What a subscription is handed first is at hand. -/
inductive Shift [Resource ρ] (audience next : Audience ρ ℓ) : Prop
  | rest (hcovers : audience.Covers next)
  | absorb (record : ρ) (hcovers : (audience.absorb record).Covers next)
  | unsubscribe (key : Key) (listener : ℓ)
      (hcovers : (audience.deregister key listener).Covers next)
  | await (key : Key) (listener : ℓ) (hcached : audience.list.find? key = none)
      (hcovers : (audience.register key listener).Covers next)
  | subscribe (key : Key) (listener : ℓ) (record : ρ)
      (hcached : audience.list.find? key = some record)
      (hcovers : ((audience.register key listener).welcome
        (audience.list.subscriptions.register key listener).2 record).Covers next)
  | complete (handle : Handle ℓ) (key : Key) (record : ρ)
      (hwaits : (handle, key) ∈ audience.awaiting)
      (hcached : key.version.isSome = true → audience.list.find? key = some record)
      (hcovers : (audience.welcome handle record).Covers next)

/-- No number of a handle is in use that is still to be given out. -/
structure Numbered (audience : Audience ρ ℓ) : Prop where
  registered : ∀ key, ∀ handle ∈ audience.handlesOf key,
    handle.id < audience.list.subscriptions.next
  nodup : ∀ key, (audience.handlesOf key).Nodup
  awaiting : ∀ waiting ∈ audience.awaiting, waiting.1.id < audience.list.subscriptions.next
  delivered : ∀ delivery ∈ audience.deliveries,
    delivery.handle.id < audience.list.subscriptions.next
  reached : ∀ handle, audience.list.subscriptions.isReached handle = true →
    handle.id < audience.list.subscriptions.next

/-- What holds of a handle once it was registered on a key. -/
structure Follows [Resource ρ] (audience : Audience ρ ℓ) (key : Key) (handle : Handle ℓ) :
    Prop where
  known : handle.id < audience.list.subscriptions.next
  sole : ∀ other, ∀ found ∈ audience.handlesOf other, found.id = handle.id →
    found = handle ∧ other = key
  bound : ∀ waiting ∈ audience.awaiting, waiting.1.id = handle.id → waiting = (handle, key)
  reached : audience.list.subscriptions.isReached handle = true ↔
    heard audience.deliveries handle ≠ []
  chain : (heard audience.deliveries handle).IsChain fun later earlier =>
    Resource.connectsElsewhere later earlier = true

/-- A handle that is registered on a key heard last of the record at hand, or of one that connects
alike, and of nothing while there is none. -/
def UpToDate [Resource ρ] (audience : Audience ρ ℓ) (key : Key) (handle : Handle ℓ) : Prop :=
  handle ∈ audience.handlesOf key →
    (audience.list.find? key = none → heard audience.deliveries handle = []) ∧
    ∀ record, audience.list.find? key = some record →
      ∃ last, (heard audience.deliveries handle).head? = some last ∧
        Resource.connectsElsewhere last record = false

end Definitions

/-! ### Nothing happens -/

section Rest

variable {audience next : Audience ρ ℓ} {key : Key} {handle : Handle ℓ}

theorem Covers.handlesOf (hcovers : audience.Covers next) (key : Key) :
    next.handlesOf key = audience.handlesOf key := by
  rw [Audience.handlesOf, hcovers.subscriptions]
  rfl

theorem Covers.refl (audience : Audience ρ ℓ) : audience.Covers audience :=
  ⟨rfl, rfl, rfl, fun _ h => h⟩

theorem Covers.trans {last : Audience ρ ℓ} (hfirst : audience.Covers next)
    (hsecond : next.Covers last) : audience.Covers last := by
  constructor
  case records => rw [hsecond.records, hfirst.records]
  case subscriptions => rw [hsecond.subscriptions, hfirst.subscriptions]
  case deliveries => rw [hsecond.deliveries, hfirst.deliveries]
  case awaiting => exact fun _ h => hfirst.awaiting (hsecond.awaiting h)

theorem Covers.welcome (hcovers : audience.Covers next) (handle : Handle ℓ) (record : ρ) :
    (audience.welcome handle record).Covers (next.welcome handle record) := by
  constructor
  case records => exact hcovers.records
  case subscriptions => rw [Audience.welcome, hcovers.subscriptions, Audience.welcome]
  case deliveries =>
    rw [Audience.welcome, hcovers.subscriptions, hcovers.deliveries, Audience.welcome]
  case awaiting => exact hcovers.awaiting

theorem Numbered.of_covers (hnumbered : audience.Numbered) (hcovers : audience.Covers next) :
    next.Numbered := by
  constructor
  case registered =>
    intro key handle hhandle
    rw [hcovers.handlesOf] at hhandle
    rw [hcovers.subscriptions]
    exact hnumbered.registered key handle hhandle
  case nodup =>
    intro key
    rw [hcovers.handlesOf]
    exact hnumbered.nodup key
  case awaiting =>
    rw [hcovers.subscriptions]
    exact fun waiting hwaiting => hnumbered.awaiting waiting (hcovers.awaiting hwaiting)
  case delivered =>
    rw [hcovers.subscriptions, hcovers.deliveries]
    exact hnumbered.delivered
  case reached =>
    rw [hcovers.subscriptions]
    exact hnumbered.reached

variable [DecidableEq ℓ] [Resource ρ]

theorem Follows.of_covers (hfollows : audience.Follows key handle)
    (hcovers : audience.Covers next) : next.Follows key handle := by
  constructor
  case known =>
    rw [hcovers.subscriptions]
    exact hfollows.known
  case sole =>
    intro other found hfound
    rw [hcovers.handlesOf] at hfound
    exact hfollows.sole other found hfound
  case bound => exact fun waiting hwaiting => hfollows.bound waiting (hcovers.awaiting hwaiting)
  case reached =>
    rw [hcovers.subscriptions, hcovers.deliveries]
    exact hfollows.reached
  case chain =>
    rw [hcovers.deliveries]
    exact hfollows.chain

theorem UpToDate.of_covers (hupToDate : audience.UpToDate key handle)
    (hcovers : audience.Covers next) : next.UpToDate key handle := by
  have hfind : next.list.find? key = audience.list.find? key := by
    rw [Watchlist.find?, hcovers.records]
    rfl
  rw [UpToDate, hcovers.handlesOf, hfind, hcovers.deliveries]
  exact hupToDate

theorem Follows.handle_eq (hfollows : audience.Follows key handle) {other : Key}
    {found : Handle ℓ} (hfound : found ∈ audience.handlesOf other) (hid : found.id = handle.id) :
    found = handle :=
  (hfollows.sole other found hfound hid).1

theorem Follows.key_eq (hfollows : audience.Follows key handle) {other : Key}
    (hhandle : handle ∈ audience.handlesOf other) : other = key :=
  (hfollows.sole other handle hhandle rfl).2

end Rest

/-! ### A record is stored -/

section Absorb

variable [Resource ρ] {audience : Audience ρ ℓ}

@[simp]
theorem handlesOf_absorb (audience : Audience ρ ℓ) (record : ρ) (key : Key) :
    (audience.absorb record).handlesOf key = audience.handlesOf key := by
  obtain ⟨toLatest, heq⟩ := audience.list.absorb_eq record
  rw [handlesOf, absorb, heq]
  exact Subscriptions.handlesOf_markAll _ _ _

@[simp]
theorem next_absorb (audience : Audience ρ ℓ) (record : ρ) :
    (audience.absorb record).list.subscriptions.next = audience.list.subscriptions.next := by
  obtain ⟨toLatest, heq⟩ := audience.list.absorb_eq record
  rw [absorb, heq]
  exact Subscriptions.next_markAll _ _

theorem find?_absorb (audience : Audience ρ ℓ) (record : ρ) {key : Key}
    (hkey : key.version.isSome = true) :
    (audience.absorb record).list.find? key =
      if key = Resource.key record then some record else audience.list.find? key := by
  obtain ⟨toLatest, heq⟩ := audience.list.absorb_eq record
  rw [absorb, heq]
  exact audience.list.find?_recordsWith record hkey

/-- Those that a stored record goes out to are registered. -/
theorem exists_handlesOf_of_mem_hearers {record : ρ} {own latest : Bool} {handle : Handle ℓ}
    (h : handle ∈ audience.list.hearers own (Resource.key record) ++
      audience.list.hearers latest (Resource.key record).asLatest) :
    ∃ key, handle ∈ audience.handlesOf key := by
  rcases List.mem_append.1 h with h | h
  · exact ⟨_, (Watchlist.mem_hearers.1 h).2⟩
  · exact ⟨_, (Watchlist.mem_hearers.1 h).2⟩

theorem Numbered.absorb (hnumbered : audience.Numbered) (record : ρ) :
    (audience.absorb record).Numbered := by
  obtain ⟨toLatest, heq⟩ := audience.list.absorb_eq record
  constructor
  case registered =>
    intro key handle hhandle
    rw [handlesOf_absorb] at hhandle
    rw [next_absorb]
    exact hnumbered.registered key handle hhandle
  case nodup =>
    intro key
    rw [handlesOf_absorb]
    exact hnumbered.nodup key
  case awaiting =>
    rw [next_absorb]
    exact hnumbered.awaiting
  case delivered =>
    intro delivery hdelivery
    rw [next_absorb]
    rw [Audience.absorb, heq] at hdelivery
    rcases List.mem_append.1 hdelivery with hnew | hold
    · obtain ⟨handle, hhandle, rfl⟩ := List.mem_map.1 (List.mem_reverse.1 hnew)
      obtain ⟨key, hkey⟩ := exists_handlesOf_of_mem_hearers hhandle
      exact hnumbered.registered key handle hkey
    · exact hnumbered.delivered delivery hold
  case reached =>
    intro handle hreached
    rw [next_absorb]
    rw [Audience.absorb, heq, Subscriptions.isReached_markAll] at hreached
    rcases hreached with hreached | ⟨found, hfound, hid⟩
    · exact hnumbered.reached handle hreached
    · obtain ⟨key, hkey⟩ := exists_handlesOf_of_mem_hearers hfound
      rw [← hid]
      exact hnumbered.registered key found hkey

variable [DecidableEq ℓ] {key : Key} {handle : Handle ℓ}

/-- A handle hears of a stored record if it is one for the handle's key that connects elsewhere than
the record at hand. -/
def Hears (audience : Audience ρ ℓ) (record : ρ) (key : Key) (handle : Handle ℓ) : Prop :=
  handle ∈ audience.handlesOf key ∧ Resource.key record = key ∧
    Resource.changed record (audience.list.find? key) = true

/-- The latest slot is no key of one version. -/
theorem Follows.not_mem_latest (hfollows : audience.Follows key handle)
    (hkey : key.version.isSome = true) (isDue : Bool) (other : Key) :
    handle ∉ audience.list.hearers isDue other.asLatest := by
  intro hmem
  obtain rfl := hfollows.key_eq (Watchlist.mem_hearers.1 hmem).2
  exact absurd hkey Bool.false_ne_true

theorem Follows.mem_own_iff (hfollows : audience.Follows key handle) (record : ρ) :
    handle ∈ audience.list.hearers
        (Resource.changed record (audience.list.find? (Resource.key record)))
        (Resource.key record) ↔
      audience.Hears record key handle := by
  rw [Watchlist.mem_hearers]
  constructor
  · rintro ⟨hchanged, hhandle⟩
    obtain rfl := hfollows.key_eq hhandle
    exact ⟨hhandle, rfl, hchanged⟩
  · rintro ⟨hhandle, rfl, hchanged⟩
    exact ⟨hchanged, hhandle⟩

theorem Follows.heard_absorb (hfollows : audience.Follows key handle)
    (hnumbered : audience.Numbered) (hkey : key.version.isSome = true) (record : ρ) :
    (audience.Hears record key handle ∧
      heard (audience.absorb record).deliveries handle =
        record :: heard audience.deliveries handle) ∨
    (¬ audience.Hears record key handle ∧
      heard (audience.absorb record).deliveries handle = heard audience.deliveries handle) := by
  obtain ⟨toLatest, heq⟩ := audience.list.absorb_eq record
  have hnodup : (audience.list.hearers
      (Resource.changed record (audience.list.find? (Resource.key record)))
      (Resource.key record)).Nodup := by
    rw [Watchlist.hearers]
    cases Resource.changed record (audience.list.find? (Resource.key record)) with
    | true => exact hnumbered.nodup _
    | false => exact List.nodup_nil
  have hlatest : heard (announce record
      (audience.list.hearers toLatest (Resource.key record).asLatest)) handle = [] := by
    refine heard_eq_nil fun delivery hdelivery => ?_
    obtain ⟨found, hfound, rfl⟩ := List.mem_map.1 hdelivery
    rintro rfl
    exact hfollows.not_mem_latest hkey _ _ hfound
  rw [Audience.absorb, heq]
  simp only [heard_append, heard_reverse, announce_append, hlatest, List.append_nil,
    heard_announce record hnodup]
  by_cases hears : audience.Hears record key handle
  · rw [if_pos ((hfollows.mem_own_iff record).2 hears)]
    exact .inl ⟨hears, rfl⟩
  · rw [if_neg (mt (hfollows.mem_own_iff record).1 hears)]
    exact .inr ⟨hears, rfl⟩

theorem Follows.isReached_absorb (hfollows : audience.Follows key handle)
    (hkey : key.version.isSome = true) (record : ρ) :
    (audience.absorb record).list.subscriptions.isReached handle = true ↔
      audience.list.subscriptions.isReached handle = true ∨
        audience.Hears record key handle := by
  obtain ⟨toLatest, heq⟩ := audience.list.absorb_eq record
  rw [Audience.absorb, heq, Subscriptions.isReached_markAll, ← hfollows.mem_own_iff record]
  refine or_congr_right ⟨?_, fun h => ⟨handle, List.mem_append_left _ h, rfl⟩⟩
  rintro ⟨found, hfound, hid⟩
  obtain ⟨other, hother⟩ := exists_handlesOf_of_mem_hearers hfound
  obtain rfl := hfollows.handle_eq hother hid
  exact (List.mem_append.1 hfound).resolve_right (hfollows.not_mem_latest hkey _ _)

theorem Follows.absorb [LawfulResource ρ] (hfollows : audience.Follows key handle)
    (hupToDate : audience.UpToDate key handle) (hnumbered : audience.Numbered)
    (hkey : key.version.isSome = true) (record : ρ) :
    (audience.absorb record).Follows key handle := by
  have hcases := hfollows.heard_absorb hnumbered hkey record
  constructor
  case known =>
    rw [next_absorb]
    exact hfollows.known
  case sole =>
    intro other found hfound
    rw [handlesOf_absorb] at hfound
    exact hfollows.sole other found hfound
  case bound => exact hfollows.bound
  case reached =>
    rw [hfollows.isReached_absorb hkey record]
    rcases hcases with ⟨hhears, hheard⟩ | ⟨hhears, hheard⟩
    · simp [hhears, hheard]
    · rw [hheard, or_iff_left hhears]
      exact hfollows.reached
  case chain =>
    rcases hcases with ⟨⟨hhandle, -, hchanged⟩, hheard⟩ | ⟨-, hheard⟩
    · rw [hheard, List.isChain_cons]
      refine ⟨fun last hlast => ?_, hfollows.chain⟩
      obtain ⟨hnone, hsome⟩ := hupToDate hhandle
      cases hcached : audience.list.find? key with
      | none => simp [hnone hcached] at hlast
      | some held =>
        -- What was heard last connects as the record held there, and the new one does not.
        obtain ⟨found, hfound, halike⟩ := hsome held hcached
        obtain rfl : found = last := Option.some.inj (hfound.symm.trans hlast)
        rw [hcached] at hchanged
        by_contra hsame
        have hheld := Resource.connectsElsewhere_trans (Bool.eq_false_of_not_eq_true hsame) halike
        exact Bool.false_ne_true (hheld.symm.trans hchanged)
    · rw [hheard]
      exact hfollows.chain

theorem UpToDate.absorb [LawfulResource ρ] (hupToDate : audience.UpToDate key handle)
    (hfollows : audience.Follows key handle) (hnumbered : audience.Numbered)
    (hkey : key.version.isSome = true) (record : ρ) :
    (audience.absorb record).UpToDate key handle := by
  intro hhandle
  rw [handlesOf_absorb] at hhandle
  obtain ⟨hnone, hsome⟩ := hupToDate hhandle
  rw [find?_absorb audience record hkey]
  rcases hfollows.heard_absorb hnumbered hkey record with
    ⟨⟨-, hrecord, -⟩, hheard⟩ | ⟨hunchanged, hheard⟩
  · rw [if_pos hrecord.symm, hheard]
    refine ⟨fun h => absurd h (Option.some_ne_none _), fun stored hstored => ?_⟩
    obtain rfl := Option.some.inj hstored
    exact ⟨record, rfl, Resource.connectsElsewhere_self record⟩
  · rw [hheard]
    by_cases hrecord : key = Resource.key record
    · rw [if_pos hrecord]
      refine ⟨fun h => absurd h (Option.some_ne_none _), fun stored hstored => ?_⟩
      obtain rfl := Option.some.inj hstored
      have hsame : Resource.changed record (audience.list.find? key) = false :=
        Bool.eq_false_of_not_eq_true fun hchanged =>
          hunchanged ⟨hhandle, hrecord.symm, hchanged⟩
      cases hcached : audience.list.find? key with
      | none => simp [hcached, Resource.changed] at hsame
      | some held =>
        obtain ⟨last, hlast, halike⟩ := hsome held hcached
        rw [hcached, Resource.changed, Resource.connectsElsewhere_comm] at hsame
        exact ⟨last, hlast, Resource.connectsElsewhere_trans halike hsame⟩
    · rw [if_neg hrecord]
      exact ⟨hnone, hsome⟩

end Absorb

end Audience

end RegistrySession
