import RegistrySession.Proofs.Watchlist.Latest

/-!
# Who is called for a record

How often the listeners of a watchlist are called when one record is stored.  A record is told to the
listeners of two keys, its own and the latest one of its name.  A blank version makes one key of
them: its listeners are called twice, and a record that is marked as another than the latest takes
the latest slot all the same.
-/

namespace RegistrySession

variable {ρ ℓ : Type}

/-! ## Handles and their keys -/

namespace Subscriptions

/-- Each handle is listed once, under one key. -/
structure Separate (subscriptions : Subscriptions ℓ) : Prop where
  lt_next : ∀ key, ∀ handle ∈ subscriptions.handlesOf key, handle.id < subscriptions.next
  nodup : ∀ key, (subscriptions.handlesOf key).Nodup
  sole : ∀ key other handle, handle ∈ subscriptions.handlesOf key →
    handle ∈ subscriptions.handlesOf other → key = other

namespace Separate

variable {subscriptions : Subscriptions ℓ}

theorem empty : (empty : Subscriptions ℓ).Separate :=
  ⟨fun _ _ hhandle => absurd hhandle List.not_mem_nil, fun _ => List.nodup_nil,
    fun _ _ _ hhandle => absurd hhandle List.not_mem_nil⟩

theorem mem_handlesOf_iff (hseparate : subscriptions.Separate) {key : Key} {handle : Handle ℓ}
    (hhandle : handle ∈ subscriptions.handlesOf key) (other : Key) :
    handle ∈ subscriptions.handlesOf other ↔ key = other :=
  ⟨hseparate.sole key other handle hhandle, fun hsame => hsame ▸ hhandle⟩

theorem markReached (hseparate : subscriptions.Separate) (handle : Handle ℓ) :
    (subscriptions.markReached handle).Separate := by
  have hhandles : ∀ key,
      (subscriptions.markReached handle).handlesOf key = subscriptions.handlesOf key :=
    subscriptions.handlesOf_markAll [handle]
  constructor
  case lt_next =>
    intro key found hfound
    rw [hhandles] at hfound
    rw [next_markReached]
    exact hseparate.lt_next key found hfound
  case nodup =>
    intro key
    rw [hhandles]
    exact hseparate.nodup key
  case sole =>
    intro first second found hfirst hsecond
    rw [hhandles] at hfirst hsecond
    exact hseparate.sole first second found hfirst hsecond

variable [DecidableEq ℓ]

theorem register (hseparate : subscriptions.Separate) (key : Key) (listener : ℓ) :
    (subscriptions.register key listener).1.Separate := by
  have hnumber : (subscriptions.register key listener).1 = subscriptions ∨
      (subscriptions.register key listener).1.next = subscriptions.next + 1 :=
    (subscriptions.register_cases key listener).imp And.left fun hnew => hnew.2.1
  -- A handle that is listed already does not have the number of a new one.
  have hnew : ∀ other, ∀ handle ∈ subscriptions.handlesOf other, handle.id ≠ subscriptions.next :=
    fun other handle hhandle => (hseparate.lt_next other handle hhandle).ne
  constructor
  case lt_next =>
    intro other handle hhandle
    rcases hnumber with hsame | hnext
    · rw [hsame] at hhandle ⊢
      exact hseparate.lt_next other handle hhandle
    · rw [hnext]
      rcases mem_handlesOf_of_register hhandle with hold | ⟨-, -, hid⟩
      · exact (hseparate.lt_next other handle hold).trans (Nat.lt_succ_self _)
      · omega
  case nodup => exact nodup_handlesOf_register hseparate.nodup hseparate.lt_next key listener
  case sole =>
    intro first second handle hfirst hsecond
    rcases mem_handlesOf_of_register hfirst with hold | ⟨hfirst, -, hid⟩
    · rcases mem_handlesOf_of_register hsecond with hother | ⟨-, -, hid⟩
      · exact hseparate.sole first second handle hold hother
      · exact absurd hid (hnew first handle hold)
    · rcases mem_handlesOf_of_register hsecond with hother | ⟨hsecond, -⟩
      · exact absurd hid (hnew second handle hother)
      · rw [hfirst, hsecond]

theorem deregister (hseparate : subscriptions.Separate) (key : Key) (listener : ℓ) :
    (subscriptions.deregister key listener).1.Separate := by
  have hsublist := subscriptions.handlesOf_deregister_sublist key listener
  constructor
  case lt_next =>
    intro other handle hhandle
    rw [next_deregister]
    exact hseparate.lt_next other handle ((hsublist other).subset hhandle)
  case nodup => exact fun other => (hsublist other).nodup (hseparate.nodup other)
  case sole =>
    intro first second handle hfirst hsecond
    exact hseparate.sole first second handle ((hsublist first).subset hfirst)
      ((hsublist second).subset hsecond)

end Separate

variable [DecidableEq ℓ]

/-- Subscriptions of listeners that were registered, called and taken off in any order. -/
inductive Reachable : Subscriptions ℓ → Prop
  | empty : Reachable .empty
  | register {subscriptions : Subscriptions ℓ} (key : Key) (listener : ℓ)
      (hreachable : Reachable subscriptions) : Reachable (subscriptions.register key listener).1
  | deregister {subscriptions : Subscriptions ℓ} (key : Key) (listener : ℓ)
      (hreachable : Reachable subscriptions) : Reachable (subscriptions.deregister key listener).1
  | markReached {subscriptions : Subscriptions ℓ} (handle : Handle ℓ)
      (hreachable : Reachable subscriptions) : Reachable (subscriptions.markReached handle)

theorem Reachable.separate {subscriptions : Subscriptions ℓ}
    (hreachable : subscriptions.Reachable) : subscriptions.Separate := by
  induction hreachable with
  | empty => exact .empty
  | register key listener _ ih => exact ih.register key listener
  | deregister key listener _ ih => exact ih.deregister key listener
  | markReached handle _ ih => exact ih.markReached handle

theorem Reachable.markAll {subscriptions : Subscriptions ℓ}
    (hreachable : subscriptions.Reachable) (handles : List (Handle ℓ)) :
    (subscriptions.markAll handles).Reachable := by
  induction handles generalizing subscriptions with
  | nil => exact hreachable
  | cons handle handles ih => exact ih (hreachable.markReached handle)

end Subscriptions

/-! ## The keys of a record -/

namespace Resource

variable [Resource ρ]

/-- A record has a slot of its own unless its version is blank. -/
theorem key_eq_latest_iff (record : ρ) :
    key record = .latest (name record) ↔ Text.isBlank (version record) = true := by
  rw [key]
  cases hblank : Text.isBlank (version record) with
  | true => simp [Key.versioned_of_isBlank hblank]
  | false => simp [Key.versioned_of_not_isBlank hblank, Key.latest]

@[simp]
theorem asLatest_key (record : ρ) : (key record).asLatest = .latest (name record) := rfl

end Resource

/-! ## The calls for a record -/

namespace Watchlist

theorem nodup_hearers {list : Watchlist ρ ℓ} (hseparate : list.subscriptions.Separate)
    (isDue : Bool) (key : Key) :
    (list.hearers isDue key).Nodup := by
  cases isDue with
  | true => exact hseparate.nodup key
  | false => exact List.nodup_nil

variable [Resource ρ]

theorem reachesLatest_of_not_isLatest (list : Watchlist ρ ℓ) {record : ρ}
    (hmarked : Resource.isLatest record = false) : list.reachesLatest record = false := by
  rw [reachesLatest, hmarked, Bool.false_and]

theorem reachesLatest_of_changed {list : Watchlist ρ ℓ} {record : ρ}
    (hchanged : Resource.changed record (list.find? (Resource.key record)) = true) :
    list.reachesLatest record = Resource.isLatest record := by
  rw [reachesLatest, hchanged, Bool.true_or, Bool.and_true]

variable [DecidableEq ℓ] {list : Watchlist ρ ℓ} {key : Key} {handle : Handle ℓ}

theorem reachable_absorb (hreachable : list.subscriptions.Reachable) (record : ρ) :
    (list.absorb record).1.subscriptions.Reachable := by
  rw [absorb_eq_reachesLatest]
  exact hreachable.markAll _

/-- A handle hears of a record for its own key and for the latest one. -/
theorem heard_absorb (hseparate : list.subscriptions.Separate)
    (hhandle : handle ∈ list.subscriptions.handlesOf key) (record : ρ) :
    heard (list.absorb record).2 handle =
      (if Resource.changed record (list.find? (Resource.key record)) = true ∧
          key = Resource.key record then [record] else []) ++
        if list.reachesLatest record = true ∧ key = .latest (Resource.name record) then [record]
        else [] := by
  rw [absorb_eq_reachesLatest]
  simp only [announce_append, heard_append, heard_announce record (nodup_hearers hseparate _ _),
    mem_hearers, hseparate.mem_handlesOf_iff hhandle, Resource.asLatest_key]

/-- A record is told twice to the listeners of a key that is both its own and the latest one. -/
theorem length_heard_absorb_le_one_iff (hseparate : list.subscriptions.Separate)
    (hhandle : handle ∈ list.subscriptions.handlesOf key) (record : ρ) :
    (heard (list.absorb record).2 handle).length ≤ 1 ↔
      ¬ (key = .latest (Resource.name record) ∧ Text.isBlank (Resource.version record) = true ∧
        Resource.isLatest record = true ∧
        Resource.changed record (list.find? key) = true) := by
  rw [heard_absorb hseparate hhandle, List.length_append]
  by_cases hown : Resource.changed record (list.find? (Resource.key record)) = true ∧
      key = Resource.key record
  · obtain ⟨hchanged, rfl⟩ := hown
    simp only [reachesLatest_of_changed hchanged, hchanged, and_true, if_true,
      Resource.key_eq_latest_iff, List.length_singleton]
    by_cases htwice : Resource.isLatest record = true ∧ Text.isBlank (Resource.version record) = true
    · simp [htwice]
    · rw [if_neg htwice]
      simp only [List.length_nil, Nat.add_zero, Nat.le_refl, true_iff]
      rintro ⟨-, hblank, hlatest⟩
      exact htwice ⟨hlatest, hblank⟩
  · rw [if_neg hown]
    have hle : (if list.reachesLatest record = true ∧ key = .latest (Resource.name record) then
        [record] else []).length ≤ 1 := by
      by_cases hreached : list.reachesLatest record = true ∧ key = .latest (Resource.name record)
      · rw [if_pos hreached]
        exact Nat.le_refl 1
      · rw [if_neg hreached]
        exact Nat.zero_le 1
    simp only [List.length_nil, Nat.zero_add, hle, true_iff]
    rintro ⟨rfl, hblank, -, hchanged⟩
    rw [← (Resource.key_eq_latest_iff record).2 hblank] at hchanged hown
    exact hown ⟨hchanged, rfl⟩

/-- A record that is marked as another than the latest leaves the latest slots and their listeners
alone, unless it has no slot of its own. -/
theorem leaves_latest_iff [LawfulResource ρ] (hseparate : list.subscriptions.Separate) {record : ρ}
    (hmarked : Resource.isLatest record = false) :
    (∀ name, (list.absorb record).1.find? (.latest name) = list.find? (.latest name) ∧
      ∀ handle ∈ list.subscriptions.handlesOf (.latest name),
        heard (list.absorb record).2 handle = []) ↔
    (Text.isBlank (Resource.version record) = true →
      list.find? (.latest (Resource.name record)) = some record) := by
  have hstored : ∀ name, (list.absorb record).1.find? (.latest name) =
      if Key.latest name = Resource.key record then some record else list.find? (.latest name) := by
    intro name
    rw [find?_absorb, hmarked]
    simp
  constructor
  · intro hleaves hblank
    have hown := (Resource.key_eq_latest_iff record).2 hblank
    rw [← (hleaves (Resource.name record)).1, hstored, if_pos hown.symm]
  · intro hcached name
    by_cases hown : Key.latest name = Resource.key record
    · obtain rfl : name = Resource.name record := congrArg Key.name hown
      have hheld := hcached ((Resource.key_eq_latest_iff record).1 hown.symm)
      refine ⟨by rw [hstored, if_pos hown, hheld], fun handle hhandle => ?_⟩
      have hsame : Resource.changed record (list.find? (Resource.key record)) = false := by
        rw [← hown, hheld]
        exact Resource.connectsElsewhere_self record
      rw [heard_absorb hseparate hhandle, hsame, reachesLatest_of_not_isLatest _ hmarked]
      simp
    · refine ⟨by rw [hstored, if_neg hown], fun handle hhandle => ?_⟩
      rw [heard_absorb hseparate hhandle, reachesLatest_of_not_isLatest _ hmarked]
      simp [hown]

/-- Whatever is at hand and whoever listens, a stored record calls each listener of a key once at
most, and leaves the latest slots and their listeners alone if it is marked as another than the
latest: the first unless a changed record with a blank version is the latest, and the second unless
a record with a blank version is new to the latest slot. -/
theorem called_once_iff [LawfulResource ρ] (list : Watchlist ρ ℓ)
    (hreachable : list.subscriptions.Reachable) (record : ρ) :
    ((∀ key, ∀ handle ∈ list.subscriptions.handlesOf key,
        (heard (list.absorb record).2 handle).length ≤ 1) ↔
      ¬ (list.subscriptions.isSubscribed (.latest (Resource.name record)) = true ∧
        Text.isBlank (Resource.version record) = true ∧ Resource.isLatest record = true ∧
        Resource.changed record (list.find? (.latest (Resource.name record))) = true)) ∧
    (Resource.isLatest record = false →
      ((∀ name, (list.absorb record).1.find? (.latest name) = list.find? (.latest name) ∧
          ∀ handle ∈ list.subscriptions.handlesOf (.latest name),
            heard (list.absorb record).2 handle = []) ↔
        (Text.isBlank (Resource.version record) = true →
          list.find? (.latest (Resource.name record)) = some record))) := by
  have hseparate := hreachable.separate
  refine ⟨?_, leaves_latest_iff hseparate⟩
  constructor
  · rintro honce ⟨hsubscribed, hdefect⟩
    obtain ⟨handle, hhandle⟩ : ∃ handle,
        handle ∈ list.subscriptions.handlesOf (.latest (Resource.name record)) := by
      simpa [Subscriptions.isSubscribed, List.eq_nil_iff_forall_not_mem] using hsubscribed
    exact (length_heard_absorb_le_one_iff hseparate hhandle record).1 (honce _ handle hhandle)
      ⟨rfl, hdefect⟩
  · intro hsound key handle hhandle
    rw [length_heard_absorb_le_one_iff hseparate hhandle]
    rintro ⟨rfl, hdefect⟩
    refine hsound ⟨?_, hdefect⟩
    simpa [Subscriptions.isSubscribed] using List.ne_nil_of_mem hhandle

/-- A server whose record has no version. -/
def versionlessServer (protocol : String) (latestMark : Option Bool) : Mcp.Record where
  name := "srv"
  version := " "
  protocol
  latestVersion := latestMark

/-- The listener on the latest slot is called twice for the first record, and then for one that is
marked as another than the latest and takes the slot. -/
theorem called_once_iff_versionless :
    let first := versionlessServer "http" none
    let second := versionlessServer "sse" (some false)
    let after := (listeningToLatest.absorb first).1
    listeningToLatest.subscriptions.Reachable ∧ after.subscriptions.Reachable ∧
      (¬ ∀ key, ∀ handle ∈ listeningToLatest.subscriptions.handlesOf key,
        (heard (listeningToLatest.absorb first).2 handle).length ≤ 1) ∧
      ¬ ∀ name, (after.absorb second).1.find? (.latest name) = after.find? (.latest name) ∧
        ∀ handle ∈ after.subscriptions.handlesOf (.latest name),
          heard (after.absorb second).2 handle = [] := by
  intro first second after
  have hreachable : listeningToLatest.subscriptions.Reachable := .register _ _ .empty
  have hafter : after.subscriptions.Reachable := reachable_absorb hreachable first
  refine ⟨hreachable, hafter, fun honce => ?_, fun hleaves => ?_⟩
  · exact (called_once_iff listeningToLatest hreachable first).1.1 honce (by decide +kernel)
  · have hheld := ((called_once_iff after hafter second).2 rfl).1 hleaves (by decide +kernel)
    have hprotocol : (after.find? (.latest "srv")).map Mcp.Record.protocol = some "http" := by
      decide +kernel
    rw [show after.find? (.latest "srv") = some second from hheld] at hprotocol
    exact absurd hprotocol (by decide)

/-- Neither half of the law holds of every record. -/
theorem not_forall_called_once :
    (¬ ∀ (list : Watchlist Mcp.Record String) (record : Mcp.Record),
      list.subscriptions.Reachable → ∀ key, ∀ handle ∈ list.subscriptions.handlesOf key,
        (heard (list.absorb record).2 handle).length ≤ 1) ∧
    ¬ ∀ (list : Watchlist Mcp.Record String) (record : Mcp.Record),
      list.subscriptions.Reachable → Resource.isLatest record = false → ∀ name,
        (list.absorb record).1.find? (.latest name) = list.find? (.latest name) ∧
          ∀ handle ∈ list.subscriptions.handlesOf (.latest name),
            heard (list.absorb record).2 handle = [] := by
  have hreachable : listeningToLatest.subscriptions.Reachable := .register _ _ .empty
  constructor
  · intro honce
    have htwice := honce listeningToLatest (versionlessServer "http" none) hreachable (.latest "srv")
      ⟨0, "listener"⟩ (by decide +kernel)
    exact absurd htwice (by decide +kernel)
  · intro hleaves
    have hcalled := (hleaves listeningToLatest (versionlessServer "http" (some false)) hreachable rfl
      "srv").2 ⟨0, "listener"⟩ (by decide +kernel)
    exact absurd (congrArg List.length hcalled) (by decide +kernel)

end Watchlist

end RegistrySession
