import RegistrySession.Proofs.Watchlist.Audience

/-!
# The listeners of the latest slot

Whether a record goes out to the listeners of the latest slot is decided by the record's own slot
and by whether the latest slot held another version.  A record that connects elsewhere than the one
in the latest slot is passed over just where its own slot knows it from when it was marked as not
the latest, and the latest slot is empty or holds the same version.
-/

namespace RegistrySession.Watchlist

variable {ρ ℓ : Type} [Resource ρ]

def absorbAll (list : Watchlist ρ ℓ) (records : List ρ) : Watchlist ρ ℓ :=
  records.foldl (fun list record => (list.absorb record).1) list

/-- A record that becomes the latest connects as the one in its own slot, which is marked as not the
latest, and the latest slot holds no other version. -/
structure PassesOver (list : Watchlist ρ ℓ) (record : ρ) : Prop where
  known : ∃ held, list.find? (Resource.key record) = some held ∧
    Resource.isLatest held = false ∧ Resource.connectsElsewhere record held = false
  unmoved : ∀ last, list.find? (Resource.key record).asLatest = some last →
    Resource.key last = Resource.key record

/-- Every record stands in its own slot. One that is not marked as another than the latest was stored
in the latest slot too, where only another version may have replaced it. -/
def IsFiled (list : Watchlist ρ ℓ) : Prop :=
  ∀ key held, key.version.isSome = true → list.find? key = some held →
    Resource.key held = key ∧
      (Resource.isLatest held = true → ∃ last, list.find? key.asLatest = some last ∧
        (Resource.key last = key → last = held))

section Filed

variable {list : Watchlist ρ ℓ}

/-- A record goes to its own slot, and to the latest one if it is marked so. -/
theorem find?_absorb (list : Watchlist ρ ℓ) (record : ρ) (key : Key) :
    (list.absorb record).1.find? key =
      if key = Resource.key record ∨
          (Resource.isLatest record = true ∧ key = (Resource.key record).asLatest) then some record
      else list.find? key := by
  rw [absorb_eq_reachesLatest]
  exact list.find?_recordsWith_eq record key

theorem isFiled_of_records_eq_empty (h : list.records = .empty) : list.IsFiled := by
  intro key held _ hheld
  rw [find?, h, Table.find?_empty] at hheld
  exact absurd hheld (Option.some_ne_none held).symm

/-- A record that comes in is filed, and those that were stay so. -/
theorem IsFiled.absorb (hfiled : list.IsFiled) (record : ρ) : (list.absorb record).1.IsFiled := by
  intro key held hkey hheld
  have hversion : ∀ name, key ≠ Key.latest name := by
    rintro name rfl
    exact absurd hkey Bool.false_ne_true
  rw [find?_absorb] at hheld
  simp only [hversion _, Key.asLatest, and_false, or_false] at hheld
  by_cases hown : key = Resource.key record
  · rw [if_pos hown] at hheld
    obtain rfl := Option.some.inj hheld
    refine ⟨hown.symm, fun hlatest => ⟨record, ?_, fun _ => rfl⟩⟩
    rw [find?_absorb, if_pos (.inr ⟨hlatest, congrArg Key.asLatest hown⟩)]
  · rw [if_neg hown] at hheld
    obtain ⟨hkeyHeld, hlast⟩ := hfiled key held hkey hheld
    refine ⟨hkeyHeld, fun hlatest => ?_⟩
    rw [find?_absorb]
    by_cases hslot : key.asLatest = Resource.key record ∨
        Resource.isLatest record = true ∧ key.asLatest = (Resource.key record).asLatest
    · -- only another version replaced what the latest slot held
      rw [if_pos hslot]
      exact ⟨record, rfl, fun h => absurd h.symm hown⟩
    · rw [if_neg hslot]
      exact hlast hlatest

theorem IsFiled.absorbAll (hfiled : list.IsFiled) (records : List ρ) :
    (list.absorbAll records).IsFiled := by
  induction records generalizing list with
  | nil => exact hfiled
  | cons record records ih => exact ih (hfiled.absorb record)

end Filed

section Reaching

variable {list : Watchlist ρ ℓ} {record : ρ}

/-- Only what connects alike is no change. -/
theorem changed_eq_false_iff (record : ρ) (previous : Option ρ) :
    Resource.changed record previous = false ↔
      ∃ held, previous = some held ∧ Resource.connectsElsewhere record held = false := by
  cases previous <;> simp [Resource.changed]

/-- A record that does not reach the listeners of the latest slot is known, and of the version held
there. -/
theorem reachesLatest_eq_false_iff (hlatest : Resource.isLatest record = true) :
    list.reachesLatest record = false ↔
      (∃ held, list.find? (Resource.key record) = some held ∧
        Resource.connectsElsewhere record held = false) ∧
      ∀ last, list.find? (Resource.key record).asLatest = some last →
        (Resource.key record).asLatest ≠ Resource.key record →
          Resource.key last = Resource.key record := by
  rw [reachesLatest, hlatest, Bool.true_and, Bool.or_eq_false_iff, changed_eq_false_iff,
    Table.find?_insert, Option.any_eq_false]
  refine and_congr_right fun _ => ?_
  by_cases hblank : (Resource.key record).asLatest = Resource.key record
  · simp [hblank]
  · simp [hblank, find?]

/-- Where the latest slot held something that connects elsewhere, or nothing at all. -/
theorem IsFiled.reachesLatest_iff (hfiled : list.IsFiled) (hlatest : Resource.isLatest record = true)
    (hchanged :
      Resource.changed record (list.find? (Resource.key record).asLatest) = true) :
    list.reachesLatest record = true ↔ ¬ list.PassesOver record := by
  rw [← Bool.not_eq_false, reachesLatest_eq_false_iff hlatest]
  refine not_congr ⟨?_, fun hpasses => ?_⟩
  · rintro ⟨⟨held, hheld, halike⟩, hlast⟩
    have hblank : (Resource.key record).asLatest ≠ Resource.key record := by
      intro hblank
      rw [hblank, hheld, Resource.changed, halike] at hchanged
      exact Bool.false_ne_true hchanged
    have hkey : (Resource.key record).version.isSome = true := by
      rw [← Option.not_isNone, Bool.not_eq_true', ← Bool.not_eq_true, Option.isNone_iff_eq_none]
      intro hnone
      refine hblank ?_
      rw [Key.asLatest, Key.latest, ← hnone]
    refine ⟨⟨held, hheld, Bool.eq_false_of_not_eq_true fun hmarked => ?_, halike⟩,
      fun last hfound => hlast last hfound hblank⟩
    -- A record that was stored as the latest would still stand in the latest slot.
    obtain ⟨last, hfound, hsame⟩ := (hfiled _ held hkey hheld).2 hmarked
    rw [hfound, hsame (hlast last hfound hblank), Resource.changed, halike] at hchanged
    exact Bool.false_ne_true hchanged
  · obtain ⟨held, hheld, -, halike⟩ := hpasses.known
    exact ⟨⟨held, hheld, halike⟩, fun last hfound _ => hpasses.unmoved last hfound⟩

/-- Whatever records were stored before, one that is not marked as another than the latest and
connects elsewhere than the record in the latest slot goes out to every listener there, unless it is
passed over. -/
theorem latest_listeners_called_iff (start : Watchlist ρ ℓ) (hempty : start.records = .empty)
    (history : List ρ) (record : ρ) (hlatest : Resource.isLatest record = true)
    (hchanged : Resource.changed record
      ((start.absorbAll history).find? (Resource.key record).asLatest) = true)
    (handle : Handle ℓ)
    (hhandle : handle ∈ (start.absorbAll history).subscriptions.handlesOf
      (Resource.key record).asLatest) :
    ⟨handle, record, false⟩ ∈ ((start.absorbAll history).absorb record).2 ↔
      ¬ (start.absorbAll history).PassesOver record := by
  have hfiled := (isFiled_of_records_eq_empty hempty).absorbAll history
  rw [← hfiled.reachesLatest_iff hlatest hchanged, absorb_eq_reachesLatest, mem_announce,
    List.mem_append, mem_hearers, mem_hearers]
  constructor
  · rintro (⟨hown, -⟩ | ⟨hreaches, -⟩)
    · rw [reachesLatest, hlatest, hown]
      rfl
    · exact hreaches
  · exact fun hreaches => .inr ⟨hreaches, hhandle⟩

end Reaching

/-- A watchlist with one listener, on the latest slot of a server. -/
def listeningToLatest : Watchlist Mcp.Record String where
  subscriptions := (Subscriptions.empty.register (.latest "srv") "listener").1
  pool := .ofWorkers "refresh" 1
  interval := 1000

def serverRecord (protocol : String) (isLatest : Bool) : Mcp.Record where
  name := "srv"
  version := "2"
  protocol
  latestVersion := some isLatest

/-- The first version of all to become the latest is passed over if it was fetched before. -/
theorem latest_listeners_called_iff_promoted :
    let list := listeningToLatest.absorbAll [serverRecord "http" false]
    let promoted := serverRecord "http" true
    list.find? (.latest "srv") = none ∧ list.PassesOver promoted ∧
      ⟨⟨0, "listener"⟩, promoted, false⟩ ∉ (list.absorb promoted).2 := by
  intro list promoted
  have hempty : list.find? (.latest "srv") = none := by rfl
  have hpasses : list.PassesOver promoted :=
    ⟨⟨serverRecord "http" false, (find?_absorb _ _ _).trans (if_pos (.inl rfl)),
        by decide +kernel, by decide +kernel⟩,
      fun last hlast => nomatch hempty.symm.trans hlast⟩
  refine ⟨hempty, hpasses, fun hcalled => ?_⟩
  exact (latest_listeners_called_iff listeningToLatest rfl [serverRecord "http" false] promoted rfl
    (by decide +kernel) ⟨0, "listener"⟩ (by decide +kernel)).1 hcalled hpasses

/-- The latest version is passed over if it was fetched with its new protocol while it was marked as
not the latest. -/
theorem not_forall_latest_listeners_called :
    ¬ ∀ (history : List Mcp.Record) (record : Mcp.Record),
      let list := listeningToLatest.absorbAll history
      Resource.isLatest record = true →
      Resource.changed record (list.find? (Resource.key record).asLatest) = true →
      ∀ handle ∈ list.subscriptions.handlesOf (Resource.key record).asLatest,
        ⟨handle, record, false⟩ ∈ (list.absorb record).2 := by
  intro hcalled
  let history := [serverRecord "http" true, serverRecord "sse" false]
  have hnobody : ((listeningToLatest.absorbAll history).absorb (serverRecord "sse" true)).2 = [] :=
    List.length_eq_zero_iff.1 (by decide +kernel)
  have hdelivered := hcalled history (serverRecord "sse" true) rfl (by decide +kernel)
    ⟨0, "listener"⟩ (by decide +kernel)
  rw [hnobody] at hdelivered
  exact List.not_mem_nil hdelivered

end RegistrySession.Watchlist
