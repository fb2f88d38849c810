import RegistrySession.Proofs.Intent.Supersession

/-!
# Coherent entries

Eight operations set and clear the three flags of an entry, each under a guard of its own, and none
checks how the flags fit together.  Still they do.  Of the eight combinations exactly five come
about, and on these a deregistration is left to do just while one is under way.  Once under way it
lasts until its confirmation, a registration, the loss of the session or a removal.
-/

namespace RegistrySession.Intent

variable {π : Type}

namespace Entry

/-- The flags of an entry fit together. -/
structure IsCoherent (entry : Entry π) : Prop where
  /-- What is being deregistered is not wanted. -/
  unwanted : entry.isUnregistering = true → entry.isExpected = false
  /-- What is neither wanted nor being deregistered is not held. -/
  unheld : entry.isExpected = false → entry.isUnregistering = false → entry.isRegistered = false

/-- The flags fit together just if the deregistrations left to do are those under way. -/
theorem isCoherent_iff (entry : Entry π) :
    entry.IsCoherent ↔ (entry.action = some .deregister ↔ entry.isUnregistering = true) := by
  constructor
  · rintro ⟨hunwanted, hunheld⟩
    rcases entry with ⟨desired, _ | _, _ | _, _ | _⟩ <;> simp_all [action]
  · intro haction
    constructor <;> rcases entry with ⟨desired, _ | _, _ | _, _ | _⟩ <;> simp_all [action]

theorem IsCoherent.of_isExpected {entry : Entry π} (hexpected : entry.isExpected = true)
    (hunregistering : entry.isUnregistering = false) : entry.IsCoherent where
  unwanted h := absurd (hunregistering.symm.trans h) Bool.false_ne_true
  unheld h := absurd (h.symm.trans hexpected) Bool.false_ne_true

/-- A history that brings an entry about, if its flags fit together. -/
def origin (entry : Entry π) (name : String) : List (Operation π) :=
  .intendRegister name entry.desired ::
    ((if entry.isRegistered then [.confirmPush name entry.desired 0] else []) ++
      if entry.isExpected then []
      else .intendDeregister name ::
        if entry.isUnregistering then [] else [.confirmDeregistered name 0])

end Entry

variable [DecidableEq π]

/-! ## Which entries come about -/

/-- One operation keeps the flags of an entry fitting together. -/
theorem Operation.isCoherent_revise {operation : Operation π} {session : Nat} {name : String}
    {entry : Option (Entry π)} (hentry : ∀ old, entry = some old → old.IsCoherent)
    {found : Entry π} (hfound : operation.revise session name entry = some found) :
    found.IsCoherent := by
  cases makes_of_revise hfound with
  | stay _ hwish hold => exact hentry found hold
  | register desired hwish =>
    cases entry with
    | none => exact .of_isExpected rfl rfl
    | some old => exact .of_isExpected rfl rfl
  | deregister old hwish hold => exact ⟨fun _ => rfl, fun _ h => absurd h.symm Bool.false_ne_true⟩
  | confirm old hold hexpected hoperation =>
    refine ⟨(hentry old hold).unwanted, fun hunexpected => ?_⟩
    exact absurd (hunexpected.symm.trans hexpected) Bool.false_ne_true
  | withdraw old hold hunexpected hoperation => exact ⟨fun _ => hunexpected, fun _ _ => rfl⟩
  | forget old hold hoperation =>
    refine ⟨fun hunregistering => (hentry old hold).unwanted ?_, fun _ _ => rfl⟩
    exact (Bool.and_eq_true_iff.1 hunregistering).1

/-- Every history leaves flags that fit together. -/
theorem isCoherent_of_find?_replay {history : List (Operation π)} {name : String}
    {entry : Entry π} (hentry : (Log.empty.replay history).find? name = some entry) :
    entry.IsCoherent := by
  induction history using List.reverseRecOn generalizing entry with
  | nil => exact absurd hentry (Option.some_ne_none entry).symm
  | append_singleton history operation ih =>
    rw [Log.replay_snoc, Log.find?_apply] at hentry
    exact Operation.isCoherent_revise (fun old hold => ih hold) hentry

/-- Flags that fit together come about. -/
theorem find?_replay_origin {entry : Entry π} (hcoherent : entry.IsCoherent) (name : String) :
    (Log.empty.replay (entry.origin name)).find? name = some entry := by
  obtain ⟨hunwanted, hunheld⟩ := hcoherent
  have hsession : (Log.empty : Log π).session = 0 := rfl
  rcases entry with ⟨desired, _ | _, _ | _, _ | _⟩ <;>
    simp_all [Entry.origin, Log.replay, Log.find?_apply, Log.session_apply, Operation.revise,
      Entry.ofIntent]

/-- The entries that a log can come to have are those whose flags fit together. -/
theorem exists_find?_replay_iff (name : String) (entry : Entry π) :
    (∃ history, (Log.empty.replay history).find? name = some entry) ↔ entry.IsCoherent := by
  constructor
  · rintro ⟨history, hentry⟩
    exact isCoherent_of_find?_replay hentry
  · exact fun hcoherent => ⟨entry.origin name, find?_replay_origin hcoherent name⟩

/-! ## Deregistrations under way -/

/-- What ends a deregistration of the name that is under way in the given session. -/
inductive Operation.EndsDeregistration (name : String) (session : Nat) : Operation π → Prop
  | confirmation : EndsDeregistration name session (.confirmDeregistered name session)
  | registration (desired : π) : EndsDeregistration name session (.intendRegister name desired)
  | disconnection : EndsDeregistration name session .loseSession
  | removal : EndsDeregistration name session (.remove name)

namespace Operation

variable {operation : Operation π} {session : Nat} {name : String} {old : Entry π}

/-- Whatever does not end a deregistration under way leaves its entry as it is. -/
theorem revise_of_not_endsDeregistration (hcoherent : old.IsCoherent)
    (hunregistering : old.isUnregistering = true)
    (hends : ¬ operation.EndsDeregistration name session) :
    operation.revise session name (some old) = some old := by
  have hunexpected := hcoherent.unwanted hunregistering
  cases operation.turn session name (some old) with
  | stay hwish hnext => exact hnext
  | register desired hwish hnext =>
    rw [eq_intendRegister_of_wish? hwish] at hends
    exact absurd (.registration desired) hends
  | deregister hwish hnext =>
    -- the flags are set as they are already
    rw [hnext, Option.map_some, ← hunregistering, ← hunexpected]
  | confirm found hfound hexpected hoperation hnext =>
    rw [← Option.some.inj hfound, hunexpected] at hexpected
    exact absurd hexpected Bool.false_ne_true
  | withdraw found hfound hexpected hoperation hnext =>
    rw [hoperation] at hends
    exact absurd .confirmation hends
  | forget hoperation hnext =>
    rw [hoperation] at hends
    exact absurd .disconnection hends
  | prune found hfound hsettled hoperation hnext =>
    obtain ⟨-, hidle, -⟩ := found.isSettled_iff.1 hsettled
    rw [← Option.some.inj hfound, hunregistering] at hidle
    exact absurd hidle.symm Bool.false_ne_true
  | remove hoperation hnext =>
    rw [hoperation] at hends
    exact absurd .removal hends

/-- What ends a deregistration leaves none under way. -/
theorem any_isUnregistering_of_endsDeregistration (hcoherent : old.IsCoherent)
    (hunregistering : old.isUnregistering = true)
    (hends : operation.EndsDeregistration name session) :
    (operation.revise session name (some old)).any Entry.isUnregistering = false := by
  have hunexpected := hcoherent.unwanted hunregistering
  cases hends with
  | confirmation => simp [revise, hunexpected]
  | registration desired => simp [revise, Log.renew]
  | disconnection => simp [revise, Log.forget, hunexpected]
  | removal => simp [revise]

end Operation

def Log.isUnregistering (log : Log π) (name : String) : Bool :=
  (log.find? name).any Entry.isUnregistering

section Lasting

variable {history later : List (Operation π)} {name : String} {entry : Entry π}

/-- As long as the deregistration lasts, the session of the log does. -/
theorem session_replay_of_not_endsDeregistration
    (hlasting : ∀ operation ∈ later,
      ¬ operation.EndsDeregistration name (Log.empty.replay history).session) :
    (Log.empty.replay (history ++ later)).session = (Log.empty.replay history).session := by
  rw [Log.replay_append, Log.session_replay_eq_iff]
  exact fun hlost => hlasting _ hlost .disconnection

/-- An entry whose deregistration is under way stays as it is while nothing ends that. -/
theorem find?_replay_of_not_endsDeregistration
    (hentry : (Log.empty.replay history).find? name = some entry)
    (hunregistering : entry.isUnregistering = true)
    (hlasting : ∀ operation ∈ later,
      ¬ operation.EndsDeregistration name (Log.empty.replay history).session) :
    (Log.empty.replay (history ++ later)).find? name = some entry := by
  induction later using List.reverseRecOn with
  | nil => rwa [List.append_nil]
  | append_singleton earlier operation ih =>
    have hearlier : ∀ former ∈ earlier,
        ¬ former.EndsDeregistration name (Log.empty.replay history).session :=
      fun former hmem => hlasting former (List.mem_append_left [operation] hmem)
    rw [← List.append_assoc, Log.replay_snoc, Log.find?_apply, ih hearlier,
      session_replay_of_not_endsDeregistration hearlier]
    exact Operation.revise_of_not_endsDeregistration (isCoherent_of_find?_replay hentry)
      hunregistering (hlasting operation (List.mem_append_right earlier List.mem_cons_self))

/-- A deregistration is under way all along just if nothing among what follows ends it. -/
theorem isUnregistering_throughout_iff
    (hentry : (Log.empty.replay history).find? name = some entry)
    (hunregistering : entry.isUnregistering = true) :
    (∀ reached, reached <+: later →
      (Log.empty.replay (history ++ reached)).isUnregistering name = true) ↔
      ∀ operation ∈ later,
        ¬ operation.EndsDeregistration name (Log.empty.replay history).session := by
  constructor
  · intro hthroughout
    -- by induction on what follows: up to the last operation nothing ended the deregistration
    induction later using List.reverseRecOn with
    | nil => simp
    | append_singleton earlier last ih =>
      have hearlier := ih fun reached hreached =>
        hthroughout reached (hreached.trans (List.prefix_append earlier [last]))
      have hlast := hthroughout (earlier ++ [last]) List.prefix_rfl
      rw [Log.isUnregistering, ← List.append_assoc, Log.replay_snoc, Log.find?_apply,
        find?_replay_of_not_endsDeregistration hentry hunregistering hearlier,
        session_replay_of_not_endsDeregistration hearlier] at hlast
      intro operation hoperation hends
      rcases List.mem_append.1 hoperation with hmem | hmem
      · exact hearlier operation hmem hends
      · obtain rfl := List.mem_singleton.1 hmem
        have hended := Operation.any_isUnregistering_of_endsDeregistration
          (isCoherent_of_find?_replay hentry) hunregistering hends
        exact Bool.false_ne_true (hended.symm.trans hlast)
  · rintro hlasting reached ⟨rest, rfl⟩
    rw [Log.isUnregistering, find?_replay_of_not_endsDeregistration hentry hunregistering
      fun operation hmem => hlasting operation (List.mem_append_left rest hmem)]
    exact hunregistering

end Lasting

/-- Whatever the history of a log, the flags of its entries fit together, what is left to do for an
entry follows from single flags, and a deregistration under way stays so up to the first of the
operations that end it. -/
theorem replay_keeps_entries_coherent (history : List (Operation π)) (name : String)
    (entry : Entry π) (hentry : (Log.empty.replay history).find? name = some entry) :
    (entry.isUnregistering = true → entry.isExpected = false) ∧
    (entry.isExpected = false → entry.isUnregistering = false → entry.isRegistered = false) ∧
    (entry.action = none ↔ entry.isRegistered = true ∧ entry.isExpected = true) ∧
    (entry.action = some .remove ↔ entry.isSettled = true) ∧
    (entry.action = some .register ↔ entry.isExpected = true ∧ entry.isRegistered = false) ∧
    (entry.action = some .deregister ↔ entry.isUnregistering = true) ∧
    (entry.isUnregistering = true → ∀ later : List (Operation π),
      (∀ reached, reached <+: later →
        (Log.empty.replay (history ++ reached)).isUnregistering name = true) ↔
        ∀ operation ∈ later,
          ¬ operation.EndsDeregistration name (Log.empty.replay history).session) := by
  have hcoherent : entry.IsCoherent := (exists_find?_replay_iff name entry).1 ⟨history, hentry⟩
  exact ⟨hcoherent.unwanted, hcoherent.unheld, entry.action_eq_none_iff,
    entry.action_eq_remove_iff, entry.action_eq_register_iff, entry.isCoherent_iff.1 hcoherent,
    fun hunregistering later => isUnregistering_throughout_iff hentry hunregistering⟩

/-- A deregistration in the second session of a log outlasts late confirmations, a pruning, its own
repetition and the intents of other names. -/
theorem replay_keeps_entries_coherent_late :
    let history : List (Operation Nat) :=
      [.intendRegister "svc-a" 1, .loseSession, .confirmPush "svc-a" 1 0,
        .confirmRegistered "svc-a" 1, .intendDeregister "svc-a"]
    let later : List (Operation Nat) :=
      [.confirmDeregistered "svc-a" 0, .confirmPush "svc-a" 1 1, .prune "svc-a",
        .intendDeregister "svc-a", .intendRegister "svc-b" 2, .remove "svc-b"]
    let entry : Entry Nat := ⟨1, true, true, false⟩
    (Log.empty.replay history).find? "svc-a" = some entry ∧
      entry.action = some .deregister ∧
      (Log.empty.replay (history ++ later)).isUnregistering "svc-a" = true := by
  intro history later entry
  have hentry : (Log.empty.replay history).find? "svc-a" = some entry := by decide
  obtain ⟨-, -, -, -, -, haction, hlasting⟩ :=
    replay_keeps_entries_coherent history "svc-a" entry hentry
  refine ⟨hentry, haction.2 rfl, (hlasting rfl later).2 ?_ later List.prefix_rfl⟩
  have hsession : (Log.empty.replay history).session = 1 := by decide
  rw [hsession]
  intro operation hoperation hends
  cases hends <;> simp [later] at hoperation

end RegistrySession.Intent
