import RegistrySession.Proofs.Intent.History

/-!
# The last wish wins

A log refines the map that remembers only the last wish of each name.  The refinement is a relation
between one entry and the history of its name, kept by every operation, and holds of all names at
once because operations act on each entry by itself.
-/

namespace RegistrySession.Intent

variable {π : Type} [DecidableEq π]

/-- An entry shows the last wish of its name, and the registration that was wished last. -/
structure Entry.Shows (entry : Entry π) (name : String) (history : List (Operation π)) : Prop where
  wish : lastWish? name history =
    some (if entry.isExpected then .register entry.desired else .deregister)
  registration : lastRegistration? name history = some entry.desired

namespace Operation

variable {operation : Operation π} {session : Nat} {name : String} {entry : Option (Entry π)}

/-- Without a wish of its own an operation only touches what is confirmed or under way. -/
theorem revise_of_wish?_eq_none {found : Entry π} (hwish : operation.wish? name = none)
    (hfound : operation.revise session name entry = some found) :
    ∃ old, entry = some old ∧ found.isExpected = old.isExpected ∧
      found.desired = old.desired := by
  cases makes_of_revise hfound with
  | stay _ _ hentry => exact ⟨found, hentry, rfl, rfl⟩
  | register desired hown => exact nomatch hwish.symm.trans hown
  | deregister old hown hentry => exact nomatch hwish.symm.trans hown
  | confirm old hentry hexpected hoperation => exact ⟨old, hentry, rfl, rfl⟩
  | withdraw old hentry hunexpected hoperation => exact ⟨old, hentry, rfl, rfl⟩
  | forget old hentry hoperation => exact ⟨old, hentry, rfl, rfl⟩

/-- After a wish to register the entry is there, expected and holds what was wished. -/
theorem revise_of_wish?_eq_register (session : Nat) (entry : Option (Entry π)) {desired : π}
    (hwish : operation.wish? name = some (.register desired)) :
    ∃ found, operation.revise session name entry = some found ∧ found.isExpected = true ∧
      found.desired = desired := by
  obtain rfl := eq_intendRegister_of_wish? hwish
  cases entry with
  | none => exact ⟨.ofIntent desired, by simp [revise], rfl, rfl⟩
  | some old => exact ⟨Log.renew desired old, by simp [revise], rfl, rfl⟩

theorem revise_of_wish?_eq_deregister (hwish : operation.wish? name = some .deregister) :
    operation.revise session name entry =
      entry.map fun found => { found with isUnregistering := true, isExpected := false } := by
  cases operation with
  | intendDeregister target =>
    have hname : target = name := by simpa [wish?] using hwish
    simp [revise, hname]
  | intendRegister target desired => simp [wish?] at hwish
  | _ => simp [wish?] at hwish

/-- Only a settled entry goes, unless it is removed regardless of its state. -/
theorem isSettled_of_revise_eq_none {found : Entry π}
    (hgone : operation.revise session name (some found) = none) :
    found.isSettled = true ∨ operation = .remove name := by
  cases operation.turn session name (some found) with
  | stay hwish hnext => exact nomatch hnext.symm.trans hgone
  | register desired hwish hnext => exact nomatch hgone.symm.trans hnext
  | deregister hwish hnext => exact nomatch hgone.symm.trans hnext
  | confirm old hentry hexpected hoperation hnext => exact nomatch hgone.symm.trans hnext
  | withdraw old hentry hexpected hoperation hnext => exact nomatch hgone.symm.trans hnext
  | forget hoperation hnext => exact nomatch hgone.symm.trans hnext
  | prune old hentry hsettled hoperation hnext =>
    obtain rfl := Option.some.inj hentry
    exact .inl hsettled
  | remove hoperation hnext => exact .inr hoperation

end Operation

/-- One operation keeps what an entry shows. -/
theorem shows_revise {history : List (Operation π)} {name : String} {entry : Option (Entry π)}
    (hshows : ∀ old, entry = some old → old.Shows name history) (session : Nat)
    (operation : Operation π) {found : Entry π}
    (hfound : operation.revise session name entry = some found) :
    found.Shows name (history ++ [operation]) := by
  cases hwish : operation.wish? name with
  | none =>
    obtain ⟨old, hold, hexpected, hdesired⟩ := Operation.revise_of_wish?_eq_none hwish hfound
    constructor
    · rw [lastWish?_append, lastWish?_singleton, hwish, Option.none_or, (hshows old hold).wish,
        hexpected, hdesired]
    · rw [lastRegistration?_append, lastRegistration?_singleton, hwish, Option.bind_none,
        Option.none_or, (hshows old hold).registration, hdesired]
  | some wish =>
    cases wish with
    | register desired =>
      obtain ⟨renewed, hrenewed, hexpected, hdesired⟩ :=
        Operation.revise_of_wish?_eq_register session entry hwish
      obtain rfl : found = renewed := Option.some.inj (hfound.symm.trans hrenewed)
      constructor
      · rw [lastWish?_append, lastWish?_singleton, hwish, hexpected, hdesired]
        rfl
      · rw [lastRegistration?_append, lastRegistration?_singleton, hwish, hdesired]
        rfl
    | deregister =>
      rw [Operation.revise_of_wish?_eq_deregister hwish] at hfound
      obtain ⟨old, hold, rfl⟩ := Option.map_eq_some_iff.1 hfound
      constructor
      · rw [lastWish?_append, lastWish?_singleton, hwish]
        rfl
      · rw [lastRegistration?_append, lastRegistration?_singleton, hwish,
          (hshows old hold).registration]
        rfl

/-- Every entry of a log shows the last wish of its name, whatever its history. -/
theorem shows_of_find?_replay {history : List (Operation π)} {name : String} {entry : Entry π}
    (hentry : (Log.empty.replay history).find? name = some entry) :
    entry.Shows name history := by
  induction history using List.reverseRecOn generalizing entry with
  | nil => simp [Log.replay] at hentry
  | append_singleton history operation ih =>
    rw [Log.replay_snoc, Log.find?_apply] at hentry
    exact shows_revise (fun old hold => ih hold) _ operation hentry

/-- A name whose registration is wished has an entry, unless that was removed regardless of its
state. -/
theorem exists_find?_replay {history : List (Operation π)} {name : String}
    (hkept : .remove name ∉ history) {desired : π}
    (hwish : lastWish? name history = some (.register desired)) :
    ∃ entry, (Log.empty.replay history).find? name = some entry := by
  induction history using List.reverseRecOn generalizing desired with
  | nil => simp [lastWish?] at hwish
  | append_singleton history operation ih =>
    rw [lastWish?_append, lastWish?_singleton] at hwish
    rw [Log.replay_snoc, Log.find?_apply]
    cases hown : operation.wish? name with
    | some wish =>
      rw [hown, Option.some_or, Option.some.injEq] at hwish
      rw [hwish] at hown
      obtain ⟨found, hfound, -, -⟩ := Operation.revise_of_wish?_eq_register _ _ hown
      exact ⟨found, hfound⟩
    | none =>
      rw [hown, Option.none_or] at hwish
      have hbefore : .remove name ∉ history := fun h => hkept (List.mem_append_left _ h)
      obtain ⟨old, hold⟩ := ih hbefore hwish
      rw [hold]
      cases hgone : operation.revise (Log.empty.replay history).session name (some old) with
      | some found => exact ⟨found, rfl⟩
      | none =>
        exfalso
        rcases Operation.isSettled_of_revise_eq_none hgone with hsettled | hremove
        · -- a settled entry is not expected, so its last wish cannot be a registration
          have hshown := (shows_of_find?_replay hold).wish
          obtain ⟨-, -, hexpected⟩ := old.isSettled_iff.1 hsettled
          rw [hwish, hexpected] at hshown
          simp at hshown
        · exact hkept (by simp [hremove])

/-- The log refines the map of last wishes: expected entries are those of names whose last wish is
a registration, all other entries keep the registration wished last, and no operation takes out an
entry that is not settled. -/
theorem replay_refines_lastWish (history : List (Operation π))
    (hkept : ∀ name, .remove name ∉ history) :
    (∀ name desired,
      (∃ entry, (Log.empty.replay history).find? name = some entry ∧
        entry.isExpected = true ∧ entry.desired = desired) ↔
      lastWish? name history = some (.register desired)) ∧
    (∀ name entry, (Log.empty.replay history).find? name = some entry →
      entry.isExpected = false →
      lastWish? name history = some .deregister ∧
        lastRegistration? name history = some entry.desired) ∧
    (∀ earlier operation later, history = earlier ++ operation :: later →
      ∀ name entry, (Log.empty.replay earlier).find? name = some entry →
        (Log.empty.replay (earlier ++ [operation])).find? name = none →
        entry.isSettled = true) := by
  refine ⟨?_, ?_, ?_⟩
  · intro name desired
    constructor
    · rintro ⟨entry, hentry, hexpected, hdesired⟩
      have hwish := (shows_of_find?_replay hentry).wish
      rw [hexpected, hdesired] at hwish
      exact hwish
    · intro hwish
      obtain ⟨entry, hentry⟩ := exists_find?_replay (hkept name) hwish
      have hshown := (shows_of_find?_replay hentry).wish
      rw [hwish] at hshown
      cases hexpected : entry.isExpected with
      | true => exact ⟨entry, hentry, hexpected, by simpa [hexpected] using hshown.symm⟩
      | false => simp [hexpected] at hshown
  · intro name entry hentry hexpected
    have hshows := shows_of_find?_replay hentry
    have hwish := hshows.wish
    rw [hexpected] at hwish
    exact ⟨hwish, hshows.registration⟩
  · intro earlier operation later hhistory name entry hentry hgone
    rw [Log.replay_snoc, Log.find?_apply, hentry] at hgone
    rcases Operation.isSettled_of_revise_eq_none hgone with hsettled | hremove
    · exact hsettled
    · exact absurd (by simp [hhistory, hremove]) (hkept name)

/-- A name that was pruned after the loss of a session, and registered anew. -/
theorem replay_refines_lastWish_pruned :
    let history : List (Operation Nat) :=
      [.intendRegister "svc-a" 1, .confirmPush "svc-a" 1 0, .intendDeregister "svc-a",
        .loseSession, .prune "svc-a", .intendRegister "svc-a" 2, .confirmPush "svc-a" 2 0]
    (∀ name, .remove name ∉ history) ∧
      ∃ entry, (Log.empty.replay history).find? "svc-a" = some entry ∧
        entry.isExpected = true ∧ entry.desired = 2 := by
  intro history
  have hkept : ∀ name, .remove name ∉ history := by simp [history]
  refine ⟨hkept, ?_⟩
  have hwish : lastWish? "svc-a" history = some (.register 2) := by decide
  exact ((replay_refines_lastWish history hkept).1 "svc-a" 2).2 hwish

end RegistrySession.Intent
