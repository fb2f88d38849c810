import RegistrySession.Proofs.Intent.LastWish

/-!
# Superseded confirmations

A push is started with the session of its moment, and confirmed later with that session.  In
between the application may have wished otherwise, and wished the same again.  The guards of a
confirmation look at the present entry only, so they cannot tell such a return from a wish that
stood all the time.  The main statement says exactly when a superseded confirmation still counts.
-/

namespace RegistrySession.Intent

variable {π : Type} [DecidableEq π]

namespace Log

/-- Sessions of a log are counted by its losses. -/
theorem session_replay (log : Log π) (history : List (Operation π)) :
    (log.replay history).session = log.session + history.count .loseSession := by
  induction history using List.reverseRecOn with
  | nil => rfl
  | append_singleton history operation ih =>
    rw [replay_snoc, session_apply, ih, List.count_append, Nat.add_assoc]
    by_cases h : operation = .loseSession
    · rw [if_pos h, h, List.count_singleton_self]
    · rw [if_neg h, List.count_singleton, if_neg (by simpa using h)]

/-- The session of a log lasts until it is lost. -/
theorem session_replay_eq_iff (log : Log π) (history : List (Operation π)) :
    (log.replay history).session = log.session ↔ .loseSession ∉ history := by
  rw [session_replay, ← List.count_eq_zero]
  omega

/-- A confirmation changes a log just if its session lasts and the entry waits for it: the action
it confirms is left to do, and for the very registration that was pushed. -/
theorem confirm_ne_self_iff (log : Log π) (name : String) (wish : Wish π) (session : Nat) :
    log.confirm (wish.confirmation name session) ≠ log ↔
      log.session = session ∧ ∃ entry, log.find? name = some entry ∧
        entry.action = some wish.action ∧
        ∀ desired, wish = .register desired → entry.desired = desired := by
  cases wish with
  | register desired =>
    simp only [Wish.confirmation, confirm, confirmPush, ne_eq, amend_eq_self_iff, Wish.action,
      Entry.action_eq_register_iff, Wish.register.injEq, forall_eq']
    constructor
    · intro hchange
      push Not at hchange
      obtain ⟨entry, hentry, hdiffers⟩ := hchange
      by_cases hguard : entry.isExpected ∧ entry.desired = desired ∧ log.session = session
      · obtain ⟨hexpected, hdesired, hsession⟩ := hguard
        refine ⟨hsession, entry, hentry, ⟨hexpected, ?_⟩, hdesired⟩
        cases hregistered : entry.isRegistered with
        | false => rfl
        | true =>
          rw [if_pos ⟨hexpected, hdesired, hsession⟩, ← hregistered] at hdiffers
          exact absurd rfl hdiffers
      · rw [if_neg hguard] at hdiffers
        exact absurd rfl hdiffers
    · rintro ⟨hsession, entry, hentry, ⟨hexpected, hregistered⟩, hdesired⟩ hsame
      have hkept := hsame entry hentry
      rw [if_pos ⟨hexpected, hdesired, hsession⟩] at hkept
      have hconfirmed := congrArg Entry.isRegistered hkept
      rw [hregistered] at hconfirmed
      exact absurd hconfirmed (by simp)
  | deregister =>
    simp only [Wish.confirmation, confirm, confirmDeregistered, ne_eq, amend_eq_self_iff,
      Wish.action, Entry.action_eq_deregister_iff]
    constructor
    · intro hchange
      push Not at hchange
      obtain ⟨entry, hentry, hdiffers⟩ := hchange
      by_cases hguard : (!entry.isExpected) = true ∧ log.session = session
      · have hexpected : entry.isExpected = false := by simpa using hguard.1
        refine ⟨hguard.2, entry, hentry, ⟨hexpected, ?_⟩, by simp⟩
        cases hsettled : entry.isSettled with
        | false => rfl
        | true =>
          rw [if_pos hguard] at hdiffers
          obtain ⟨desired, isRegistered, isUnregistering, isExpected⟩ := entry
          simp_all [Entry.isSettled]
      · rw [if_neg hguard] at hdiffers
        exact absurd rfl hdiffers
    · rintro ⟨hsession, entry, hentry, ⟨hexpected, hsettled⟩, -⟩ hsame
      have hkept := hsame entry hentry
      rw [if_pos ⟨by simp [hexpected], hsession⟩] at hkept
      rw [← hkept] at hsettled
      simp [Entry.isSettled, hexpected] at hsettled

end Log

/-- A confirmation that a different wish superseded counts just if no session was lost since its
push was started, the wish that it confirms was recorded once more and as the last one, and is not
confirmed yet. -/
theorem superseded_confirm_ne_iff (before during : List (Operation π)) (name : String)
    (wish : Wish π)
    (hsuperseded : ∃ operation ∈ during, ∃ other, operation.wish? name = some other ∧
      other ≠ wish) :
    let start := Log.empty.replay before
    let log := start.replay during
    log.confirm (wish.confirmation name start.session) ≠ log ↔
      .loseSession ∉ during ∧ lastWish? name during = some wish ∧
        (log.find? name).bind Entry.action = some wish.action := by
  intro start log
  obtain ⟨operation, hmem, other, hother, -⟩ := hsuperseded
  have hlast : lastWish? name (before ++ during) = lastWish? name during :=
    lastWish?_append_of_mem hmem hother
  have hlog : log = Log.empty.replay (before ++ during) := (Log.replay_append _ _ _).symm
  rw [Log.confirm_ne_self_iff, Log.session_replay_eq_iff]
  constructor
  · rintro ⟨hsession, entry, hentry, haction, hdesired⟩
    refine ⟨hsession, ?_, by rw [hentry, Option.bind_some, haction]⟩
    have hshown := (shows_of_find?_replay (hlog ▸ hentry)).wish
    rw [← hlast, hshown]
    cases wish with
    | register desired =>
      rw [((Entry.action_eq_register_iff entry).1 haction).1, hdesired desired rfl]
      rfl
    | deregister =>
      rw [((Entry.action_eq_deregister_iff entry).1 haction).1]
      rfl
  · rintro ⟨hsession, hwish, haction⟩
    obtain ⟨entry, hentry, haction⟩ := Option.bind_eq_some_iff.1 haction
    refine ⟨hsession, entry, hentry, haction, ?_⟩
    rintro desired rfl
    have hshown := (shows_of_find?_replay (hlog ▸ hentry)).wish
    rw [hlast, hwish, ((Entry.action_eq_register_iff entry).1 haction).1] at hshown
    simpa using hshown.symm

/-- A registration that is wished again after a deregistration is confirmed by the push from
before. -/
theorem superseded_confirm_ne_iff_again :
    let before : List (Operation Nat) := [.intendRegister "svc-a" 1]
    let during : List (Operation Nat) := [.intendDeregister "svc-a", .intendRegister "svc-a" 1]
    let start := Log.empty.replay before
    let log := start.replay during
    (∃ operation ∈ during, ∃ other, operation.wish? "svc-a" = some other ∧
      other ≠ .register 1) ∧
      log.confirm ((Wish.register 1).confirmation "svc-a" start.session) ≠ log := by
  intro before during start log
  have hsuperseded : ∃ operation ∈ during, ∃ other, operation.wish? "svc-a" = some other ∧
      other ≠ .register 1 :=
    ⟨.intendDeregister "svc-a", by simp [during], .deregister, by decide, by decide⟩
  refine ⟨hsuperseded, ?_⟩
  exact (superseded_confirm_ne_iff before during "svc-a" (.register 1) hsuperseded).2
    ⟨by decide, by decide, by decide⟩

/-- So not every superseded confirmation leaves the log as it is. -/
theorem not_forall_superseded_confirm_eq :
    ¬ ∀ (before during : List (Operation Nat)) (name : String) (wish : Wish Nat),
      (∃ operation ∈ during, ∃ other, operation.wish? name = some other ∧ other ≠ wish) →
      let start := Log.empty.replay before
      let log := start.replay during
      log.confirm (wish.confirmation name start.session) = log := by
  intro hall
  have hsame := hall [.intendRegister "svc-a" 1]
    [.intendDeregister "svc-a", .intendRegister "svc-a" 1] "svc-a" (.register 1)
    ⟨.intendDeregister "svc-a", by simp, .deregister, by decide, by decide⟩
  have hregistered := congrArg (fun log => Log.isRegistered log "svc-a") hsame
  exact absurd hregistered (by decide)

end RegistrySession.Intent
