import Mathlib.Data.List.Induction
import RegistrySession.Intent.Log

/-!
# Histories of an intent log

A history is a list of operations on a log that starts out empty.  Whatever confirmations, lost
sessions and prunings it contains, the log shows of each name only what was intended last: an
entry is expected just if that was a registration, and holds the registration of that intent.
-/

namespace RegistrySession.Intent

variable {π : Type}

/-- What an application intends under a name. -/
inductive Wish (π : Type)
  | register (desired : π)
  | deregister
  deriving DecidableEq

namespace Wish

def registration? : Wish π → Option π
  | .register desired => some desired
  | .deregister => none

/-- What is left to do until the wish is confirmed. -/
def action : Wish π → Action
  | .register _ => .register
  | .deregister => .deregister

/-- The confirmation of a push that was started for the wish. -/
def confirmation (name : String) (session : Nat) : Wish π → Log.Confirmation π
  | .register desired => .pushed name desired session
  | .deregister => .withdrawn name session

end Wish

inductive Operation (π : Type)
  | intendRegister (name : String) (desired : π)
  | intendDeregister (name : String)
  | confirmRegistered (name : String) (session : Nat)
  | confirmPush (name : String) (pushed : π) (session : Nat)
  | confirmDeregistered (name : String) (session : Nat)
  | loseSession
  | prune (name : String)
  /-- Takes an entry out in whatever state it is. -/
  | remove (name : String)
  deriving DecidableEq

def Operation.wish? (name : String) : Operation π → Option (Wish π)
  | .intendRegister target desired => if target = name then some (.register desired) else none
  | .intendDeregister target => if target = name then some .deregister else none
  | _ => none

theorem Operation.eq_intendRegister_of_wish? {operation : Operation π} {name : String}
    {desired : π} (hwish : operation.wish? name = some (.register desired)) :
    operation = .intendRegister name desired := by
  cases operation with
  | intendRegister target wanted =>
    obtain ⟨rfl, rfl⟩ : target = name ∧ wanted = desired := by simpa [wish?] using hwish
    rfl
  | intendDeregister target => simp [wish?] at hwish
  | _ => simp [wish?] at hwish

/-- All that is remembered of a name: its last wish. -/
def lastWish? (name : String) (history : List (Operation π)) : Option (Wish π) :=
  (history.filterMap (Operation.wish? name)).getLast?

/-- The registration that was wished last, even if it is not wished any more. -/
def lastRegistration? (name : String) (history : List (Operation π)) : Option π :=
  ((history.filterMap (Operation.wish? name)).filterMap Wish.registration?).getLast?

/-- What was wished later counts. -/
theorem lastWish?_append (name : String) (before during : List (Operation π)) :
    lastWish? name (before ++ during) =
      (lastWish? name during).or (lastWish? name before) := by
  simp only [lastWish?, List.filterMap_append, List.getLast?_append]

theorem lastWish?_singleton (name : String) (operation : Operation π) :
    lastWish? name [operation] = operation.wish? name := by
  cases h : operation.wish? name <;> simp [lastWish?, h]

theorem lastRegistration?_append (name : String) (before during : List (Operation π)) :
    lastRegistration? name (before ++ during) =
      (lastRegistration? name during).or (lastRegistration? name before) := by
  simp only [lastRegistration?, List.filterMap_append, List.getLast?_append]

theorem lastRegistration?_singleton (name : String) (operation : Operation π) :
    lastRegistration? name [operation] = (operation.wish? name).bind Wish.registration? := by
  cases h : operation.wish? name with
  | none => simp [lastRegistration?, h]
  | some wish => cases hwish : wish.registration? <;> simp [lastRegistration?, h, hwish]

/-- A wish that is recorded later hides the earlier ones. -/
theorem lastWish?_append_of_mem {name : String} {before during : List (Operation π)}
    {operation : Operation π} {wish : Wish π} (hmem : operation ∈ during)
    (hwish : operation.wish? name = some wish) :
    lastWish? name (before ++ during) = lastWish? name during := by
  have hrecorded : wish ∈ during.filterMap (Operation.wish? name) :=
    List.mem_filterMap.2 ⟨operation, hmem, hwish⟩
  rw [lastWish?_append]
  cases hlast : lastWish? name during with
  | none =>
    rw [lastWish?, List.getLast?_eq_none_iff] at hlast
    rw [hlast] at hrecorded
    exact absurd hrecorded List.not_mem_nil
  | some last => rfl

/-! ## Operations on a log and on an entry -/

variable [DecidableEq π]

namespace Log

def apply (log : Log π) : Operation π → Log π
  | .intendRegister name desired => log.intendRegister name desired
  | .intendDeregister name => (log.intendDeregister name).1
  | .confirmRegistered name session => log.confirmRegistered name session
  | .confirmPush name pushed session => log.confirmPush name pushed session
  | .confirmDeregistered name session => log.confirmDeregistered name session
  | .loseSession => log.loseSession
  | .prune name => (log.prune name).1
  | .remove name => log.remove name

def replay (log : Log π) (history : List (Operation π)) : Log π :=
  history.foldl apply log

theorem replay_append (log : Log π) (before during : List (Operation π)) :
    log.replay (before ++ during) = (log.replay before).replay during := by
  simp only [replay, List.foldl_append]

theorem replay_snoc (log : Log π) (history : List (Operation π)) (operation : Operation π) :
    log.replay (history ++ [operation]) = (log.replay history).apply operation := by
  rw [replay_append]
  rfl

/-- Only a loss changes the session of a log. -/
theorem session_apply (log : Log π) (operation : Operation π) :
    (log.apply operation).session =
      log.session + if operation = .loseSession then 1 else 0 := by
  cases operation <;> simp [apply, intendDeregister, confirmRegistered, confirmPush,
    confirmDeregistered, loseSession, amend, remove]

end Log

/-- What an operation makes of the entry of a name, in a log of the given session. -/
def Operation.revise (session : Nat) (name : String) (entry : Option (Entry π)) :
    Operation π → Option (Entry π)
  | .intendRegister target desired =>
    if name = target then some (entry.elim (.ofIntent desired) (Log.renew desired)) else entry
  | .intendDeregister target =>
    if name = target then
      entry.map fun found => { found with isUnregistering := true, isExpected := false }
    else entry
  | .confirmRegistered target started =>
    if name = target then
      entry.map fun found =>
        if found.isExpected ∧ session = started then { found with isRegistered := true }
        else found
    else entry
  | .confirmPush target pushed started =>
    if name = target then
      entry.map fun found =>
        if found.isExpected ∧ found.desired = pushed ∧ session = started then
          { found with isRegistered := true }
        else found
    else entry
  | .confirmDeregistered target started =>
    if name = target then
      entry.map fun found =>
        if !found.isExpected ∧ session = started then
          { found with isRegistered := false, isUnregistering := false }
        else found
    else entry
  | .loseSession => entry.map Log.forget
  | .prune target => if name = target then entry.filter (!·.isSettled) else entry
  | .remove target => if name = target then none else entry

omit [DecidableEq π] in
/-- A change under one name sees no more of the log than the entry of that name. -/
theorem Log.find?_of_changed {log next : Log π} {target : String}
    (change : Option (Entry π) → Option (Entry π))
    (hchanged : ∀ name, next.find? name =
      if name = target then change (log.find? target) else log.find? name) (name : String) :
    next.find? name = if name = target then change (log.find? name) else log.find? name := by
  rw [hchanged]
  by_cases hname : name = target
  · rw [hname]
  · rw [if_neg hname, if_neg hname]

/-- Operations act on each entry by itself. -/
theorem Log.find?_apply (log : Log π) (operation : Operation π) (name : String) :
    (log.apply operation).find? name = operation.revise log.session name (log.find? name) := by
  have hamended (target : String) (f : Entry π → Entry π) : (log.amend target f).find? name =
      if name = target then (log.find? name).map f else log.find? name :=
    find?_of_changed (Option.map f) (log.find?_amend target · f) name
  cases operation with
  | intendRegister target desired =>
    exact find?_of_changed (fun found => some (found.elim (.ofIntent desired) (renew desired)))
      (log.find?_intendRegister target · desired) name
  | intendDeregister target => exact hamended target _
  | confirmRegistered target started => exact hamended target _
  | confirmPush target pushed started => exact hamended target _
  | confirmDeregistered target started => exact hamended target _
  | loseSession => exact log.find?_loseSession name
  | prune target =>
    exact find?_of_changed (Option.filter (!·.isSettled)) (log.find?_prune target) name
  | remove target => exact log.find?_remove target name

namespace Operation

/-- Everything that an operation can make of the entry of a name. -/
inductive Turn (operation : Operation π) (session : Nat) (name : String)
    (entry next : Option (Entry π)) : Prop
  | stay (hwish : operation.wish? name = none) (hnext : next = entry)
  | register (desired : π) (hwish : operation.wish? name = some (.register desired))
      (hnext : next = some (entry.elim (.ofIntent desired) (Log.renew desired)))
  | deregister (hwish : operation.wish? name = some .deregister)
      (hnext : next =
        entry.map fun found => { found with isUnregistering := true, isExpected := false })
  | confirm (old : Entry π) (hentry : entry = some old) (hexpected : old.isExpected = true)
      (hoperation : operation = .confirmRegistered name session ∨
        operation = .confirmPush name old.desired session)
      (hnext : next = some { old with isRegistered := true })
  | withdraw (old : Entry π) (hentry : entry = some old) (hexpected : old.isExpected = false)
      (hoperation : operation = .confirmDeregistered name session)
      (hnext : next = some { old with isRegistered := false, isUnregistering := false })
  | forget (hoperation : operation = .loseSession) (hnext : next = entry.map Log.forget)
  | prune (old : Entry π) (hentry : entry = some old) (hsettled : old.isSettled = true)
      (hoperation : operation = .prune name) (hnext : next = none)
  | remove (hoperation : operation = .remove name) (hnext : next = none)

/-- A guarded change of an entry takes place, or leaves the entry as it is. -/
theorem turn_of_guard {operation : Operation π} {session : Nat} {name : String}
    {entry : Option (Entry π)} {guard : Entry π → Prop} [DecidablePred guard]
    {change : Entry π → Entry π} (target : String)
    (hrevise : operation.revise session name entry =
      if name = target then entry.map fun found => if guard found then change found else found
      else entry)
    (hwish : operation.wish? name = none)
    (hturn : ∀ old, name = target → guard old →
      operation.Turn session name (some old) (some (change old))) :
    operation.Turn session name entry (operation.revise session name entry) := by
  rw [hrevise]
  by_cases hname : name = target
  · rw [if_pos hname]
    cases entry with
    | none => exact .stay hwish rfl
    | some old =>
      rw [Option.map_some]
      by_cases hguard : guard old
      · rw [if_pos hguard]
        exact hturn old hname hguard
      · rw [if_neg hguard]
        exact .stay hwish rfl
  · rw [if_neg hname]
    exact .stay hwish rfl

/-- There is nothing else that an operation can do. -/
theorem turn (operation : Operation π) (session : Nat) (name : String)
    (entry : Option (Entry π)) :
    operation.Turn session name entry (operation.revise session name entry) := by
  cases operation with
  | intendRegister target desired =>
    by_cases hname : name = target
    · exact .register desired (by rw [wish?, if_pos hname.symm]) (by rw [revise, if_pos hname])
    · exact .stay (by rw [wish?, if_neg (Ne.symm hname)]) (by rw [revise, if_neg hname])
  | intendDeregister target =>
    by_cases hname : name = target
    · exact .deregister (by rw [wish?, if_pos hname.symm]) (by rw [revise, if_pos hname])
    · exact .stay (by rw [wish?, if_neg (Ne.symm hname)]) (by rw [revise, if_neg hname])
  | confirmRegistered target started =>
    apply turn_of_guard target rfl rfl
    rintro old rfl ⟨hexpected, rfl⟩
    exact .confirm old rfl hexpected (.inl rfl) rfl
  | confirmPush target pushed started =>
    apply turn_of_guard target rfl rfl
    rintro old rfl ⟨hexpected, rfl, rfl⟩
    exact .confirm old rfl hexpected (.inr rfl) rfl
  | confirmDeregistered target started =>
    apply turn_of_guard target rfl rfl
    rintro old rfl ⟨hexpected, rfl⟩
    exact .withdraw old rfl (by simpa using hexpected) rfl rfl
  | loseSession => exact .forget rfl rfl
  | prune target =>
    by_cases hname : name = target
    · subst hname
      rw [revise, if_pos rfl]
      cases entry with
      | none => exact .stay rfl rfl
      | some old =>
        cases hsettled : old.isSettled with
        | true => exact .prune old rfl hsettled rfl (by simp [Option.filter, hsettled])
        | false => exact .stay rfl (by simp [Option.filter, hsettled])
    · exact .stay rfl (by rw [revise, if_neg hname])
  | remove target =>
    by_cases hname : name = target
    · exact .remove (by rw [hname]) (by rw [revise, if_pos hname])
    · exact .stay rfl (by rw [revise, if_neg hname])

variable {operation : Operation π} {session : Nat} {name : String} {entry : Option (Entry π)}

/-- Everything that an operation can make of the entry of a name, if it leaves one. -/
inductive Makes (operation : Operation π) (session : Nat) (name : String)
    (entry : Option (Entry π)) : Entry π → Prop
  | stay (found : Entry π) (hwish : operation.wish? name = none) (hentry : entry = some found) :
      Makes operation session name entry found
  | register (desired : π) (hwish : operation.wish? name = some (.register desired)) :
      Makes operation session name entry (entry.elim (.ofIntent desired) (Log.renew desired))
  | deregister (old : Entry π) (hwish : operation.wish? name = some .deregister)
      (hentry : entry = some old) :
      Makes operation session name entry { old with isUnregistering := true, isExpected := false }
  | confirm (old : Entry π) (hentry : entry = some old) (hexpected : old.isExpected = true)
      (hoperation : operation = .confirmRegistered name session ∨
        operation = .confirmPush name old.desired session) :
      Makes operation session name entry { old with isRegistered := true }
  | withdraw (old : Entry π) (hentry : entry = some old) (hunexpected : old.isExpected = false)
      (hoperation : operation = .confirmDeregistered name session) :
      Makes operation session name entry { old with isRegistered := false, isUnregistering := false }
  | forget (old : Entry π) (hentry : entry = some old) (hoperation : operation = .loseSession) :
      Makes operation session name entry (Log.forget old)

theorem makes_of_revise {found : Entry π}
    (hfound : operation.revise session name entry = some found) :
    operation.Makes session name entry found := by
  cases operation.turn session name entry with
  | stay hwish hnext => exact .stay found hwish (hnext.symm.trans hfound)
  | register desired hwish hnext =>
    obtain rfl := Option.some.inj (hfound.symm.trans hnext)
    exact .register desired hwish
  | deregister hwish hnext =>
    obtain ⟨old, hold, rfl⟩ := Option.map_eq_some_iff.1 (hnext.symm.trans hfound)
    exact .deregister old hwish hold
  | confirm old hentry hexpected hoperation hnext =>
    obtain rfl := Option.some.inj (hfound.symm.trans hnext)
    exact .confirm old hentry hexpected hoperation
  | withdraw old hentry hunexpected hoperation hnext =>
    obtain rfl := Option.some.inj (hfound.symm.trans hnext)
    exact .withdraw old hentry hunexpected hoperation
  | forget hoperation hnext =>
    obtain ⟨old, hold, rfl⟩ := Option.map_eq_some_iff.1 (hnext.symm.trans hfound)
    exact .forget old hold hoperation
  | prune old hentry hsettled hoperation hnext => exact nomatch hnext.symm.trans hfound
  | remove hoperation hnext => exact nomatch hnext.symm.trans hfound

/-- What is not settled stays so, until the session ends or a deregistration is confirmed. -/
theorem exists_unsettled_of_revise {old : Entry π} (hunsettled : old.isSettled = false)
    (hlose : operation ≠ .loseSession) (hremove : operation ≠ .remove name)
    (hconfirm : operation ≠ .confirmDeregistered name session) :
    ∃ found, operation.revise session name (some old) = some found ∧
      found.isSettled = false := by
  cases operation.turn session name (some old) with
  | stay hwish hnext => exact ⟨old, hnext, hunsettled⟩
  | register desired hwish hnext => exact ⟨_, hnext, by simp [Entry.isSettled, Log.renew]⟩
  | deregister hwish hnext => exact ⟨_, hnext, by simp [Entry.isSettled]⟩
  | confirm found hentry hexpected hoperation hnext =>
    exact ⟨_, hnext, by simp [Entry.isSettled]⟩
  | withdraw found hentry hexpected hoperation hnext => exact absurd hoperation hconfirm
  | forget hoperation hnext => exact absurd hoperation hlose
  | prune found hentry hsettled hoperation hnext =>
    rw [← Option.some.inj hentry, hunsettled] at hsettled
    exact absurd hsettled Bool.false_ne_true
  | remove hoperation hnext => exact absurd hoperation hremove

/-- Nothing is left to do for an entry only if that was so before, or its registration was
confirmed just now. -/
theorem action_eq_none_of_revise {found : Entry π}
    (hfound : operation.revise session name entry = some found) (haction : found.action = none) :
    (∃ old, entry = some old ∧ old.action = none ∧ old.desired = found.desired) ∨
      operation = .confirmRegistered name session ∨
      operation = .confirmPush name found.desired session := by
  obtain ⟨hregistered, hexpected⟩ := (Entry.action_eq_none_iff found).1 haction
  cases makes_of_revise hfound with
  | stay _ hwish hentry => exact .inl ⟨found, hentry, haction, rfl⟩
  | register desired hwish =>
    cases entry with
    | none => exact absurd hregistered Bool.false_ne_true
    | some old =>
      obtain ⟨hold, hexpectedOld, hdesired⟩ :
          old.isRegistered = true ∧ old.isExpected = true ∧ old.desired = desired := by
        simpa [Log.renew] using hregistered
      exact .inl ⟨old, rfl, (Entry.action_eq_none_iff old).2 ⟨hold, hexpectedOld⟩, hdesired⟩
  | deregister old hwish hentry => exact absurd hexpected Bool.false_ne_true
  | confirm old hentry hexpectedOld hoperation => exact .inr hoperation
  | withdraw old hentry hunexpected hoperation => exact absurd hregistered Bool.false_ne_true
  | forget old hentry hoperation => exact absurd hregistered Bool.false_ne_true

end Operation

end RegistrySession.Intent
