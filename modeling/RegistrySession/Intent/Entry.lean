/-!
# Entries of an intent log

An entry sets what an application wants under a name against what the server confirmed. From the
two follows what is left to do.
-/

namespace RegistrySession.Intent

/-- What is left to do for an entry. -/
inductive Action
  | register
  | deregister
  /-- Nothing is wanted or held any more, and the entry can go. -/
  | remove
  deriving DecidableEq

structure Entry (π : Type) where
  /-- The registration wanted, or wanted last. -/
  desired : π
  /-- The server confirmed the registration in the present session. -/
  isRegistered : Bool
  /-- A deregistration is under way. -/
  isUnregistering : Bool
  /-- The application wants the registration. -/
  isExpected : Bool
  deriving DecidableEq

namespace Entry

variable {π : Type}

def ofIntent (desired : π) : Entry π :=
  ⟨desired, false, false, true⟩

/-- Nothing while what is confirmed is what is wanted. A deregistration is pushed even if its
registration was never confirmed, for the server may have applied a push whose answer got lost. -/
def action (entry : Entry π) : Option Action :=
  match entry.isRegistered, entry.isExpected, entry.isUnregistering with
  | false, true, _ => some .register
  | true, false, _ => some .deregister
  | false, false, true => some .deregister
  | false, false, false => some .remove
  | true, true, _ => none

def isSettled (entry : Entry π) : Bool :=
  !entry.isRegistered && !entry.isUnregistering && !entry.isExpected

theorem isSettled_iff (entry : Entry π) :
    entry.isSettled = true ↔
      entry.isRegistered = false ∧ entry.isUnregistering = false ∧ entry.isExpected = false := by
  simp [isSettled, and_assoc]

theorem action_eq_remove_iff (entry : Entry π) :
    entry.action = some .remove ↔ entry.isSettled = true := by
  rcases entry with ⟨desired, _ | _, _ | _, _ | _⟩ <;> simp [action, isSettled]

theorem action_eq_none_iff (entry : Entry π) :
    entry.action = none ↔ entry.isRegistered = true ∧ entry.isExpected = true := by
  rcases entry with ⟨desired, _ | _, _ | _, _ | _⟩ <;> simp [action]

theorem action_eq_register_iff (entry : Entry π) :
    entry.action = some .register ↔ entry.isExpected = true ∧ entry.isRegistered = false := by
  rcases entry with ⟨desired, _ | _, _ | _, _ | _⟩ <;> simp [action]

/-- What is not expected any more is withdrawn unless it is settled. -/
theorem action_eq_deregister_iff (entry : Entry π) :
    entry.action = some .deregister ↔ entry.isExpected = false ∧ entry.isSettled = false := by
  rcases entry with ⟨desired, _ | _, _ | _, _ | _⟩ <;> simp [action, isSettled]

end Entry

end RegistrySession.Intent
