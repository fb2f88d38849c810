import RegistrySession.Intent.Entry
import RegistrySession.Table

/-!
# Intent logs

The intents of one kind by name. Every register or deregister call leaves its intent here before
anything is pushed. A confirmation carries the session in which its push was sent, and counts only
while that session lasts.
-/

namespace RegistrySession.Intent

structure Log (π : Type) where
  entries : Table String (Entry π) := .empty
  /-- Grows with every session lost. -/
  session : Nat := 0

namespace Log

variable {π : Type}

def empty : Log π := {}

def find? (log : Log π) (name : String) : Option (Entry π) :=
  log.entries.find? name

def size (log : Log π) : Nat :=
  log.entries.size

def isRegistered (log : Log π) (name : String) : Bool :=
  (log.find? name).any Entry.isRegistered

/-- The entries with something left to do. -/
def pending (log : Log π) : List (String × Entry π) :=
  log.entries.entries.filter fun entry => entry.2.action.isSome

/-- Changes the entry of a name, if there is one. -/
def amend (log : Log π) (name : String) (f : Entry π → Entry π) : Log π :=
  { log with entries := log.entries.update name f }

section Registering

variable [DecidableEq π]

/-- A confirmation survives only the repetition of the very registration in place. -/
def renew (desired : π) (entry : Entry π) : Entry π where
  desired
  isRegistered := entry.isRegistered && (entry.isExpected && entry.desired = desired)
  isUnregistering := false
  isExpected := true

def intendRegister (log : Log π) (name : String) (desired : π) : Log π :=
  match log.find? name with
  | some _ => log.amend name (renew desired)
  | none => { log with entries := log.entries.insert name (.ofIntent desired) }

/-- Confirms the push of a registration, unless the session in which it was sent is gone or
another registration is wanted by now. -/
def confirmPush (log : Log π) (name : String) (pushed : π) (session : Nat) : Log π :=
  log.amend name fun entry =>
    if entry.isExpected ∧ entry.desired = pushed ∧ log.session = session then
      { entry with isRegistered := true }
    else entry

end Registering

/-- Confirms whatever registration is wanted, unless the session is gone or none is wanted. -/
def confirmRegistered (log : Log π) (name : String) (session : Nat) : Log π :=
  log.amend name fun entry =>
    if entry.isExpected ∧ log.session = session then { entry with isRegistered := true }
    else entry

/-- Tells whether there was anything to deregister. -/
def intendDeregister (log : Log π) (name : String) : Log π × Bool :=
  (log.amend name fun entry => { entry with isUnregistering := true, isExpected := false },
    (log.find? name).isSome)

/-- Confirms a deregistration, unless the session is gone or a registration is wanted again. -/
def confirmDeregistered (log : Log π) (name : String) (session : Nat) : Log π :=
  log.amend name fun entry =>
    if !entry.isExpected ∧ log.session = session then
      { entry with isRegistered := false, isUnregistering := false }
    else entry

/-- What the server confirms of a push, with the session in which it was sent. -/
inductive Confirmation (π : Type)
  | pushed (name : String) (registration : π) (session : Nat)
  | withdrawn (name : String) (session : Nat)

def confirm [DecidableEq π] (log : Log π) : Confirmation π → Log π
  | .pushed name registration session => log.confirmPush name registration session
  | .withdrawn name session => log.confirmDeregistered name session

def remove (log : Log π) (name : String) : Log π :=
  { log with entries := log.entries.erase name }

/-- Removes an entry that is settled, and tells whether it did. -/
def prune (log : Log π) (name : String) : Log π × Bool :=
  match log.find? name with
  | some entry => if entry.isSettled then (log.remove name, true) else (log, false)
  | none => (log, false)

/-- Lists the entry of a name first. The order in which a log lists its entries is not fixed, and
any entry may come first. -/
def reorder (log : Log π) (name : String) : Log π :=
  { log with entries := log.entries.promote name }

/-- What the loss of a session makes of an entry. -/
def forget (entry : Entry π) : Entry π :=
  { entry with
    isRegistered := false
    isUnregistering := entry.isUnregistering && entry.isExpected }

/-- Registrations end with their session, and deregistrations under way are settled by that. -/
def loseSession (log : Log π) : Log π where
  entries := log.entries.mapValues forget
  session := log.session + 1

/-! ## What is found under a name afterwards -/

@[simp]
theorem find?_empty (name : String) : (empty : Log π).find? name = none := rfl

@[simp]
theorem find?_amend (log : Log π) (name other : String) (f : Entry π → Entry π) :
    (log.amend name f).find? other =
      if other = name then (log.find? name).map f else log.find? other := by
  simp only [find?, amend, Table.find?_update]

@[simp]
theorem find?_intendRegister [DecidableEq π] (log : Log π) (name other : String) (desired : π) :
    (log.intendRegister name desired).find? other =
      if other = name then some ((log.find? name).elim (.ofIntent desired) (renew desired))
      else log.find? other := by
  unfold intendRegister
  cases hentry : log.find? name with
  | none => simp only [find?, Table.find?_insert, Option.elim]
  | some entry => simp only [find?_amend, hentry, Option.map, Option.elim]

@[simp]
theorem session_intendRegister [DecidableEq π] (log : Log π) (name : String) (desired : π) :
    (log.intendRegister name desired).session = log.session := by
  unfold intendRegister
  cases log.find? name <;> rfl

@[simp]
theorem find?_remove (log : Log π) (name other : String) :
    (log.remove name).find? other = if other = name then none else log.find? other := by
  simp only [find?, remove, Table.find?_erase]

@[simp]
theorem find?_prune (log : Log π) (name other : String) :
    (log.prune name).1.find? other =
      if other = name then (log.find? name).filter (!·.isSettled) else log.find? other := by
  unfold prune
  by_cases hname : other = name
  · subst hname
    cases hentry : log.find? other with
    | none => simp [hentry]
    | some entry => cases hsettled : entry.isSettled <;> simp [hentry, hsettled, Option.filter]
  · cases log.find? name with
    | none => simp [hname]
    | some entry => cases hsettled : entry.isSettled <;> simp [hname, hsettled]

@[simp]
theorem session_prune (log : Log π) (name : String) :
    (log.prune name).1.session = log.session := by
  unfold prune
  cases log.find? name with
  | none => rfl
  | some entry => cases hsettled : entry.isSettled <;> simp [hsettled, remove]

@[simp]
theorem find?_reorder (log : Log π) (name other : String) :
    (log.reorder name).find? other = log.find? other := by
  simp only [find?, reorder, Table.find?_promote]

@[simp]
theorem find?_loseSession (log : Log π) (name : String) :
    log.loseSession.find? name = (log.find? name).map forget := by
  simp only [find?, loseSession, Table.find?_mapValues]

theorem amend_eq_self_iff (log : Log π) (name : String) (f : Entry π → Entry π) :
    log.amend name f = log ↔ ∀ entry, log.find? name = some entry → f entry = entry := by
  rw [find?, ← Table.update_eq_self_iff]
  constructor
  · intro h
    exact congrArg Log.entries h
  · intro h
    rw [amend, h]

end Log

end RegistrySession.Intent
