import RegistrySession.Session.Move

/-!
# The pools of a session

A session has a pool for the refreshes of each kind and one for the reconciler.  To wake a task, to
start one and to end its run are the same for all of them, whatever the tasks are for.
-/

namespace RegistrySession

def PoolName.Job : PoolName → Type
  | .refresh _ => Key
  | .reconcile => Unit

def Owner.isCall : Owner → Bool
  | .call _ => true
  | .run .. => false

namespace Session

def pool (session : Session) : (name : PoolName) → Pool name.Job
  | .refresh kind => (session.watchlist kind).pool
  | .reconcile => session.reconciler

def setPool (session : Session) : (name : PoolName) → Pool name.Job → Session
  | .refresh kind, pool => session.setWatchlist kind { session.watchlist kind with pool }
  | .reconcile, reconciler => { session with reconciler }

/-- What a run does before it first has to wait. -/
def launch (session : Session) : (name : PoolName) → Task name.Job → Session
  | .refresh kind, task =>
    session.send (.run (.refresh kind) task.id) (.refresh kind) (.query kind task.job)
  | .reconcile, task => session.startReconcile (.run .reconcile task.id)

variable (session : Session) (name : PoolName)

@[simp]
theorem pool_setPool_self (pool : Pool name.Job) : (session.setPool name pool).pool name = pool := by
  cases name with
  | refresh kind => rw [setPool, Session.pool, watchlist, setWatchlist, PerKind.get_set_self]
  | reconcile => rfl

theorem pool_setWatchlist_of_ne {kind : Kind} (h : name ≠ .refresh kind)
    (list : Watchlist kind.Record Listener) :
    (session.setWatchlist kind list).pool name = session.pool name := by
  cases name with
  | refresh other =>
    have hkind : other ≠ kind := fun hkind => h (hkind ▸ rfl)
    exact congrArg Watchlist.pool (PerKind.get_set_of_ne _ _ hkind)
  | reconcile => rfl

/-- The pools are independent of each other. -/
theorem pool_setPool_of_ne {other : PoolName} (h : other ≠ name) (pool : Pool name.Job) :
    (session.setPool name pool).pool other = session.pool other := by
  cases name with
  | refresh kind => exact session.pool_setWatchlist_of_ne other h _
  | reconcile =>
    cases other with
    | refresh kind => rfl
    | reconcile => exact absurd rfl h

theorem wake_eq (task : Nat) :
    session.wake name task = session.setPool name ((session.pool name).wake session.now task) := by
  cases name <;> rfl

theorem endRun_eq (task : Nat) :
    session.endRun name task =
      session.setPool name ((session.pool name).finish session.now task) := by
  cases name <;> rfl

/-- A worker that is free goes to the first of the queue, which starts a run unless it was
cancelled. -/
theorem start_cases :
    ((session.pool name).start? = none ∧ session.start name = session) ∨
    (∃ pool, (session.pool name).start? = some (pool, none) ∧
      session.start name = session.setPool name pool) ∨
    ∃ pool task, (session.pool name).start? = some (pool, some task) ∧
      session.start name = (session.setPool name pool).launch name task := by
  cases name with
  | refresh kind =>
    simp only [start, Session.pool]
    cases hstart : (session.watchlist kind).pool.start? with
    | none => exact .inl ⟨hstart, rfl⟩
    | some result =>
      obtain ⟨pool, started⟩ := result
      cases started with
      | none => exact .inr (.inl ⟨pool, hstart, rfl⟩)
      | some task => exact .inr (.inr ⟨pool, task, hstart, rfl⟩)
  | reconcile =>
    simp only [start, Session.pool]
    cases hstart : session.reconciler.start? with
    | none => exact .inl ⟨hstart, rfl⟩
    | some result =>
      obtain ⟨pool, started⟩ := result
      cases started with
      | none => exact .inr (.inl ⟨pool, hstart, rfl⟩)
      | some task => exact .inr (.inr ⟨pool, task, hstart, rfl⟩)

end Session

end RegistrySession
