import RegistrySession.Duration

/-!
# Pools of repeating tasks

A pool runs tasks again and again with a fixed delay between the end of one run and the start of
the next, and bounds how many run at the same time. A task sleeps until its delay is over, queues
for a worker, runs, and sleeps again. A cancelled task ends when it would next go on; a run in
progress is let finish. Shutting the pool down ends every task at once.
-/

namespace RegistrySession

universe u

inductive Phase
  | sleeping (wakeUp : Nat)
  | queued
  | running
  deriving DecidableEq

structure Task (σ : Type u) where
  id : Nat
  job : σ
  delay : Millis
  phase : Phase

structure Pool (σ : Type u) where
  name : String
  workers : Nat
  /-- The tasks that are alive. -/
  tasks : List (Task σ) := []
  /-- The tasks that wait for a worker, the first to come first. -/
  queue : List Nat := []
  cancelled : List Nat := []
  next : Nat := 0
  isShutdown : Bool := false

namespace Pool

variable {σ : Type u}

/-- A pool has at least one worker. -/
def ofWorkers (name : String) (workers : Nat) : Pool σ :=
  { name, workers := max workers 1 }

def activeTasks (pool : Pool σ) : Nat :=
  pool.tasks.length

def task? (pool : Pool σ) (id : Nat) : Option (Task σ) :=
  pool.tasks.find? fun task => task.id = id

/-- Whether a task was cancelled, be it alive or not. -/
def isCancelled (pool : Pool σ) (id : Nat) : Bool :=
  pool.isShutdown || pool.cancelled.contains id

def running (pool : Pool σ) : List (Task σ) :=
  pool.tasks.filter fun task => task.phase = .running

def freeWorkers (pool : Pool σ) : Nat :=
  pool.workers - pool.running.length

def setPhase (pool : Pool σ) (id : Nat) (phase : Phase) : Pool σ :=
  { pool with
    tasks := pool.tasks.map fun task => if task.id = id then { task with phase } else task }

def drop (pool : Pool σ) (id : Nat) : Pool σ :=
  { pool with tasks := pool.tasks.filter fun task => task.id ≠ id }

/-- A new task first runs after an initial delay. Nothing if the pool is shut down. -/
def schedule? (pool : Pool σ) (now : Nat) (initial delay : Millis) (job : σ) :
    Option (Pool σ × Nat) :=
  if pool.isShutdown then none
  else
    let task := { id := pool.next, job, delay, phase := .sleeping (initial.after now) }
    some ({ pool with tasks := pool.tasks ++ [task], next := pool.next + 1 }, pool.next)

/-- A sleeping task ends at once; one that queues or runs ends when it would go on. -/
def cancel (pool : Pool σ) (id : Nat) : Pool σ :=
  let pool := if pool.cancelled.contains id then pool
    else { pool with cancelled := id :: pool.cancelled }
  match pool.task? id with
  | some { phase := .sleeping _, .. } => pool.drop id
  | _ => pool

def isDue (now : Nat) (task : Task σ) : Bool :=
  match task.phase with
  | .sleeping wakeUp => wakeUp ≤ now
  | _ => false

/-- Lets a task queue for a worker once its delay is over. -/
def wake (pool : Pool σ) (now : Nat) (id : Nat) : Pool σ :=
  if (pool.task? id).any (isDue now) then
    { pool.setPhase id .queued with queue := pool.queue ++ [id] }
  else pool

/-- Hands a free worker to the first task of the queue and tells which task starts a run. A task
cancelled in the meantime ends instead. Nothing if no worker is free or no task waits. -/
def start? (pool : Pool σ) : Option (Pool σ × Option (Task σ)) :=
  match pool.queue with
  | [] => none
  | id :: rest =>
    if pool.freeWorkers = 0 then none
    else
      let pool := { pool with queue := rest }
      match pool.task? id with
      | none => some (pool, none)
      | some task =>
        if pool.isCancelled id then some (pool.drop id, none)
        else some (pool.setPhase id .running, some task)

/-- Ends a run: the worker is free again, and the task sleeps unless it was cancelled. -/
def finish (pool : Pool σ) (now : Nat) (id : Nat) : Pool σ :=
  match pool.task? id with
  | some task =>
    if task.phase = .running then
      if pool.isCancelled id then pool.drop id
      else pool.setPhase id (.sleeping (task.delay.after now))
    else pool
  | none => pool

/-- Ends every task, also those in the middle of a run. -/
def shutdown (pool : Pool σ) : Pool σ :=
  { pool with tasks := [], queue := [], isShutdown := true }

def sleepers (pool : Pool σ) : List (Nat × Nat) :=
  pool.tasks.filterMap fun task =>
    match task.phase with
    | .sleeping wakeUp => some (task.id, wakeUp)
    | _ => none

def refusal (pool : Pool σ) : String :=
  "scheduler <name='" ++ pool.name ++ "'> is shut down"

end Pool

end RegistrySession
