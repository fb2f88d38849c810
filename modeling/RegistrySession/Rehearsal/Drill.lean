import RegistrySession.Pool
import RegistrySession.Rehearsal.Chronology
import RegistrySession.Table

/-!
# Drills of a pool

A pool by itself in virtual time, with jobs that take a given time and break down in given runs.
-/

namespace RegistrySession.Rehearsal

structure Job where
  label : String
  /-- How long each run takes. -/
  duration : Millis
  /-- The runs that break down at their end, counted from one. -/
  breakdowns : List Nat

inductive Event
  | start
  | finish
  | breakdown
  deriving DecidableEq

structure Run where
  task : Nat
  job : Job
  number : Nat
  ends : Nat

/-- Something that waits for a moment: a run for its end, or a task for the end of its sleep. -/
inductive Drill.Alarm
  | run (task ends : Nat)
  | task (id wakeUp : Nat)
  deriving DecidableEq

def Drill.Alarm.time : Drill.Alarm → Nat
  | .run _ ends => ends
  | .task _ wakeUp => wakeUp

structure Drill where
  pool : Pool Job
  /-- The last task that was scheduled under each label. -/
  tasks : Table String Nat := .empty
  now : Nat := 0
  runs : List Run := []
  /-- In the order in which they were set. -/
  alarms : List Drill.Alarm := []
  /-- How many runs each task has started. -/
  counts : Table Nat Nat := .empty
  /-- The newest first. -/
  events : List (Nat × String × Event) := []

namespace Drill

def note (drill : Drill) (label : String) (event : Event) : Drill :=
  { drill with events := (drill.now, label, event) :: drill.events }

/-- Nothing if the pool is shut down. -/
def schedule? (drill : Drill) (initial delay : Millis) (job : Job) : Option Drill :=
  (drill.pool.schedule? drill.now initial delay job).map fun (pool, task) =>
    { drill with pool, tasks := drill.tasks.insert job.label task }

/-- Nothing if no task was scheduled under the label. -/
def cancel? (drill : Drill) (label : String) : Option Drill :=
  (drill.tasks.find? label).map fun task => { drill with pool := drill.pool.cancel task }

/-- Runs in progress are cut off. -/
def shutdown (drill : Drill) : Drill :=
  { drill with pool := drill.pool.shutdown, runs := [] }

def finish (drill : Drill) (run : Run) : Drill :=
  let event := if run.job.breakdowns.contains run.number then .breakdown else .finish
  { drill with
    pool := drill.pool.finish drill.now run.task
    runs := drill.runs.filter fun other => other.task ≠ run.task }.note run.job.label event

/-- A run that takes no time ends at once. -/
def start (drill : Drill) (task : Task Job) : Drill :=
  let number := (drill.counts.find? task.id).getD 0 + 1
  let run :=
    { task := task.id, job := task.job, number, ends := task.job.duration.after drill.now }
  let drill := { drill with
    runs := drill.runs ++ [run]
    counts := drill.counts.insert task.id number }.note task.job.label .start
  if run.ends ≤ drill.now then drill.finish run else drill

/-- Sets the alarms of all that waits. -/
def attend (drill : Drill) : Drill :=
  let current := drill.runs.map (fun run => .run run.task run.ends) ++
    drill.pool.sleepers.map (fun (id, wakeUp) => .task id wakeUp)
  { drill with alarms := inOrderSet drill.alarms current }

/-- A free worker goes to the first task of the queue. Nothing if there is none of either. -/
def employ? (drill : Drill) : Option Drill :=
  drill.pool.start?.map fun (pool, started) =>
    let drill := { drill with pool }
    match started with
    | some task => drill.start task
    | none => drill

/-- A task that wakes up gets a worker at once, if one is free and no other task waits for it. -/
def rouse (drill : Drill) (id : Nat) : Drill :=
  let woken := { drill with pool := drill.pool.wake drill.now id }
  if drill.pool.queue.isEmpty then woken.employ?.getD woken else woken

def ring (drill : Drill) : Drill.Alarm → Drill
  | .run task _ =>
    match drill.runs.find? fun run => run.task = task with
    | some run => drill.finish run
    | none => drill
  | .task id _ => drill.rouse id

/-- Does the next piece of work that is due now. Nothing if there is none. -/
def work? (drill : Drill) : Option Drill :=
  match drill.alarms.find? fun alarm => alarm.time ≤ drill.now with
  | some alarm => some (drill.ring alarm)
  | none => drill.employ?

def settleWithin : Nat → Drill → Drill
  | 0, drill => drill
  | fuel + 1, drill =>
    let drill := drill.attend
    match drill.work? with
    | some next => settleWithin fuel next
    | none => drill

/-- How many pieces of work are done at one moment, at most. -/
def workLimit : Nat := 10000000

def settle (drill : Drill) : Drill := settleWithin workLimit drill

def nextTime? (drill : Drill) : Option Nat :=
  (drill.alarms.map Alarm.time).min?

def advanceWithin : Nat → Nat → Drill → Drill
  | 0, _, drill => drill
  | fuel + 1, target, drill =>
    let drill := drill.settle
    match drill.nextTime? with
    | some time =>
      if time ≤ target then
        advanceWithin fuel target { drill with now := max time (drill.now + 1) }
      else { drill with now := target }
    | none => { drill with now := target }

def advance (drill : Drill) (span : Millis) : Drill :=
  let target := span.after drill.now
  (advanceWithin (target - drill.now + 1) target drill).settle

def report (drill : Drill) : Drill × List (Nat × String × Event) :=
  ({ drill with events := [] }, chronological Prod.fst drill.events.reverse)

end Drill

end RegistrySession.Rehearsal
