import RegistrySession.Proofs.Pool.Tasks

/-!
# A pool in small steps

What a pool does when its tasks take their turns one at a time.  A handle only marks its task, and
shutting down only marks the pool: a task finds out at its own next turn, and until then others may
have theirs.  Each act tells what happens to workers and runs.  Cancelling and shutting down as the
pool itself does it are such acts in a row, with every task taking its turn at once.
-/

namespace RegistrySession

universe u

variable {σ : Type u}

namespace Pool

inductive Outcome
  | returns
  | breaksDown
  deriving DecidableEq

inductive Act (σ : Type u)
  | schedule (initial delay : Millis) (job : σ)
  /-- Somebody cancels a task through its handle. -/
  | cancel (id : Nat)
  /-- The delay of a task is over, and it asks for a worker. -/
  | wake (id : Nat)
  /-- A task looks whether it should go on. -/
  | notice (id : Nat)
  /-- A free worker goes to the task that has waited longest. -/
  | start
  /-- A run gets on, to its end or until it has to wait again. -/
  | resume (id : Nat) (outcome : Option Outcome)
  /-- Shutting down begins. -/
  | close

inductive Event
  /-- A task gets a worker. -/
  | took (id : Nat)
  | started (id : Nat)
  | resumed (id : Nat)
  | ended (id : Nat) (outcome : Outcome)
  /-- A run is cut off where it waits. -/
  | cut (id : Nat)
  /-- A task gives its worker back. -/
  | released (id : Nat)
  deriving DecidableEq

def isRunning (pool : Pool σ) (id : Nat) : Bool :=
  (pool.task? id).any fun task => task.phase = .running

def close (pool : Pool σ) : Pool σ :=
  { pool with isShutdown := true }

/-- A task ends, wherever it was. -/
def leave (pool : Pool σ) (id : Nat) : Pool σ :=
  { pool.drop id with queue := pool.queue.erase id }

/-- A task that sleeps ends if it was cancelled.  One that waits for a worker or is in the middle of
a run only ends if the pool is shut down. -/
def quits (pool : Pool σ) (id : Nat) : Bool :=
  match (pool.task? id).map Task.phase with
  | none => false
  | some (.sleeping _) => pool.isCancelled id
  | some _ => pool.isShutdown

def notice (pool : Pool σ) (id : Nat) : Pool σ × List Event :=
  if pool.quits id then
    (pool.leave id, if pool.isRunning id then [.cut id, .released id] else [])
  else (pool, [])

/-- A run gets on only after a look whether the pool is shut down. -/
def resume (pool : Pool σ) (now id : Nat) (outcome : Option Outcome) : Pool σ × List Event :=
  if pool.isShutdown then pool.notice id
  else if pool.isRunning id then
    match outcome with
    | none => (pool, [.resumed id])
    | some outcome => (pool.finish now id, [.resumed id, .ended id outcome, .released id])
  else (pool, [])

/-- A pool that is shut down has no more workers to give. -/
def employ (pool : Pool σ) : Pool σ × List Event :=
  match pool.start? with
  | none => (pool, [])
  | some (next, some task) => (next, [.took task.id, .started task.id])
  | some (next, none) =>
    (next, if pool.isShutdown then []
      else pool.queue.head?.toList.flatMap fun id => [.took id, .released id])

def enact (pool : Pool σ) (now : Nat) : Act σ → Pool σ × List Event
  | .schedule initial delay job =>
    (((pool.schedule? now initial delay job).map Prod.fst).getD pool, [])
  | .cancel id => (if id < pool.next then pool.mark id else pool, [])
  | .wake id => (pool.wake now id, [])
  | .notice id => pool.notice id
  | .start => pool.employ
  | .resume id outcome => pool.resume now id outcome
  | .close => (pool.close, [])

def after (pool : Pool σ) : List (Nat × Act σ) → Pool σ
  | [] => pool
  | (now, act) :: rest => (pool.enact now act).1.after rest

def history (pool : Pool σ) : List (Nat × Act σ) → List Event
  | [] => []
  | (now, act) :: rest => (pool.enact now act).2 ++ (pool.enact now act).1.history rest

theorem after_append (pool : Pool σ) (acts more : List (Nat × Act σ)) :
    pool.after (acts ++ more) = (pool.after acts).after more := by
  induction acts generalizing pool with
  | nil => rfl
  | cons act rest ih => exact ih _

/-- Something that every act keeps is kept by all. -/
theorem after_of_enact {P : Pool σ → Prop}
    (hstep : ∀ pool now act, P pool → P (pool.enact now act).1) {pool : Pool σ} (h : P pool)
    (acts : List (Nat × Act σ)) : P (pool.after acts) := by
  induction acts generalizing pool with
  | nil => exact h
  | cons act rest ih => exact ih (hstep pool act.1 act.2 h)

/-! ## What an act comes down to -/

/-- All that an act can do to a pool in order, with what it tells. -/
inductive Deed (pool : Pool σ) : Pool σ → List Event → Prop
  | none : Deed pool pool []
  | schedules (now : Nat) (initial delay : Millis) (job : σ) (next : Pool σ) (id : Nat)
      (hnext : pool.schedule? now initial delay job = some (next, id)) : Deed pool next []
  | marks (id : Nat) (hid : id < pool.next) : Deed pool (pool.mark id) []
  | wakes (now id : Nat) : Deed pool (pool.wake now id) []
  | leaves (id : Nat) (task : Task σ) (htask : task ∈ pool.tasks) (hid : task.id = id)
      (hidle : task.phase ≠ .running) (hcancelled : pool.isCancelled id = true) :
      Deed pool (pool.leave id) []
  | drops (next : Pool σ) (hnext : pool.start? = some (next, .none))
      (hclosed : pool.isShutdown = true) : Deed pool next []
  | passes (next : Pool σ) (id : Nat) (rest : List Nat) (hnext : pool.start? = some (next, .none))
      (hqueue : pool.queue = id :: rest) (hopen : pool.isShutdown = false) :
      Deed pool next [.took id, .released id]
  | starts (next : Pool σ) (task : Task σ) (hnext : pool.start? = some (next, some task)) :
      Deed pool next [.took task.id, .started task.id]
  | pauses (id : Nat) (hrunning : pool.isRunning id = true) (hopen : pool.isShutdown = false) :
      Deed pool pool [.resumed id]
  | ends (now id : Nat) (outcome : Outcome) (hrunning : pool.isRunning id = true)
      (hopen : pool.isShutdown = false) :
      Deed pool (pool.finish now id) [.resumed id, .ended id outcome, .released id]
  | isCut (id : Nat) (hrunning : pool.isRunning id = true) (hclosed : pool.isShutdown = true) :
      Deed pool (pool.leave id) [.cut id, .released id]
  | closes : Deed pool pool.close []

section Deeds

variable {pool : Pool σ} {id : Nat}

theorem notice_of_quits (hquits : pool.quits id = true) :
    pool.notice id =
      (pool.leave id, if pool.isRunning id then [.cut id, .released id] else []) :=
  if_pos hquits

theorem notice_of_not_quits (hstays : pool.quits id = false) : pool.notice id = (pool, []) :=
  if_neg (Bool.eq_false_iff.1 hstays)

section Resuming

variable {outcome : Option Outcome}

/-- A run that would get on in a pool that is shut down is stopped instead. -/
theorem resume_of_isShutdown (hclosed : pool.isShutdown = true) (now : Nat) :
    pool.resume now id outcome = pool.notice id :=
  if_pos hclosed

variable (hopen : pool.isShutdown = false)
include hopen

theorem resume_of_not_isRunning (hidle : pool.isRunning id = false) (now : Nat) :
    pool.resume now id outcome = (pool, []) := by
  unfold resume
  rw [if_neg (Bool.eq_false_iff.1 hopen), if_neg (Bool.eq_false_iff.1 hidle)]

theorem resume_none (hrunning : pool.isRunning id = true) (now : Nat) :
    pool.resume now id none = (pool, [.resumed id]) := by
  rw [resume, if_neg (Bool.eq_false_iff.1 hopen), if_pos hrunning]

theorem resume_some (hrunning : pool.isRunning id = true) (now : Nat) (outcome : Outcome) :
    pool.resume now id (some outcome) =
      (pool.finish now id, [.resumed id, .ended id outcome, .released id]) := by
  rw [resume, if_neg (Bool.eq_false_iff.1 hopen), if_pos hrunning]

end Resuming

/-- Only tasks that there were can be cancelled. -/
theorem enact_cancel_cases (pool : Pool σ) (now id : Nat) :
    (id < pool.next ∧ pool.enact now (.cancel id) = (pool.mark id, [])) ∨
      pool.enact now (.cancel id) = (pool, []) := by
  rw [enact]
  by_cases hid : id < pool.next
  · exact .inl ⟨hid, by rw [if_pos hid]⟩
  · exact .inr (by rw [if_neg hid])

theorem isRunning_iff_exists : pool.isRunning id = true ↔
    ∃ task, pool.task? id = some task ∧ task.phase = .running := by
  simp [isRunning, Option.any_eq_true]

/-- Only a task that is there and was cancelled quits. -/
theorem exists_of_quits (h : pool.quits id = true) :
    ∃ task, pool.task? id = some task ∧ pool.isCancelled id = true := by
  cases hfound : pool.task? id with
  | none =>
    rw [quits, hfound] at h
    exact absurd h Bool.false_ne_true
  | some task =>
    refine ⟨task, rfl, ?_⟩
    cases hphase : task.phase <;> simp_all [quits, isCancelled]

/-- A task that looks whether to go on leaves, is cut off, or stays. -/
theorem deed_notice (pool : Pool σ) (id : Nat) :
    pool.Deed (pool.notice id).1 (pool.notice id).2 := by
  cases hquits : pool.quits id with
  | false =>
    rw [notice_of_not_quits hquits]
    exact .none
  | true =>
    rw [notice_of_quits hquits]
    obtain ⟨task, hfound, hcancelled⟩ := exists_of_quits hquits
    obtain ⟨htask, hid⟩ := mem_tasks_of_task? hfound
    by_cases hphase : task.phase = .running
    · have hrunning := isRunning_iff_exists.2 ⟨task, hfound, hphase⟩
      rw [if_pos hrunning]
      exact .isCut id hrunning (by simpa [quits, hfound, hphase] using hquits)
    · have hidle : pool.isRunning id = false := by simp [isRunning, hfound, hphase]
      rw [if_neg (Bool.eq_false_iff.1 hidle)]
      exact .leaves id task htask hid hphase hcancelled

theorem deed_resume (pool : Pool σ) (now id : Nat) (outcome : Option Outcome) :
    pool.Deed (pool.resume now id outcome).1 (pool.resume now id outcome).2 := by
  cases hclosed : pool.isShutdown with
  | true =>
    rw [resume_of_isShutdown hclosed]
    exact pool.deed_notice id
  | false =>
    cases hrunning : pool.isRunning id with
    | false =>
      rw [resume_of_not_isRunning hclosed hrunning]
      exact .none
    | true =>
      cases outcome with
      | none =>
        rw [resume_none hclosed hrunning]
        exact .pauses id hrunning hclosed
      | some outcome =>
        rw [resume_some hclosed hrunning]
        exact .ends now id outcome hrunning hclosed

/-- A worker that is free starts a run, is given back at once, or finds nobody. -/
theorem deed_employ (pool : Pool σ) : pool.Deed pool.employ.1 pool.employ.2 := by
  cases hstart : pool.start? with
  | none => simpa [employ, hstart] using Deed.none
  | some result =>
    obtain ⟨next, started⟩ := result
    cases started with
    | some task => simpa [employ, hstart] using Deed.starts next task hstart
    | none =>
      cases hclosed : pool.isShutdown with
      | true => simpa [employ, hstart, hclosed] using Deed.drops next hstart hclosed
      | false =>
        obtain ⟨id, rest, hqueue, -⟩ := start?_cases hstart
        simpa [employ, hstart, hclosed, hqueue] using
          Deed.passes next id rest hstart hqueue hclosed

/-- Every act comes down to one deed. -/
theorem deed_enact (pool : Pool σ) (now : Nat) (act : Act σ) :
    pool.Deed (pool.enact now act).1 (pool.enact now act).2 := by
  cases act with
  | schedule initial delay job =>
    cases hnext : pool.schedule? now initial delay job with
    | none => simpa [enact, hnext] using Deed.none
    | some result => simpa [enact, hnext] using Deed.schedules now initial delay job _ _ hnext
  | cancel id =>
    rcases pool.enact_cancel_cases now id with ⟨hid, hcancel⟩ | hcancel
    · rw [hcancel]
      exact .marks id hid
    · rw [hcancel]
      exact .none
  | wake id => exact .wakes now id
  | notice id => exact pool.deed_notice id
  | start => exact pool.deed_employ
  | resume id outcome => exact pool.deed_resume now id outcome
  | close => exact .closes

end Deeds

end Pool

end RegistrySession
