import Mathlib.Data.List.Nodup
import RegistrySession.Pool

/-!
# The tasks of a pool

No two tasks of a pool have the same number, and no number is given out again.  What a pool does is
read off two lists: the tasks that go on, because nobody cancelled them, and the crew, which are the
tasks in the middle of a run, cancelled or not.
-/

namespace RegistrySession

universe u

variable {σ : Type u}

/-- The number and the job of a task, which it keeps for good. -/
def Task.badge (task : Task σ) : Nat × σ :=
  (task.id, task.job)

namespace Pool

def badges (pool : Pool σ) : List (Nat × σ) :=
  pool.tasks.map Task.badge

def roster (pool : Pool σ) : List (Nat × σ) :=
  pool.badges.filter fun badge => !pool.isCancelled badge.1

def crew (pool : Pool σ) : List (Nat × σ) :=
  pool.running.map Task.badge

/-- Cancels a task without a look at what it is doing. -/
def mark (pool : Pool σ) (id : Nat) : Pool σ :=
  if pool.cancelled.contains id then pool else { pool with cancelled := id :: pool.cancelled }

structure Orderly (pool : Pool σ) : Prop where
  nodup : (pool.tasks.map Task.id).Nodup
  numbered : ∀ task ∈ pool.tasks, task.id < pool.next
  cancelled : ∀ id ∈ pool.cancelled, id < pool.next
  queue : pool.queue.Nodup
  enqueued : ∀ id ∈ pool.queue, id < pool.next
  queued : ∀ task ∈ pool.tasks, task.id ∈ pool.queue → task.phase = .queued
  staffed : pool.crew.length ≤ pool.workers

/-- Nothing happens to the tasks that go on. -/
structure Continues (pool next : Pool σ) : Prop where
  orderly : next.Orderly
  roster : next.roster = pool.roster
  workers : next.workers = pool.workers
  isShutdown : next.isShutdown = pool.isShutdown
  next : next.next = pool.next

section Marks

variable (pool : Pool σ) (id : Nat)

/-- Only the list of those who were cancelled changes. -/
theorem mark_eq :
    pool.mark id = { pool with
      cancelled := if pool.cancelled.contains id then pool.cancelled else id :: pool.cancelled } := by
  cases hmarked : pool.cancelled.contains id with
  | true => rw [mark, if_pos hmarked, if_pos rfl]
  | false =>
    have hunmarked : ¬pool.cancelled.contains id = true := Bool.eq_false_iff.1 hmarked
    rw [mark, if_neg hunmarked, if_neg Bool.false_ne_true]

@[simp]
theorem tasks_mark : (pool.mark id).tasks = pool.tasks := by
  rw [mark_eq]

@[simp]
theorem task?_mark (other : Nat) : (pool.mark id).task? other = pool.task? other := by
  rw [task?, tasks_mark, task?]

@[simp]
theorem queue_mark : (pool.mark id).queue = pool.queue := by
  rw [mark_eq]

@[simp]
theorem next_mark : (pool.mark id).next = pool.next := by
  rw [mark_eq]

@[simp]
theorem workers_mark : (pool.mark id).workers = pool.workers := by
  rw [mark_eq]

@[simp]
theorem isShutdown_mark : (pool.mark id).isShutdown = pool.isShutdown := by
  rw [mark_eq]

theorem cancelled_mark_subset : (pool.mark id).cancelled ⊆ id :: pool.cancelled := by
  by_cases hmarked : pool.cancelled.contains id = true
  · rw [mark, if_pos hmarked]
    exact List.subset_cons_self _ _
  · rw [mark, if_neg hmarked]
    exact List.Subset.refl _

/-- A mark concerns one task only. -/
theorem isCancelled_mark (other : Nat) :
    (pool.mark id).isCancelled other = (pool.isCancelled other || decide (other = id)) := by
  by_cases hmarked : pool.cancelled.contains id = true
  · rw [mark, if_pos hmarked]
    by_cases hother : other = id
    · subst hother
      simp only [isCancelled, hmarked, Bool.or_true, Bool.true_or]
    · simp [hother]
  · rw [mark, if_neg hmarked, isCancelled, List.contains_cons, Bool.or_left_comm, Bool.or_comm]
    rfl

end Marks

/-! ## What an operation comes down to -/

section Cases

variable {pool next : Pool σ} {now id : Nat}

theorem mem_tasks_of_task? {task : Task σ} (h : pool.task? id = some task) :
    task ∈ pool.tasks ∧ task.id = id :=
  ⟨List.mem_of_find?_eq_some h, by simpa using List.find?_some h⟩

/-- A new task sleeps for its initial delay, under a number of its own. -/
theorem schedule?_cases {initial delay : Millis} {job : σ}
    (h : pool.schedule? now initial delay job = some (next, id)) :
    pool.isShutdown = false ∧ id = pool.next ∧
      next = { pool with
        tasks := pool.tasks ++
          [{ id := pool.next, job, delay, phase := .sleeping (initial.after now) }]
        next := pool.next + 1 } := by
  rw [schedule?] at h
  by_cases hclosed : pool.isShutdown = true
  · rw [if_pos hclosed] at h
    exact absurd h.symm (Option.some_ne_none _)
  · rw [if_neg hclosed] at h
    obtain ⟨rfl, rfl⟩ := Prod.mk.inj (Option.some.inj h)
    exact ⟨Bool.eq_false_iff.2 hclosed, rfl, rfl⟩

/-- A task that sleeps ends at once, and any other goes on until it would next sleep or run. -/
theorem cancel_cases (pool : Pool σ) (id : Nat) :
    (pool.cancel id = pool.mark id ∧
      ∀ task wakeUp, pool.task? id = some task → task.phase ≠ .sleeping wakeUp) ∨
    ∃ task wakeUp, pool.task? id = some task ∧ task.phase = .sleeping wakeUp ∧
      pool.cancel id = (pool.mark id).drop id := by
  have hmarked := pool.task?_mark id id
  unfold cancel
  unfold mark at hmarked ⊢
  cases hfound : pool.task? id with
  | none =>
    rw [hfound] at hmarked
    exact .inl ⟨by simp only [hmarked], fun _ _ h => absurd h.symm (Option.some_ne_none _)⟩
  | some task =>
    obtain ⟨id, job, delay, phase⟩ := task
    rw [hfound] at hmarked
    cases phase with
    | sleeping wakeUp => exact .inr ⟨_, wakeUp, rfl, rfl, by simp only [hmarked]⟩
    | queued | running =>
      refine .inl ⟨by simp only [hmarked], fun task wakeUp h => ?_⟩
      obtain rfl := Option.some.inj h
      exact Phase.noConfusion

/-- Whether it ends or not, it is marked. -/
theorem cancel_eq_mark_or (pool : Pool σ) (id : Nat) :
    pool.cancel id = pool.mark id ∨ pool.cancel id = (pool.mark id).drop id := by
  rcases pool.cancel_cases id with ⟨hcancel, -⟩ | ⟨task, wakeUp, -, -, hcancel⟩
  · exact .inl hcancel
  · exact .inr hcancel

/-- Only a task whose delay is over queues for a worker. -/
theorem wake_cases (pool : Pool σ) (now id : Nat) :
    pool.wake now id = pool ∨
      (∃ task ∈ pool.tasks, task.id = id ∧ ∃ wakeUp, task.phase = .sleeping wakeUp ∧
        wakeUp ≤ now) ∧
      pool.wake now id = { pool.setPhase id .queued with queue := pool.queue ++ [id] } := by
  by_cases hdue : (pool.task? id).any (isDue now) = true
  · obtain ⟨task, hfound, htask⟩ := (Option.any_eq_true _ _).1 hdue
    obtain ⟨hmem, hid⟩ := mem_tasks_of_task? hfound
    refine .inr ⟨⟨task, hmem, hid, ?_⟩, if_pos hdue⟩
    rw [isDue] at htask
    cases hphase : task.phase with
    | sleeping wakeUp =>
      rw [hphase] at htask
      exact ⟨wakeUp, rfl, of_decide_eq_true htask⟩
    | queued | running =>
      rw [hphase] at htask
      exact absurd htask Bool.false_ne_true
  · exact .inl (if_neg hdue)

/-- A worker that is free takes the first of the queue. Nobody runs if that one was cancelled. -/
theorem start?_cases {started : Option (Task σ)} (h : pool.start? = some (next, started)) :
    ∃ id rest, pool.queue = id :: rest ∧ pool.crew.length < pool.workers ∧
      ((started = none ∧ (∀ task ∈ pool.tasks, task.id = id → pool.isCancelled id = true) ∧
        next = { pool with queue := rest }.drop id) ∨
      ∃ task ∈ pool.tasks, started = some task ∧ task.id = id ∧ pool.isCancelled id = false ∧
        next = { pool with queue := rest }.setPhase id .running) := by
  rw [start?] at h
  cases hqueue : pool.queue with
  | nil =>
    rw [hqueue] at h
    exact absurd h.symm (Option.some_ne_none _)
  | cons id rest =>
    simp only [hqueue] at h
    refine ⟨id, rest, rfl, ?_⟩
    by_cases hbusy : pool.freeWorkers = 0
    · rw [if_pos hbusy] at h
      exact absurd h.symm (Option.some_ne_none _)
    rw [if_neg hbusy] at h
    have hfree : pool.crew.length < pool.workers := by
      rw [crew, List.length_map]
      exact Nat.lt_of_sub_ne_zero hbusy
    refine ⟨hfree, ?_⟩
    -- only the queue has changed when the task is looked up
    have hsame : ({ pool with queue := rest } : Pool σ).task? id = pool.task? id := rfl
    rw [hsame] at h
    cases hfound : pool.task? id with
    | none =>
      rw [hfound] at h
      obtain ⟨rfl, rfl⟩ := Prod.mk.inj (Option.some.inj h)
      have hnobody : ∀ task ∈ pool.tasks, task.id ≠ id := by
        simpa [task?, List.find?_eq_none] using hfound
      refine .inl ⟨rfl, fun task htask hid => absurd hid (hnobody task htask), ?_⟩
      have hkept : (pool.tasks.filter fun task => task.id ≠ id) = pool.tasks :=
        List.filter_eq_self.2 fun task htask => by simp [hnobody task htask]
      rw [drop, hkept]
    | some task =>
      obtain ⟨htask, hid⟩ := mem_tasks_of_task? hfound
      simp only [hfound] at h
      by_cases hcancelled : pool.isCancelled id = true
      · obtain ⟨rfl, rfl⟩ := Prod.mk.inj (Option.some.inj ((if_pos hcancelled).symm.trans h))
        exact .inl ⟨rfl, fun _ _ _ => hcancelled, rfl⟩
      · obtain ⟨rfl, rfl⟩ := Prod.mk.inj (Option.some.inj ((if_neg hcancelled).symm.trans h))
        exact .inr ⟨task, htask, rfl, hid, Bool.eq_false_iff.2 hcancelled, rfl⟩

/-- The task that starts is the first of the queue and was not cancelled. -/
theorem start?_some_cases {task : Task σ} (h : pool.start? = some (next, some task)) :
    ∃ rest, pool.queue = task.id :: rest ∧ pool.crew.length < pool.workers ∧ task ∈ pool.tasks ∧
      pool.isCancelled task.id = false ∧
      next = { pool with queue := rest }.setPhase task.id .running := by
  obtain ⟨id, rest, hqueue, hfree, ⟨hstarted, -⟩ | ⟨found, htask, hstarted, rfl, hgoesOn, hnext⟩⟩ :=
    start?_cases h
  · exact nomatch hstarted
  · obtain rfl := Option.some.inj hstarted
    exact ⟨rest, hqueue, hfree, htask, hgoesOn, hnext⟩

/-- Only a task that runs ends its run: it leaves if it was cancelled, and sleeps otherwise. -/
theorem finish_cases (pool : Pool σ) (now id : Nat) :
    (pool.finish now id = pool ∧ ∀ task, pool.task? id = some task → task.phase ≠ .running) ∨
    ∃ task ∈ pool.tasks, task.id = id ∧ task.phase = .running ∧
      ((pool.isCancelled id = true ∧ pool.finish now id = pool.drop id) ∨
        (pool.isCancelled id = false ∧
          pool.finish now id = pool.setPhase id (.sleeping (task.delay.after now)))) := by
  unfold finish
  cases hfound : pool.task? id with
  | none => exact .inl ⟨rfl, nofun⟩
  | some task =>
    obtain ⟨htask, hid⟩ := mem_tasks_of_task? hfound
    by_cases hrunning : task.phase = .running
    · refine .inr ⟨task, htask, hid, hrunning, ?_⟩
      cases hcancelled : pool.isCancelled id with
      | true => exact .inl ⟨rfl, by simp [hrunning]⟩
      | false => exact .inr ⟨rfl, by simp [hrunning]⟩
    · refine .inl ⟨by simp [hrunning], fun other hother => ?_⟩
      obtain rfl := Option.some.inj hother
      exact hrunning

end Cases

/-! ## Roster and crew -/

section Lists

variable {pool : Pool σ} {id : Nat}

/-- Those who go on are the tasks that were not cancelled. -/
theorem mem_roster {badge : Nat × σ} :
    badge ∈ pool.roster ↔
      (∃ task ∈ pool.tasks, task.badge = badge) ∧ pool.isCancelled badge.1 = false := by
  simp [roster, badges]

theorem mem_crew {badge : Nat × σ} :
    badge ∈ pool.crew ↔ ∃ task ∈ pool.tasks, task.phase = .running ∧ task.badge = badge := by
  simp [crew, running, and_assoc]

/-- A task that is not running has no part in the crew. -/
theorem Orderly.filter_crew (horderly : pool.Orderly) {task : Task σ} (htask : task ∈ pool.tasks)
    (hidle : task.phase ≠ .running) :
    (pool.crew.filter fun badge => badge.1 ≠ task.id) = pool.crew := by
  rw [List.filter_eq_self]
  intro badge hbadge
  obtain ⟨other, hother, hrunning, rfl⟩ := mem_crew.1 hbadge
  rw [decide_eq_true_eq]
  intro hid
  obtain rfl := List.inj_on_of_nodup_map horderly.nodup hother htask hid
  exact hidle hrunning

theorem Orderly.nodup_badges (horderly : pool.Orderly) : pool.badges.Nodup := by
  refine List.Nodup.of_map Prod.fst ?_
  rw [badges, List.map_map]
  exact horderly.nodup

theorem Orderly.nodup_roster (horderly : pool.Orderly) : pool.roster.Nodup :=
  horderly.nodup_badges.filter _

/-- A task that goes on is known by its number. -/
theorem Orderly.badge_eq (horderly : pool.Orderly) {badge other : Nat × σ}
    (hbadge : badge ∈ pool.roster) (hother : other ∈ pool.roster) (hid : badge.1 = other.1) :
    badge = other := by
  obtain ⟨⟨task, htask, rfl⟩, -⟩ := mem_roster.1 hbadge
  obtain ⟨⟨found, hfound, rfl⟩, -⟩ := mem_roster.1 hother
  exact congrArg Task.badge (List.inj_on_of_nodup_map horderly.nodup htask hfound hid)

/-- Nobody goes on in a pool that is shut down. -/
theorem roster_eq_nil_of_isShutdown (h : pool.isShutdown = true) : pool.roster = [] := by
  rw [roster, List.filter_eq_nil_iff]
  intro badge _
  rw [isCancelled, h]
  exact Bool.false_ne_true

@[simp]
theorem badges_setPhase (pool : Pool σ) (id : Nat) (phase : Phase) :
    (pool.setPhase id phase).badges = pool.badges := by
  rw [badges, setPhase, List.map_map]
  refine List.map_congr_left fun task _ => ?_
  by_cases hid : task.id = id
  · rw [Function.comp_apply, if_pos hid]
    rfl
  · rw [Function.comp_apply, if_neg hid]

@[simp]
theorem roster_setPhase (pool : Pool σ) (id : Nat) (phase : Phase) :
    (pool.setPhase id phase).roster = pool.roster := by
  rw [roster, badges_setPhase]
  rfl

theorem badges_drop (pool : Pool σ) (id : Nat) :
    (pool.drop id).badges = pool.badges.filter fun badge => badge.1 ≠ id := by
  rw [badges, badges, List.filter_map]
  rfl

theorem roster_drop (pool : Pool σ) (id : Nat) :
    (pool.drop id).roster = pool.roster.filter fun badge => badge.1 ≠ id := by
  rw [roster, badges_drop, roster, List.filter_filter, List.filter_filter]
  refine List.filter_congr fun badge _ => Bool.and_comm _ _

theorem roster_mark (pool : Pool σ) (id : Nat) :
    (pool.mark id).roster = pool.roster.filter fun badge => badge.1 ≠ id := by
  rw [roster, badges, tasks_mark, roster, List.filter_filter]
  refine List.filter_congr fun badge _ => ?_
  rw [isCancelled_mark, Bool.not_or, Bool.and_comm, decide_not]

theorem crew_mark (pool : Pool σ) (id : Nat) : (pool.mark id).crew = pool.crew := by
  rw [crew, running, tasks_mark]
  rfl

theorem crew_drop (pool : Pool σ) (id : Nat) :
    (pool.drop id).crew = pool.crew.filter fun badge => badge.1 ≠ id := by
  rw [crew, running, drop, List.filter_filter, crew, running, List.filter_map, List.filter_filter]
  refine congrArg (List.map _) (List.filter_congr fun task _ => Bool.and_comm _ _)

theorem id_rephased (task : Task σ) (id : Nat) (phase : Phase) :
    (if task.id = id then { task with phase } else task).id = task.id :=
  (apply_ite Task.id _ _ _).trans (ite_self _)

theorem crew_setPhase (pool : Pool σ) (id : Nat) (phase : Phase) :
    (pool.setPhase id phase).crew =
      (pool.tasks.filter fun task =>
        if task.id = id then phase = .running else task.phase = .running).map Task.badge := by
  rw [crew, running, setPhase, List.filter_map, List.map_map]
  have hphase : ∀ task : Task σ,
      (if task.id = id then { task with phase } else task).badge = task.badge ∧
      (if task.id = id then { task with phase } else task).phase =
        if task.id = id then phase else task.phase := by
    intro task
    by_cases hid : task.id = id
    · rw [if_pos hid, if_pos hid]
      exact ⟨rfl, rfl⟩
    · rw [if_neg hid, if_neg hid]
      exact ⟨rfl, rfl⟩
  refine (List.map_congr_left fun task _ => (hphase task).1).trans ?_
  refine congrArg (List.map _) (List.filter_congr fun task _ => ?_)
  rw [Function.comp_apply, (hphase task).2]
  by_cases hid : task.id = id
  · rw [if_pos hid, if_pos hid]
  · rw [if_neg hid, if_neg hid]

/-- Another phase than that of a run takes a task out of the crew. -/
theorem crew_setPhase_of_ne {phase : Phase} (hidle : phase ≠ .running) :
    (pool.setPhase id phase).crew = pool.crew.filter fun badge => badge.1 ≠ id := by
  rw [crew_setPhase, crew, running, List.filter_map, List.filter_filter]
  refine congrArg (List.map _) (List.filter_congr fun task _ => ?_)
  by_cases hid : task.id = id
  · simp [hid, hidle, Task.badge]
  · simp [hid, Task.badge]

/-- A task that starts a run joins the crew. -/
theorem Orderly.crew_setPhase_perm (horderly : pool.Orderly) {task : Task σ}
    (htask : task ∈ pool.tasks) (hidle : task.phase ≠ .running) :
    (pool.setPhase task.id .running).crew.Perm (task.badge :: pool.crew) := by
  have hjoined : (pool.setPhase task.id .running).crew.Nodup := by
    rw [crew_setPhase]
    exact (List.filter_sublist.map _).nodup horderly.nodup_badges
  have hnew : task.badge ∉ pool.crew := by
    intro hmem
    rw [← horderly.filter_crew htask hidle] at hmem
    exact of_decide_eq_true (List.mem_filter.1 hmem).2 rfl
  have hlonger : (task.badge :: pool.crew).Nodup :=
    List.nodup_cons.2 ⟨hnew, (List.filter_sublist.map _).nodup horderly.nodup_badges⟩
  refine (List.perm_ext_iff_of_nodup hjoined hlonger).2 fun badge => ?_
  rw [crew_setPhase, List.mem_cons, mem_crew, List.mem_map]
  constructor
  · rintro ⟨other, hother, rfl⟩
    obtain ⟨hother, hphase⟩ := List.mem_filter.1 hother
    by_cases hid : other.id = task.id
    · exact .inl (congrArg _ (List.inj_on_of_nodup_map horderly.nodup hother htask hid))
    · rw [if_neg hid, decide_eq_true_eq] at hphase
      exact .inr ⟨other, hother, hphase, rfl⟩
  · rintro (rfl | ⟨other, hother, hphase, rfl⟩)
    · exact ⟨task, List.mem_filter.2 ⟨htask, by simp⟩, rfl⟩
    · exact ⟨other, List.mem_filter.2 ⟨hother, by simp [hphase]⟩, rfl⟩

end Lists

/-! ## What an operation keeps -/

section Operations

variable {pool next : Pool σ} {now id : Nat}

theorem Orderly.task?_eq_some (horderly : pool.Orderly) {task : Task σ}
    (htask : task ∈ pool.tasks) : pool.task? task.id = some task := by
  cases hfound : pool.task? task.id with
  | none =>
    rw [task?, List.find?_eq_none] at hfound
    exact absurd (decide_eq_true rfl) (hfound task htask)
  | some other =>
    obtain ⟨hother, hid⟩ := mem_tasks_of_task? hfound
    rw [List.inj_on_of_nodup_map horderly.nodup hother htask hid]

theorem Orderly.lt_next (horderly : pool.Orderly) {task : Task σ}
    (htask : pool.task? id = some task) : id < pool.next := by
  obtain ⟨hmem, rfl⟩ := mem_tasks_of_task? htask
  exact horderly.numbered task hmem

/-- There is one task of a number. -/
theorem Orderly.eq_of_task? (horderly : pool.Orderly) {task found : Task σ}
    (htask : pool.task? id = some task) (hfound : found ∈ pool.tasks) (hid : id = found.id) :
    found = task :=
  Option.some.inj ((horderly.task?_eq_some hfound).symm.trans (hid ▸ htask))

theorem exists_of_mem_setPhase {phase : Phase} {task : Task σ}
    (htask : task ∈ (pool.setPhase id phase).tasks) :
    ∃ old ∈ pool.tasks, old.badge = task.badge ∧ (task.id ≠ id → task = old) := by
  obtain ⟨old, hold, rfl⟩ := List.mem_map.1 htask
  refine ⟨old, hold, ?_⟩
  by_cases hid : old.id = id
  · rw [if_pos hid]
    exact ⟨rfl, fun hne => absurd hid hne⟩
  · rw [if_neg hid]
    exact ⟨rfl, fun _ => rfl⟩

/-- With fewer tasks a pool stays in order. -/
theorem Orderly.of_sublist (horderly : pool.Orderly) (htasks : next.tasks.Sublist pool.tasks)
    (hqueue : next.queue.Sublist pool.queue) (hcancelled : ∀ id ∈ next.cancelled, id < pool.next)
    (hnext : next.next = pool.next) (hworkers : next.workers = pool.workers) : next.Orderly := by
  constructor
  case nodup => exact (htasks.map _).nodup horderly.nodup
  case numbered =>
    rw [hnext]
    exact fun task htask => horderly.numbered task (htasks.subset htask)
  case cancelled =>
    rw [hnext]
    exact hcancelled
  case queue => exact hqueue.nodup horderly.queue
  case enqueued =>
    rw [hnext]
    exact fun id hid => horderly.enqueued id (hqueue.subset hid)
  case queued =>
    exact fun task htask hmem =>
      horderly.queued task (htasks.subset htask) (hqueue.subset hmem)
  case staffed =>
    rw [hworkers]
    exact Nat.le_trans ((htasks.filter _).map _).length_le horderly.staffed

/-- A change of phase keeps a pool in order if the queue stays one of tasks that wait. -/
theorem Orderly.setPhase (horderly : pool.Orderly) {phase : Phase} {queue : List Nat}
    (hqueue : queue.Nodup) (hself : id ∈ queue → phase = .queued)
    (hothers : ∀ other ∈ queue, other ≠ id → other ∈ pool.queue)
    (hid : id ∈ queue → id < pool.next)
    (hstaffed : (pool.setPhase id phase).crew.length ≤ pool.workers) :
    { pool.setPhase id phase with queue }.Orderly := by
  have hids : (pool.setPhase id phase).tasks.map Task.id = pool.tasks.map Task.id := by
    have hbadges := congrArg (List.map Prod.fst) (pool.badges_setPhase id phase)
    rwa [badges, badges, List.map_map, List.map_map] at hbadges
  constructor
  case nodup =>
    rw [hids]
    exact horderly.nodup
  case numbered =>
    intro task htask
    obtain ⟨old, hold, hsame⟩ := List.mem_map.1 (hids ▸ List.mem_map_of_mem htask)
    rw [← hsame]
    exact horderly.numbered old hold
  case cancelled => exact horderly.cancelled
  case queue => exact hqueue
  case enqueued =>
    intro other hother
    by_cases hsame : other = id
    · rw [hsame] at hother ⊢
      exact hid hother
    · exact horderly.enqueued other (hothers other hother hsame)
  case queued =>
    intro task htask hmem
    obtain ⟨old, hold, rfl⟩ := List.mem_map.1 htask
    by_cases hsame : old.id = id
    · rw [if_pos hsame] at hmem ⊢
      exact hself (hsame ▸ hmem)
    · rw [if_neg hsame] at hmem ⊢
      exact horderly.queued old hold (hothers _ hmem hsame)
  case staffed => exact hstaffed

/-! ### Scheduling and cancelling -/

theorem orderly_ofWorkers (name : String) (workers : Nat) :
    (ofWorkers name workers : Pool σ).Orderly :=
  ⟨List.nodup_nil, nofun, nofun, List.nodup_nil, nofun, nofun, Nat.zero_le _⟩

section Schedule

variable {initial delay : Millis} {job : σ}

theorem crew_schedule? (h : pool.schedule? now initial delay job = some (next, id)) :
    next.crew = pool.crew := by
  obtain ⟨-, -, rfl⟩ := schedule?_cases h
  simp [crew, running]

/-- A new task goes on as the last. -/
theorem roster_schedule? (horderly : pool.Orderly)
    (h : pool.schedule? now initial delay job = some (next, id)) :
    next.roster = pool.roster ++ [(id, job)] := by
  obtain ⟨hopen, rfl, rfl⟩ := schedule?_cases h
  have hnew : pool.isCancelled pool.next = false := by
    rw [isCancelled, hopen, Bool.false_or, ← Bool.not_eq_true, List.contains_iff_mem]
    exact fun hmem => Nat.lt_irrefl _ (horderly.cancelled _ hmem)
  have hkept : (!pool.isCancelled pool.next) = true := by rw [hnew, Bool.not_false]
  rw [roster, badges, List.map_append, List.filter_append]
  refine congrArg₂ _ rfl ?_
  exact List.filter_cons_of_pos hkept

theorem Orderly.schedule? (horderly : pool.Orderly)
    (h : pool.schedule? now initial delay job = some (next, id)) : next.Orderly := by
  have hcrew := crew_schedule? h
  obtain ⟨-, -, rfl⟩ := schedule?_cases h
  constructor
  case nodup =>
    rw [List.map_append, List.nodup_append]
    refine ⟨horderly.nodup, List.nodup_singleton _, ?_⟩
    intro old hold new hnew
    obtain ⟨task, htask, rfl⟩ := List.mem_map.1 hold
    obtain rfl := List.mem_singleton.1 hnew
    exact Nat.ne_of_lt (horderly.numbered task htask)
  case numbered =>
    intro task htask
    rcases List.mem_append.1 htask with hold | hnew
    · exact Nat.lt_succ_of_lt (horderly.numbered task hold)
    · obtain rfl := List.mem_singleton.1 hnew
      exact Nat.lt_succ_self _
  case cancelled => exact fun id hid => Nat.lt_succ_of_lt (horderly.cancelled id hid)
  case queue => exact horderly.queue
  case enqueued => exact fun id hid => Nat.lt_succ_of_lt (horderly.enqueued id hid)
  case queued =>
    intro task htask hmem
    rcases List.mem_append.1 htask with hold | hnew
    · exact horderly.queued task hold hmem
    · obtain rfl := List.mem_singleton.1 hnew
      exact absurd (horderly.enqueued _ hmem) (Nat.lt_irrefl _)
  case staffed =>
    rw [hcrew]
    exact horderly.staffed

end Schedule

theorem Orderly.cancel (horderly : pool.Orderly) (hid : id < pool.next) :
    (pool.cancel id).Orderly := by
  have hcancelled : ∀ other ∈ (pool.mark id).cancelled, other < pool.next := by
    intro other hother
    rcases List.mem_cons.1 (pool.cancelled_mark_subset id hother) with rfl | hold
    · exact hid
    · exact horderly.cancelled other hold
  have hmarked : (pool.mark id).Orderly :=
    horderly.of_sublist (by rw [tasks_mark]) (by rw [queue_mark]) hcancelled
      (pool.next_mark id) (pool.workers_mark id)
  rcases pool.cancel_eq_mark_or id with hcancel | hcancel
  · rw [hcancel]
    exact hmarked
  · rw [hcancel]
    exact hmarked.of_sublist List.filter_sublist (.refl _) hmarked.cancelled rfl rfl

/-- Cancelling takes one task off those who go on. -/
theorem roster_cancel (pool : Pool σ) (id : Nat) :
    (pool.cancel id).roster = pool.roster.filter fun badge => badge.1 ≠ id := by
  rcases pool.cancel_eq_mark_or id with hcancel | hcancel
  · rw [hcancel, roster_mark]
  · rw [hcancel, roster_drop, roster_mark, List.filter_filter]
    simp only [Bool.and_self]

/-- A run is not disturbed by cancelling. -/
theorem Orderly.crew_cancel (horderly : pool.Orderly) (id : Nat) :
    (pool.cancel id).crew = pool.crew := by
  rcases pool.cancel_cases id with ⟨hcancel, -⟩ | ⟨task, wakeUp, hfound, hasleep, hcancel⟩
  · rw [hcancel, crew_mark]
  · obtain ⟨htask, rfl⟩ := mem_tasks_of_task? hfound
    rw [hcancel, crew_drop, crew_mark, horderly.filter_crew htask (hasleep ▸ Phase.noConfusion)]

theorem next_cancel (pool : Pool σ) (id : Nat) : (pool.cancel id).next = pool.next := by
  rcases pool.cancel_eq_mark_or id with hcancel | hcancel
  · rw [hcancel, next_mark]
  · rw [hcancel, drop, next_mark]

theorem isShutdown_cancel (pool : Pool σ) (id : Nat) :
    (pool.cancel id).isShutdown = pool.isShutdown := by
  rcases pool.cancel_eq_mark_or id with hcancel | hcancel
  · rw [hcancel, isShutdown_mark]
  · rw [hcancel, drop, isShutdown_mark]

theorem workers_cancel (pool : Pool σ) (id : Nat) : (pool.cancel id).workers = pool.workers := by
  rcases pool.cancel_eq_mark_or id with hcancel | hcancel
  · rw [hcancel, workers_mark]
  · rw [hcancel, drop, workers_mark]

theorem isCancelled_cancel (pool : Pool σ) (id other : Nat) :
    (pool.cancel id).isCancelled other = (pool.isCancelled other || decide (other = id)) := by
  rw [← isCancelled_mark]
  rcases pool.cancel_eq_mark_or id with hcancel | hcancel
  · rw [hcancel]
  · rw [hcancel]
    rfl

theorem tasks_cancel_sublist (pool : Pool σ) (id : Nat) :
    (pool.cancel id).tasks.Sublist pool.tasks := by
  rcases pool.cancel_eq_mark_or id with hcancel | hcancel
  · rw [hcancel, tasks_mark]
  · rw [hcancel, drop, tasks_mark]
    exact List.filter_sublist

theorem Orderly.shutdown (horderly : pool.Orderly) : pool.shutdown.Orderly :=
  horderly.of_sublist (List.nil_sublist _) (List.nil_sublist _) horderly.cancelled rfl rfl

/-! ### Waking, running and resting -/

theorem Orderly.continues (horderly : pool.Orderly) : pool.Continues pool :=
  ⟨horderly, rfl, rfl, rfl, rfl⟩

/-- A task that was cancelled leaves. -/
theorem Orderly.continues_drop (horderly : pool.Orderly)
    (hcancelled : ∀ badge ∈ pool.roster, badge.1 ≠ id) : pool.Continues (pool.drop id) where
  orderly := horderly.of_sublist List.filter_sublist (.refl _) horderly.cancelled rfl rfl
  roster := by
    rw [roster_drop, List.filter_eq_self]
    exact fun badge hbadge => decide_eq_true (hcancelled badge hbadge)
  workers := rfl
  isShutdown := rfl
  next := rfl

/-- Whoever was cancelled does not go on. -/
theorem ne_of_mem_roster (hcancelled : ∀ task ∈ pool.tasks, task.id = id →
    pool.isCancelled id = true) : ∀ badge ∈ pool.roster, badge.1 ≠ id := by
  intro badge hbadge
  obtain ⟨⟨task, htask, rfl⟩, hgoesOn⟩ := mem_roster.1 hbadge
  rintro rfl
  exact Bool.false_ne_true (hgoesOn.symm.trans (hcancelled task htask rfl))

theorem Orderly.continues_wake (horderly : pool.Orderly) (now id : Nat) :
    pool.Continues (pool.wake now id) := by
  rcases pool.wake_cases now id with hwake | ⟨⟨task, htask, rfl, wakeUp, hphase, -⟩, hwake⟩
  · rw [hwake]
    exact horderly.continues
  · have hidle : task.id ∉ pool.queue := by
      intro hmem
      exact absurd (hphase.symm.trans (horderly.queued task htask hmem)) nofun
    rw [hwake]
    refine ⟨?_, pool.roster_setPhase task.id .queued, rfl, rfl, rfl⟩
    refine horderly.setPhase ?_ (fun _ => rfl) ?_ (fun _ => horderly.numbered task htask) ?_
    · exact List.nodup_append.2 ⟨horderly.queue, List.nodup_singleton _,
        fun old hold new hnew hsame => hidle (List.mem_singleton.1 hnew ▸ hsame ▸ hold)⟩
    · intro other hother hne
      exact (List.mem_append.1 hother).resolve_right fun h => hne (List.mem_singleton.1 h)
    · rw [crew_setPhase_of_ne (show Phase.queued ≠ .running from nofun)]
      exact Nat.le_trans (List.length_filter_le _ _) horderly.staffed

theorem Orderly.crew_wake (horderly : pool.Orderly) (now id : Nat) :
    (pool.wake now id).crew = pool.crew := by
  rcases pool.wake_cases now id with hwake | ⟨⟨task, htask, rfl, wakeUp, hphase, -⟩, hwake⟩
  · rw [hwake]
  · rw [hwake, ← horderly.filter_crew htask (hphase ▸ nofun)]
    exact crew_setPhase_of_ne nofun

section Start

variable {started : Option (Task σ)}

theorem Orderly.of_queue (horderly : pool.Orderly) {rest : List Nat}
    (hqueue : pool.queue = id :: rest) : { pool with queue := rest }.Orderly :=
  horderly.of_sublist (.refl _) (hqueue ▸ List.sublist_cons_self _ _) horderly.cancelled rfl rfl

theorem Orderly.continues_start? (horderly : pool.Orderly)
    (h : pool.start? = some (next, started)) : pool.Continues next := by
  obtain ⟨id, rest, hqueue, hfree, ⟨-, hcancelled, rfl⟩ | ⟨task, htask, -, rfl, -, rfl⟩⟩ :=
    start?_cases h
  · obtain ⟨hrest, hroster, -⟩ :=
      (horderly.of_queue hqueue).continues_drop (ne_of_mem_roster hcancelled)
    exact ⟨hrest, hroster, rfl, rfl, rfl⟩
  · have hnodup := horderly.queue
    rw [hqueue, List.nodup_cons] at hnodup
    have hphase : task.phase = .queued :=
      horderly.queued task htask (hqueue ▸ List.mem_cons_self)
    refine ⟨?_, roster_setPhase { pool with queue := rest } task.id .running, rfl, rfl, rfl⟩
    refine horderly.setPhase hnodup.2 (fun hmem => absurd hmem hnodup.1) ?_
      (fun _ => horderly.numbered task htask) ?_
    · exact fun other hother _ => hqueue ▸ List.mem_cons_of_mem _ hother
    · rw [(horderly.crew_setPhase_perm htask (hphase ▸ nofun)).length_eq]
      exact hfree

theorem Orderly.crew_start?_none (horderly : pool.Orderly)
    (h : pool.start? = some (next, none)) : next.crew = pool.crew := by
  obtain ⟨id, rest, hqueue, -, ⟨-, -, rfl⟩ | ⟨task, -, hstarted, -⟩⟩ := start?_cases h
  · refine (crew_drop _ id).trans (List.filter_eq_self.2 fun badge hbadge => ?_)
    obtain ⟨task, htask, hrunning, rfl⟩ := mem_crew.1 hbadge
    rw [decide_eq_true_eq]
    rintro rfl
    have hphase := horderly.queued task htask (hqueue ▸ List.mem_cons_self)
    exact absurd (hrunning.symm.trans hphase) nofun
  · exact nomatch hstarted

/-- A worker that is free starts one run more. -/
theorem Orderly.crew_start?_some (horderly : pool.Orderly) {task : Task σ}
    (h : pool.start? = some (next, some task)) : next.crew.Perm (task.badge :: pool.crew) := by
  obtain ⟨rest, hqueue, -, htask, -, rfl⟩ := start?_some_cases h
  have hphase := horderly.queued task htask (hqueue ▸ List.mem_cons_self)
  exact horderly.crew_setPhase_perm htask (hphase ▸ nofun)

end Start

theorem Orderly.continues_finish (horderly : pool.Orderly) (now id : Nat) :
    pool.Continues (pool.finish now id) := by
  rcases pool.finish_cases now id with
    ⟨hfinish, -⟩ | ⟨task, htask, rfl, hrunning, ⟨hcancelled, hfinish⟩ | ⟨-, hfinish⟩⟩
  · rw [hfinish]
    exact horderly.continues
  · rw [hfinish]
    exact horderly.continues_drop (ne_of_mem_roster fun _ _ _ => hcancelled)
  · have hidle : task.id ∉ pool.queue := by
      intro hmem
      exact absurd (hrunning.symm.trans (horderly.queued task htask hmem)) nofun
    rw [hfinish]
    refine ⟨?_, pool.roster_setPhase _ _, rfl, rfl, rfl⟩
    refine horderly.setPhase horderly.queue (fun hmem => absurd hmem hidle) (fun _ h _ => h)
      (fun _ => horderly.numbered task htask) ?_
    rw [crew_setPhase_of_ne (show Phase.sleeping _ ≠ .running from nofun)]
    exact Nat.le_trans (List.length_filter_le _ _) horderly.staffed

/-- A run that ends is one run less. -/
theorem Orderly.crew_finish (horderly : pool.Orderly) (now id : Nat) :
    (pool.finish now id).crew = pool.crew.filter fun badge => badge.1 ≠ id := by
  rcases pool.finish_cases now id with
    ⟨hfinish, hidle⟩ | ⟨task, -, -, -, ⟨-, hfinish⟩ | ⟨-, hfinish⟩⟩
  · rw [hfinish, eq_comm, List.filter_eq_self]
    intro badge hbadge
    obtain ⟨task, htask, hrunning, rfl⟩ := mem_crew.1 hbadge
    rw [decide_eq_true_eq]
    rintro rfl
    exact hidle task (horderly.task?_eq_some htask) hrunning
  · rw [hfinish, crew_drop]
  · rw [hfinish, crew_setPhase_of_ne]
    exact nofun

end Operations

end Pool

end RegistrySession
