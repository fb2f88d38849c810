import RegistrySession.Proofs.Pool.Staffing

/-!
# A pool without one of its tasks

What a task does, and what is done to it, leaves all others as they are.  Once a task was cancelled
and is not in the middle of a run, the others go on as if it had never been there: whatever is done
then can be done to the pool without the task, with the same runs at the same times.
-/

namespace RegistrySession

universe u

variable {σ : Type u}

namespace Pool

def Event.task : Event → Nat
  | .took id | .started id | .resumed id | .ended id _ | .cut id | .released id => id

def Act.task? : Act σ → Option Nat
  | .cancel id | .wake id | .notice id | .resume id _ => some id
  | _ => none

def without (pool : Pool σ) (id : Nat) : Pool σ :=
  { pool with
    tasks := pool.tasks.filter fun task => task.id ≠ id
    queue := pool.queue.filter fun other => other ≠ id
    cancelled := pool.cancelled.filter fun other => other ≠ id }

section Without

variable {pool : Pool σ} {id other : Nat}

/-- The other tasks are found as before. -/
theorem task?_without (pool : Pool σ) (h : other ≠ id) :
    (pool.without id).task? other = pool.task? other := by
  have hsame : (fun task : Task σ => (decide (task.id ≠ id) && decide (task.id = other))) =
      fun task => decide (task.id = other) := by
    funext task
    by_cases hid : task.id = other
    · simp [hid, h]
    · simp [hid]
  rw [task?, without, List.find?_filter, task?]
  simp only [← Bool.decide_and] at hsame
  simpa using congrArg pool.tasks.find? hsame

theorem isCancelled_without (pool : Pool σ) (h : other ≠ id) :
    (pool.without id).isCancelled other = pool.isCancelled other := by
  have hmem : (pool.without id).cancelled.contains other = pool.cancelled.contains other := by
    rw [Bool.eq_iff_iff]
    simp [without, h]
  rw [isCancelled, hmem]
  rfl

theorem isRunning_without (pool : Pool σ) (h : other ≠ id) :
    (pool.without id).isRunning other = pool.isRunning other := by
  rw [isRunning, isRunning, task?_without pool h]

/-- A task that is not running has no worker to leave behind. -/
theorem Orderly.freeWorkers_without (horderly : pool.Orderly) (hidle : pool.isRunning id = false) :
    (pool.without id).freeWorkers = pool.freeWorkers := by
  have hself : (pool.crew.filter fun badge => badge.1 ≠ id) = pool.crew := by
    refine List.filter_eq_self.2 fun badge hbadge => decide_eq_true ?_
    rintro rfl
    have hrunning := horderly.mem_desk_iff.1 (Pool.mem_desk_iff.2 ⟨badge, hbadge, rfl⟩)
    exact Bool.false_ne_true (hidle.symm.trans hrunning)
  have hcrew : (pool.without id).crew = pool.crew := (crew_drop pool id).trans hself
  rw [freeWorkers_eq, freeWorkers_eq, hcrew]
  rfl

theorem without_mark_self (pool : Pool σ) (id : Nat) :
    (pool.mark id).without id = pool.without id := by
  unfold mark
  by_cases hmarked : pool.cancelled.contains id = true
  · rw [if_pos hmarked]
  · rw [if_neg hmarked]
    simp [without]

theorem without_mark (pool : Pool σ) (h : other ≠ id) :
    (pool.mark other).without id = (pool.without id).mark other := by
  have hmem : (pool.without id).cancelled.contains other = pool.cancelled.contains other := by
    rw [Bool.eq_iff_iff]
    simp [without, h]
  unfold mark
  rw [hmem]
  by_cases hmarked : pool.cancelled.contains other = true
  · rw [if_pos hmarked, if_pos hmarked]
  · rw [if_neg hmarked, if_neg hmarked]
    simp [without, h]

theorem without_drop (pool : Pool σ) (id other : Nat) :
    (pool.drop other).without id = (pool.without id).drop other := by
  simp only [without, drop, List.filter_filter, Bool.and_comm]

theorem drop_without_self (pool : Pool σ) (id : Nat) :
    (pool.without id).drop id = pool.without id := by
  simp [without, drop, List.filter_filter]

theorem without_setPhase (pool : Pool σ) (id other : Nat) (phase : Phase) :
    (pool.setPhase other phase).without id = (pool.without id).setPhase other phase := by
  simp [without, setPhase, List.filter_map, Function.comp_def, id_rephased]

theorem setPhase_without_self (pool : Pool σ) (id : Nat) (phase : Phase) :
    (pool.without id).setPhase id phase = pool.without id := by
  have hothers : (pool.without id).tasks.map (fun task =>
      if task.id = id then { task with phase } else task) = (pool.without id).tasks := by
    refine (List.map_congr_left fun task htask => ?_).trans (List.map_id _)
    rw [if_neg (of_decide_eq_true (List.mem_filter.1 htask).2)]
    rfl
  rw [setPhase, hothers]

theorem Orderly.without_leave (horderly : pool.Orderly) (id other : Nat) :
    (pool.leave other).without id = (pool.without id).leave other := by
  have hnodup : (pool.queue.filter fun other => other ≠ id).Nodup := horderly.queue.filter _
  simp only [Pool.without, Pool.leave, drop, List.filter_filter, Bool.and_comm,
    hnodup.erase_eq_filter, horderly.queue.erase_eq_filter]

theorem leave_without_self (pool : Pool σ) (id : Nat) :
    (pool.without id).leave id = pool.without id := by
  have habsent : id ∉ (pool.without id).queue := by simp [without]
  rw [leave, drop_without_self, List.erase_of_not_mem habsent]

/-! ## What leaves the others as they are -/

theorem without_enqueue (pool : Pool σ) (queue : List Nat) (id : Nat) :
    { pool with queue }.without id =
      { pool.without id with queue := queue.filter fun other => other ≠ id } :=
  rfl

theorem without_wake (pool : Pool σ) (now : Nat) (h : other ≠ id) :
    (pool.wake now other).without id = (pool.without id).wake now other := by
  have hqueue : ((pool.queue ++ [other]).filter fun other => other ≠ id) =
      (pool.without id).queue ++ [other] := by simp [without, h]
  unfold wake
  rw [task?_without pool h]
  by_cases hdue : (pool.task? other).any (isDue now) = true
  · rw [if_pos hdue, if_pos hdue, without_enqueue, without_setPhase, hqueue]
  · rw [if_neg hdue, if_neg hdue]

theorem without_wake_self (pool : Pool σ) (now id : Nat) :
    (pool.wake now id).without id = pool.without id := by
  have hqueue : ((pool.queue ++ [id]).filter fun other => other ≠ id) =
      (pool.without id).queue := by simp [without]
  rcases pool.wake_cases now id with hwake | ⟨-, hwake⟩
  · rw [hwake]
  · rw [hwake, without_enqueue, without_setPhase, setPhase_without_self, hqueue]

theorem quits_without (pool : Pool σ) (h : other ≠ id) :
    (pool.without id).quits other = pool.quits other := by
  unfold quits
  rw [task?_without pool h, isCancelled_without pool h]
  rfl

/-- Another task finds out the same, and tells the same. -/
theorem Orderly.without_notice (horderly : pool.Orderly) (h : other ≠ id) :
    (pool.notice other).1.without id = ((pool.without id).notice other).1 ∧
      (pool.notice other).2 = ((pool.without id).notice other).2 := by
  have hquits := quits_without pool h
  cases hquit : pool.quits other with
  | true =>
    rw [notice_of_quits hquit, notice_of_quits (hquits.trans hquit), isRunning_without pool h]
    exact ⟨horderly.without_leave id other, rfl⟩
  | false =>
    rw [notice_of_not_quits hquit, notice_of_not_quits (hquits.trans hquit)]
    exact ⟨rfl, rfl⟩

/-- When the task itself leaves, nobody else notices. -/
theorem Orderly.without_notice_self (horderly : pool.Orderly) (id : Nat) :
    (pool.notice id).1.without id = pool.without id := by
  cases hquits : pool.quits id with
  | true =>
    rw [notice_of_quits hquits]
    exact (horderly.without_leave id id).trans (leave_without_self pool id)
  | false => rw [notice_of_not_quits hquits]

theorem without_finish (pool : Pool σ) (now : Nat) (h : other ≠ id) :
    (pool.finish now other).without id = (pool.without id).finish now other := by
  unfold finish
  rw [task?_without pool h, isCancelled_without pool h]
  cases pool.task? other with
  | none => rfl
  | some task =>
    by_cases hrunning : task.phase = .running
    · simp only [if_pos hrunning]
      cases pool.isCancelled other with
      | true => exact pool.without_drop id other
      | false => exact pool.without_setPhase id other _
    · simp only [if_neg hrunning]

theorem without_finish_self (pool : Pool σ) (now id : Nat) :
    (pool.finish now id).without id = pool.without id := by
  rcases pool.finish_cases now id with ⟨hfinish, -⟩ | ⟨task, -, -, -, ⟨-, hfinish⟩ | ⟨-, hfinish⟩⟩
  · rw [hfinish]
  · rw [hfinish, without_drop, drop_without_self]
  · rw [hfinish, without_setPhase, setPhase_without_self]

/-- What is done to a task, and what it does itself, leaves the others as they are. -/
theorem Orderly.without_enact_self (horderly : pool.Orderly) (now : Nat) {act : Act σ}
    (hact : act.task? = some id) : (pool.enact now act).1.without id = pool.without id := by
  cases act with
  | schedule initial delay job => exact absurd hact (Option.some_ne_none id).symm
  | cancel other =>
    obtain rfl := Option.some.inj hact
    rcases pool.enact_cancel_cases now other with ⟨-, hcancel⟩ | hcancel
    · rw [hcancel]
      exact pool.without_mark_self other
    · rw [hcancel]
  | wake other =>
    obtain rfl := Option.some.inj hact
    exact pool.without_wake_self now other
  | notice other =>
    obtain rfl := Option.some.inj hact
    exact horderly.without_notice_self other
  | start => exact absurd hact (Option.some_ne_none id).symm
  | resume other outcome =>
    obtain rfl := Option.some.inj hact
    rw [enact]
    cases hclosed : pool.isShutdown with
    | true =>
      rw [resume_of_isShutdown hclosed]
      exact horderly.without_notice_self other
    | false =>
      cases hrunning : pool.isRunning other with
      | false => rw [resume_of_not_isRunning hclosed hrunning]
      | true =>
        cases outcome with
        | none => rw [resume_none hclosed hrunning]
        | some outcome =>
          rw [resume_some hclosed hrunning]
          exact pool.without_finish_self now other
  | close => exact absurd hact (Option.some_ne_none id).symm

/-- A task that looks whether to go on tells of nobody else. -/
theorem task_of_mem_notice {event : Event} (h : event ∈ (pool.notice id).2) : event.task = id := by
  cases hquits : pool.quits id with
  | false =>
    rw [notice_of_not_quits hquits] at h
    exact absurd h List.not_mem_nil
  | true =>
    rw [notice_of_quits hquits] at h
    obtain ⟨-, hevent⟩ := List.mem_ite_nil_right.1 h
    rcases List.mem_pair.1 hevent with rfl | rfl <;> rfl

/-- A run that gets on tells of nobody else. -/
theorem task_of_mem_resume {now : Nat} {outcome : Option Outcome} {event : Event}
    (h : event ∈ (pool.resume now id outcome).2) : event.task = id := by
  cases hclosed : pool.isShutdown with
  | true =>
    rw [resume_of_isShutdown hclosed] at h
    exact task_of_mem_notice h
  | false =>
    cases hrunning : pool.isRunning id with
    | false =>
      rw [resume_of_not_isRunning hclosed hrunning] at h
      exact absurd h List.not_mem_nil
    | true =>
      cases outcome with
      | none =>
        rw [resume_none hclosed hrunning] at h
        obtain rfl := List.mem_singleton.1 h
        rfl
      | some outcome =>
        rw [resume_some hclosed hrunning] at h
        simp only [List.mem_cons, List.not_mem_nil, or_false] at h
        rcases h with rfl | rfl | rfl <;> rfl

/-! ## As if a task had never been there -/

/-- Whoever else is first in the queue starts as if the task were not there. -/
theorem Orderly.without_start? (horderly : pool.Orderly) (hidle : pool.isRunning id = false)
    {rest : List Nat} (hqueue : pool.queue = other :: rest) (h : other ≠ id) :
    (pool.without id).start? =
      pool.start?.map fun result => (result.1.without id, result.2) := by
  have hothers : (pool.without id).queue = other :: rest.filter fun other => other ≠ id := by
    simp [without, hqueue, h]
  have hshorter : { pool.without id with queue := rest.filter fun other => other ≠ id } =
      { pool with queue := rest }.without id := rfl
  unfold start?
  rw [hothers, hqueue]
  simp only [horderly.freeWorkers_without hidle, hshorter]
  generalize { pool with queue := rest } = shorter
  rw [task?_without shorter h, isCancelled_without shorter h]
  by_cases hfree : pool.freeWorkers = 0
  · rw [if_pos hfree, if_pos hfree]
    rfl
  · rw [if_neg hfree, if_neg hfree]
    cases shorter.task? other with
    | none => rfl
    | some task =>
      cases shorter.isCancelled other with
      | true => exact congrArg (fun pool => some (pool, none)) (shorter.without_drop id other).symm
      | false =>
        exact congrArg (fun pool => some (pool, some task))
          (shorter.without_setPhase id other .running).symm

/-- Where the task comes first for a worker, it ends and nobody starts.  Otherwise whoever starts
would start without it too. -/
theorem Orderly.without_employ (horderly : pool.Orderly) (hidle : pool.isRunning id = false)
    (hcancelled : pool.isCancelled id = true) :
    (pool.employ.1.without id = pool.without id ∧ ∀ event ∈ pool.employ.2, event.task = id) ∨
      (pool.employ.1.without id = (pool.without id).employ.1 ∧
        pool.employ.2 = (pool.without id).employ.2) := by
  cases hstart : pool.start? with
  | none =>
    left
    simp [employ, hstart]
  | some result =>
    obtain ⟨next, started⟩ := result
    obtain ⟨first, rest, hqueue, -, hresult⟩ := start?_cases hstart
    by_cases hfirst : first = id
    · subst hfirst
      left
      obtain ⟨rfl, -, rfl⟩ | ⟨task, -, -, -, hgoesOn, -⟩ := hresult
      · have hself :
            ({ pool with queue := rest }.drop first).without first = pool.without first := by
          have hsame : { pool with queue := rest }.without first = pool.without first := by
            simp [without, hqueue]
          rw [without_drop, hsame, drop_without_self]
        refine ⟨by simpa [employ, hstart] using hself, ?_⟩
        intro event hevent
        simp only [employ, hstart, hqueue] at hevent
        obtain ⟨-, htold⟩ := List.mem_ite_nil_left.1 hevent
        rcases List.mem_pair.1 htold with rfl | rfl <;> rfl
      · exact absurd (hcancelled.symm.trans hgoesOn) Bool.noConfusion
    · right
      have hwithout := horderly.without_start? hidle hqueue hfirst
      rw [hstart, Option.map_some] at hwithout
      have hothers : (pool.without id).queue = first :: rest.filter fun other => other ≠ id := by
        simp [without, hqueue, hfirst]
      have hclosed : (pool.without id).isShutdown = pool.isShutdown := rfl
      cases started with
      | none => simp [employ, hstart, hwithout, hothers, hqueue, hclosed]
      | some task => simp [employ, hstart, hwithout]

theorem Orderly.without_resume (horderly : pool.Orderly) (now : Nat) (outcome : Option Outcome)
    (h : other ≠ id) :
    (pool.resume now other outcome).1.without id = ((pool.without id).resume now other outcome).1 ∧
      (pool.resume now other outcome).2 = ((pool.without id).resume now other outcome).2 := by
  have hclosed : (pool.without id).isShutdown = pool.isShutdown := rfl
  unfold resume
  rw [hclosed, isRunning_without pool h]
  cases pool.isShutdown with
  | true => exact horderly.without_notice h
  | false =>
    cases pool.isRunning other with
    | false => exact ⟨rfl, rfl⟩
    | true =>
      cases outcome with
      | none => exact ⟨rfl, rfl⟩
      | some outcome => exact ⟨pool.without_finish now h, rfl⟩

/-- A new task gets its number whether or not the old one is there. -/
theorem without_schedule? (pool : Pool σ) (now : Nat) (initial delay : Millis) (job : σ)
    (hid : id < pool.next) :
    (pool.without id).schedule? now initial delay job =
      (pool.schedule? now initial delay job).map fun result => (result.1.without id, result.2) := by
  have hne : pool.next ≠ id := Nat.ne_of_gt hid
  unfold schedule?
  cases hclosed : pool.isShutdown with
  | true => simp [without, hclosed]
  | false => simp [without, hclosed, hne]

/-- An act that is about a task is about no other, and does the same without any other. -/
theorem Orderly.without_enact_of_ne (horderly : pool.Orderly) (now : Nat) {act : Act σ}
    (hact : act.task? = some other) (h : other ≠ id) :
    (pool.enact now act).1.without id = ((pool.without id).enact now act).1 ∧
      (pool.enact now act).2 = ((pool.without id).enact now act).2 := by
  cases act with
  | schedule initial delay job => exact absurd hact (Option.some_ne_none other).symm
  | cancel found =>
    obtain rfl := Option.some.inj hact
    have hnext : (pool.without id).next = pool.next := rfl
    simp only [enact, hnext, and_true]
    by_cases hknown : found < pool.next
    · rw [if_pos hknown, if_pos hknown]
      exact pool.without_mark h
    · rw [if_neg hknown, if_neg hknown]
  | wake found =>
    obtain rfl := Option.some.inj hact
    exact ⟨pool.without_wake now h, rfl⟩
  | notice found =>
    obtain rfl := Option.some.inj hact
    exact horderly.without_notice h
  | start => exact absurd hact (Option.some_ne_none other).symm
  | resume found outcome =>
    obtain rfl := Option.some.inj hact
    exact horderly.without_resume now outcome h
  | close => exact absurd hact (Option.some_ne_none other).symm

/-- Any act is about the cancelled task alone, or it does the same without that task. -/
theorem Orderly.without_enact (horderly : pool.Orderly) (hid : id < pool.next)
    (hidle : pool.isRunning id = false) (hcancelled : pool.isCancelled id = true) (now : Nat)
    (act : Act σ) :
    ((pool.enact now act).1.without id = pool.without id ∧
        ∀ event ∈ (pool.enact now act).2, event.task = id) ∨
      ((pool.enact now act).1.without id = ((pool.without id).enact now act).1 ∧
        (pool.enact now act).2 = ((pool.without id).enact now act).2) := by
  cases hact : act.task? with
  | some other =>
    by_cases hother : other = id
    · subst hother
      refine .inl ⟨horderly.without_enact_self now hact, fun event hevent => ?_⟩
      cases act with
      | notice found =>
        obtain rfl := Option.some.inj hact
        exact task_of_mem_notice hevent
      | resume found outcome =>
        obtain rfl := Option.some.inj hact
        exact task_of_mem_resume hevent
      | _ => simp_all [enact, Act.task?]
    · exact .inr (horderly.without_enact_of_ne now hact hother)
  | none =>
    cases act with
    | schedule initial delay job =>
      right
      simp only [enact, without_schedule? pool now initial delay job hid, and_true]
      cases pool.schedule? now initial delay job <;> rfl
    | start => exact horderly.without_employ hidle hcancelled
    | close => exact .inr ⟨rfl, rfl⟩
    | _ => exact absurd hact (Option.some_ne_none _)

end Without

end Pool

end RegistrySession
