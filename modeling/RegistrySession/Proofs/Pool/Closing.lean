import RegistrySession.Proofs.Pool.Leaving

/-!
# Pools that shut down

In a pool that is shutting down nobody starts or gets on, and everybody leaves at the next turn.
Cancelling and shutting down as a pool does them at once come down to marks and turns of tasks.
-/

namespace RegistrySession

universe u

variable {σ : Type u}

namespace Pool

/-! ## After shutting down began -/

/-- The task takes its turn, and looks whether it should go on. -/
def Act.isTurnOf (id : Nat) : Act σ → Bool
  | .notice other | .resume other _ => other = id
  | _ => false

section Closed

variable {pool next : Pool σ} {events : List Event} {id : Nat}

/-- Nobody starts or gets on any more, and nobody is let in. -/
theorem Deed.of_closed (hclosed : pool.isShutdown = true) (h : pool.Deed next events) :
    next.badges.Sublist pool.badges ∧
      ∀ event ∈ events, ∃ id, event = .cut id ∨ event = .released id := by
  have hbadges : next.badges.Sublist pool.badges :=
    h.badges.resolve_right fun hopen => Bool.false_ne_true (hopen.1.symm.trans hclosed)
  exact ⟨hbadges, fun event hevent => (h.tells event hevent).of_closed hclosed⟩

/-- A pool that is shut down gains no tasks, and tells of nothing but runs cut off and workers given
back. -/
theorem after_of_closed (hclosed : pool.isShutdown = true) (acts : List (Nat × Act σ)) :
    (pool.after acts).badges.Sublist pool.badges ∧
      ∀ event ∈ pool.history acts, ∃ id, event = .cut id ∨ event = .released id := by
  induction acts generalizing pool with
  | nil => exact ⟨.refl _, fun event hevent => absurd hevent List.not_mem_nil⟩
  | cons act rest ih =>
    have hdeed := pool.deed_enact act.1 act.2
    obtain ⟨hbadges, hevents⟩ := hdeed.of_closed hclosed
    obtain ⟨hrest, hothers⟩ := ih (hdeed.marked.isShutdown hclosed)
    refine ⟨hrest.trans hbadges, fun event hevent => ?_⟩
    rcases List.mem_append.1 hevent with hevent | hevent
    · exact hevents event hevent
    · exact hothers event hevent

/-- Whoever takes its turn leaves, wherever it is. -/
theorem absent_of_notice (hclosed : pool.isShutdown = true) (id : Nat) :
    ∀ badge ∈ (pool.notice id).1.badges, badge.1 ≠ id := by
  intro badge hbadge
  cases hfound : pool.task? id with
  | none =>
    have hstays : pool.quits id = false := by simp [quits, hfound]
    simp only [notice, hstays, Bool.false_eq_true, if_false] at hbadge
    obtain ⟨task, htask, rfl⟩ := List.mem_map.1 hbadge
    rw [task?, List.find?_eq_none] at hfound
    intro hid
    exact hfound task htask (decide_eq_true hid)
  | some task =>
    have hquits : pool.quits id = true := by
      cases hphase : task.phase <;> simp [quits, isCancelled, hfound, hphase, hclosed]
    simp only [notice, hquits, if_true] at hbadge
    have hleft : badge ∈ (pool.drop id).badges := hbadge
    rw [badges_drop] at hleft
    exact of_decide_eq_true (List.mem_filter.1 hleft).2

/-- A task that takes its turn in a pool that is shut down is gone. -/
theorem absent_of_turn (hclosed : pool.isShutdown = true) (now : Nat) {act : Act σ}
    (hturn : act.isTurnOf id = true) : ∀ badge ∈ (pool.enact now act).1.badges, badge.1 ≠ id := by
  cases act with
  | notice other =>
    obtain rfl := of_decide_eq_true hturn
    exact absent_of_notice hclosed other
  | resume other outcome =>
    obtain rfl := of_decide_eq_true hturn
    simpa only [enact, resume, hclosed, if_true] using absent_of_notice hclosed other
  | _ => exact absurd hturn Bool.false_ne_true

/-- Once all have had a turn, nobody is left. -/
theorem tasks_after_turns (hclosed : pool.isShutdown = true) {acts : List (Nat × Act σ)}
    (hturns : ∀ task ∈ pool.tasks, ∃ entry ∈ acts, entry.2.isTurnOf task.id = true) :
    (pool.after acts).tasks = [] := by
  rw [← List.map_eq_nil_iff (f := Task.badge), List.eq_nil_iff_forall_not_mem]
  intro badge hbadge
  obtain ⟨task, htask, rfl⟩ :=
    List.mem_map.1 ((after_of_closed hclosed acts).1.subset hbadge)
  obtain ⟨entry, hentry, hturn⟩ := hturns task htask
  obtain ⟨front, back, rfl⟩ := List.append_of_mem hentry
  have hfront := isShutdown_after hclosed front
  have hthen : ((pool.after front).enact entry.1 entry.2).1.isShutdown = true :=
    (Pool.deed_enact _ _ _).marked.isShutdown hfront
  rw [after_append] at hbadge
  exact absent_of_turn hfront entry.1 hturn _ ((after_of_closed hthen back).1.subset hbadge) rfl

/-- A pool that is shut down takes no new task. -/
theorem schedule?_of_closed (hclosed : pool.isShutdown = true) (now : Nat)
    (initial delay : Millis) (job : σ) : pool.schedule? now initial delay job = none :=
  if_pos hclosed

end Closed

/-! ## Cancelling and shutting down at once -/

/-- Whoever waits for a worker is there. -/
def Lined (pool : Pool σ) : Prop :=
  ∀ id ∈ pool.queue, ∃ badge ∈ pool.badges, badge.1 = id

section Lines

variable {pool next : Pool σ} {events : List Event} {id : Nat}

/-- One that leaves the line may leave the pool. -/
theorem Lined.drop (hlined : pool.Lined) (queue : List Nat)
    (hqueue : ∀ other ∈ queue, other ∈ pool.queue ∧ other ≠ id) :
    { pool.drop id with queue }.Lined := by
  intro other hother
  obtain ⟨hmem, hne⟩ := hqueue other hother
  obtain ⟨badge, hbadge, rfl⟩ := hlined other hmem
  refine ⟨badge, ?_, rfl⟩
  change badge ∈ (pool.drop id).badges
  rw [badges_drop]
  exact List.mem_filter.2 ⟨hbadge, decide_eq_true hne⟩

theorem Lined.of_badges (hlined : pool.Lined) (hbadges : next.badges = pool.badges)
    (hqueue : next.queue ⊆ pool.queue) : next.Lined := by
  intro other hother
  rw [hbadges]
  exact hlined other (hqueue hother)

theorem Lined.leave (hlined : pool.Lined) (horderly : pool.Orderly) (id : Nat) :
    (pool.leave id).Lined :=
  hlined.drop _ fun _ hother => (horderly.queue.mem_erase_iff.1 hother).symm

theorem Lined.start? (hlined : pool.Lined) (horderly : pool.Orderly) {started : Option (Task σ)}
    (h : pool.start? = some (next, started)) : next.Lined := by
  obtain ⟨id, rest, hqueue, -, ⟨-, -, rfl⟩ | ⟨task, -, -, -, -, rfl⟩⟩ := start?_cases h
  · have hnodup := horderly.queue
    rw [hqueue, List.nodup_cons] at hnodup
    refine hlined.drop rest fun other hother => ⟨?_, ?_⟩
    · exact hqueue ▸ List.mem_cons_of_mem id hother
    · rintro rfl
      exact hnodup.1 hother
  · exact hlined.of_badges (badges_setPhase _ _ _) (hqueue ▸ List.subset_cons_self _ _)

/-- No act leaves anybody in the queue who is not there. -/
theorem Lined.deed (hlined : pool.Lined) (horderly : pool.Orderly) (h : pool.Deed next events) :
    next.Lined := by
  cases h with
  | none => exact hlined
  | schedules now initial delay job next id hnext =>
    obtain ⟨-, -, rfl⟩ := schedule?_cases hnext
    intro other hother
    obtain ⟨badge, hbadge, rfl⟩ := hlined other hother
    exact ⟨badge, List.map_subset _ (List.subset_append_left _ _) hbadge, rfl⟩
  | marks id =>
    exact hlined.of_badges (by rw [Pool.badges, tasks_mark]; rfl) (pool.queue_mark id ▸ .refl _)
  | wakes now id =>
    rcases pool.wake_cases now id with hwake | ⟨⟨task, htask, rfl, -⟩, hwake⟩
    · rw [hwake]
      exact hlined
    · rw [hwake]
      intro other hother
      have hbadges := pool.badges_setPhase task.id .queued
      change ∃ badge ∈ (pool.setPhase task.id .queued).badges, badge.1 = other
      rw [hbadges]
      rcases List.mem_append.1 hother with hold | hnew
      · exact hlined other hold
      · exact ⟨task.badge, List.mem_map_of_mem htask, (List.mem_singleton.1 hnew).symm⟩
  | leaves id => exact hlined.leave horderly id
  | drops next hnext => exact hlined.start? horderly hnext
  | passes next id rest hnext => exact hlined.start? horderly hnext
  | starts next task hnext => exact hlined.start? horderly hnext
  | pauses id => exact hlined
  | ends now id =>
    rcases pool.finish_cases now id with
      ⟨hfinish, -⟩ | ⟨task, htask, rfl, hrunning, ⟨-, hfinish⟩ | ⟨-, hfinish⟩⟩
    · rw [hfinish]
      exact hlined
    · rw [hfinish]
      refine hlined.drop pool.queue fun other hother => ⟨hother, ?_⟩
      rintro rfl
      exact absurd (hrunning.symm.trans (horderly.queued task htask hother)) Phase.noConfusion
    · rw [hfinish]
      exact hlined.of_badges (badges_setPhase _ _ _) (.refl _)
  | isCut id => exact hlined.leave horderly id
  | closes => exact hlined

theorem Lined.after (hlined : pool.Lined) (horderly : pool.Orderly) (acts : List (Nat × Act σ)) :
    (pool.after acts).Lined := by
  refine (after_of_enact (P := fun pool => pool.Orderly ∧ pool.Lined) ?_ ⟨horderly, hlined⟩ acts).2
  exact fun pool now act h =>
    ⟨h.1.deed (pool.deed_enact now act), h.2.deed h.1 (pool.deed_enact now act)⟩

/-- A task that sleeps and is cancelled ends at its next turn. -/
theorem Orderly.notice_mark (horderly : pool.Orderly) {task : Task σ} {wakeUp : Nat}
    (hfound : pool.task? id = some task) (hasleep : task.phase = .sleeping wakeUp) :
    (pool.mark id).notice id = ((pool.mark id).drop id, []) := by
  have hquits : (pool.mark id).quits id = true := by
    simp [quits, hfound, hasleep, isCancelled_mark]
  have hidle : (pool.mark id).isRunning id = false := by simp [isRunning, hfound, hasleep]
  obtain ⟨htask, rfl⟩ := mem_tasks_of_task? hfound
  have hnowhere : task.id ∉ (pool.mark task.id).queue := by
    rw [queue_mark]
    intro hqueue
    exact absurd (hasleep.symm.trans (horderly.queued task htask hqueue)) Phase.noConfusion
  simp only [notice, hquits, hidle, if_true, Pool.leave, List.erase_of_not_mem hnowhere,
    Bool.false_eq_true, if_false]
  rfl

/-- To cancel at once is to cancel and to let the task take its turn. -/
theorem Orderly.cancel_eq (horderly : pool.Orderly) (hopen : pool.isShutdown = false) (id : Nat) :
    pool.cancel id = ((pool.mark id).notice id).1 := by
  rcases pool.cancel_cases id with ⟨hcancel, hawake⟩ | ⟨task, wakeUp, hfound, hasleep, hcancel⟩
  · have hquits : (pool.mark id).quits id = false := by
      cases hfound : pool.task? id with
      | none => simp [quits, hfound]
      | some task =>
        cases hphase : task.phase with
        | sleeping wakeUp => exact absurd hphase (hawake task wakeUp hfound)
        | queued | running => simp [quits, hfound, hphase, hopen]
    simp [hcancel, notice, hquits]
  · rw [hcancel, horderly.notice_mark hfound hasleep]

/-- To shut down at once is to begin with it and to let all tasks take their turns. -/
theorem Orderly.shutdown_eq (horderly : pool.Orderly) (hlined : pool.Lined) (now : Nat) :
    pool.shutdown = pool.close.after (pool.tasks.map fun task => (now, .notice task.id)) := by
  have hshutdown : ∀ (pool : Pool σ) (tasks : List (Task σ)),
      (pool.after (tasks.map fun task => (now, .notice task.id))).shutdown = pool.shutdown := by
    intro pool tasks
    induction tasks generalizing pool with
    | nil => rfl
    | cons task rest ih =>
      refine (ih _).trans ?_
      rw [enact]
      cases hquits : pool.quits task.id with
      | true =>
        rw [notice_of_quits hquits]
        rfl
      | false => rw [notice_of_not_quits hquits]
  have hsame := hshutdown pool.close pool.tasks
  have hline : pool.close.Lined := hlined
  have hlast := hline.after horderly.close (pool.tasks.map fun task => (now, .notice task.id))
  have htasks : (pool.close.after (pool.tasks.map fun task => (now, .notice task.id))).tasks = [] :=
    tasks_after_turns rfl fun task htask =>
      ⟨_, List.mem_map_of_mem htask, decide_eq_true rfl⟩
  have hclosed := isShutdown_after (show pool.close.isShutdown = true from rfl)
    (pool.tasks.map fun task => (now, .notice task.id))
  generalize pool.close.after (pool.tasks.map fun task => (now, .notice task.id)) = last at *
  have hqueue : last.queue = [] := by
    rw [List.eq_nil_iff_forall_not_mem]
    intro id hid
    obtain ⟨badge, hbadge, -⟩ := hlast id hid
    rw [badges, htasks] at hbadge
    exact List.not_mem_nil hbadge
  calc
    pool.shutdown = pool.close.shutdown := rfl
    _ = last.shutdown := hsame.symm
    _ = last := by rw [Pool.shutdown, ← htasks, ← hqueue, ← hclosed]

end Lines

def Reachable (pool : Pool σ) : Prop :=
  ∃ name workers acts, pool = (ofWorkers name workers).after acts

theorem Reachable.orderly {pool : Pool σ} (h : pool.Reachable) : pool.Orderly := by
  obtain ⟨name, workers, acts, rfl⟩ := h
  exact (orderly_ofWorkers name workers).after acts

/-- Whoever queues in a pool that came about is there. -/
theorem Reachable.lined {pool : Pool σ} (h : pool.Reachable) : pool.Lined := by
  obtain ⟨name, workers, acts, rfl⟩ := h
  have hempty : (ofWorkers name workers : Pool σ).Lined :=
    fun id hid => absurd hid List.not_mem_nil
  exact hempty.after (orderly_ofWorkers name workers) acts

/-- Cancelling and shutting down, from any state of a pool and whatever comes later.

To cancel a task through its handle only marks it, wherever it is; the pool that cancels at once
lets the task take its turn right away.  From then on no run of it starts.  A run in progress gets
on to its end, which nothing but shutting down prevents, and is the last; of a task that was not
running nothing more is told, and the others go on as if it had never been there.  What the task
still does leaves the others as they are.

Once shutting down has begun, no run starts or gets on, in progress or not: runs are only cut off
and workers given back.  Nothing can be scheduled any more, so that nobody is new, and as soon as
all have had a turn, no task is left; the pool that shuts down at once is the one in which they all
have it right away. -/
theorem no_runs_after_leaving {pool : Pool σ} (h : pool.Reachable) (now : Nat) :
    (∀ id < pool.next,
      pool.enact now (.cancel id) = (pool.mark id, []) ∧
      (pool.mark id).without id = pool.without id ∧
      (pool.isShutdown = false → pool.cancel id = ((pool.mark id).notice id).1) ∧
      ∀ later : List (Nat × Act σ),
        .started id ∉ (pool.mark id).history later ∧
        (pool.isRunning id = true →
          ((pool.mark id).after later).LastRun id (runsOf id ((pool.mark id).history later)) ∧
          (((pool.mark id).after later).isRunning id = true →
            ((pool.mark id).after later).isShutdown = false → ∀ now outcome,
              (((pool.mark id).after later).enact now (.resume id (some outcome))).2 =
                [.resumed id, .ended id outcome, .released id])) ∧
        (pool.isRunning id = false →
          runsOf id ((pool.mark id).history later) = [] ∧
          ∃ others, others.Sublist later ∧
            ((pool.mark id).after later).without id = (pool.without id).after others ∧
            (((pool.mark id).history later).filter fun event => event.task ≠ id) =
              (pool.without id).history others) ∧
        ∀ now act, act.task? = some id →
          (((pool.mark id).after later).enact now act).1.without id =
            ((pool.mark id).after later).without id) ∧
    (∀ later : List (Nat × Act σ),
      (∀ event ∈ pool.close.history later, ∃ id, event = .cut id ∨ event = .released id) ∧
      (∀ now initial delay job,
        (pool.close.after later).schedule? now initial delay job = none ∧
        (pool.close.after later).enact now (.schedule initial delay job) =
          (pool.close.after later, [])) ∧
      (pool.close.after later).badges.Sublist pool.badges ∧
      ((∀ task ∈ pool.tasks, ∃ entry ∈ later, entry.2.isTurnOf task.id = true) →
        (pool.close.after later).activeTasks = 0)) ∧
    pool.shutdown = pool.close.after (pool.tasks.map fun task => (now, .notice task.id)) ∧
    pool.shutdown.activeTasks = 0 := by
  have horderly := h.orderly
  refine ⟨fun id hid => ?_, fun later => ⟨(after_of_closed rfl later).2, ?_,
    (after_of_closed rfl later).1, ?_⟩,
    horderly.shutdown_eq h.lined now, rfl⟩
  · have hmarked := horderly.mark hid
    have hending : (pool.mark id).Ending id :=
      ⟨(pool.next_mark id).symm ▸ hid, by simp [isCancelled_mark]⟩
    have hrunning : (pool.mark id).isRunning id = pool.isRunning id := by
      rw [isRunning, isRunning, task?, task?, tasks_mark]
    have hself := pool.without_mark_self id
    refine ⟨by simp [enact, hid], hself, fun hopen => horderly.cancel_eq hopen id, fun later => ?_⟩
    refine ⟨hending.not_started hmarked later, fun hruns => ?_, fun hidle => ?_,
      fun now act hact => ?_⟩
    · refine ⟨hending.running_after hmarked (hrunning.trans hruns) later, ?_⟩
      intro hstill hopen now outcome
      simp only [enact, resume, hopen, hstill, if_true, Bool.false_eq_true, if_false]
    · have hquiet := hrunning.trans hidle
      refine ⟨(hending.idle_after hmarked hquiet later).2, ?_⟩
      rw [← hself]
      exact hending.exists_without hmarked hquiet later
    · exact (hmarked.after later).without_enact_self now hact
  · intro now initial delay job
    have hclosed : (pool.close.after later).isShutdown = true := isShutdown_after rfl later
    have hrefused := schedule?_of_closed hclosed now initial delay job
    exact ⟨hrefused, by simp [enact, hrefused]⟩
  · intro hturns
    have hnone : (pool.close.after later).tasks = [] := tasks_after_turns rfl hturns
    rw [activeTasks, hnone, List.length_nil]

/-- One task has the only worker, another one waits for it, and the third sleeps. -/
def occupied : List (Nat × Act String) :=
  [(0, .schedule 0 10 "running"), (0, .schedule 0 10 "waiting"), (0, .schedule 5 10 "sleeping"),
    (0, .wake 0), (0, .wake 1), (0, .start)]

theorem no_runs_after_leaving_occupied :
    ((ofWorkers "narrow" 1).after occupied).isRunning 0 = true ∧
      ((ofWorkers "narrow" 1).after occupied).isRunning 1 = false ∧
      (((ofWorkers "narrow" 1).after occupied).mark 0).history
          [(1, .resume 0 none), (2, .resume 0 (some .returns)), (2, .start), (9, .wake 0)] =
        [.resumed 0, .resumed 0, .ended 0 .returns, .released 0, .took 1, .started 1] ∧
      .started 1 ∉ (((ofWorkers "narrow" 1).after occupied).mark 1).history
        [(2, .resume 0 (some .breaksDown)), (2, .start), (7, .wake 2), (8, .start)] ∧
      (((ofWorkers "narrow" 1).after occupied).close.after
        [(1, .resume 0 none), (1, .notice 1), (1, .notice 2)]).activeTasks = 0 := by
  have hreachable : ((ofWorkers "narrow" 1).after occupied).Reachable :=
    ⟨"narrow", 1, occupied, rfl⟩
  obtain ⟨hcancel, hclose, -⟩ := no_runs_after_leaving hreachable 1
  obtain ⟨-, -, -, hlater⟩ := hcancel 1 (by decide)
  obtain ⟨hnotStarted, -⟩ := hlater
    [(2, .resume 0 (some .breaksDown)), (2, .start), (7, .wake 2), (8, .start)]
  obtain ⟨-, -, -, hturns⟩ := hclose [(1, .resume 0 none), (1, .notice 1), (1, .notice 2)]
  exact ⟨by decide, by decide, by decide, hnotStarted, hturns (by decide)⟩

end Pool

end RegistrySession
