import RegistrySession.Proofs.Pool.Pacing

/-!
# Runs on time

A task whose delay is over starts its run at that very moment, if a worker is free then and the task
is the first to want it.  A delay counts as the whole milliseconds that a timer waits for it, and one
that is longer than any timer can take as the longest one.
-/

namespace RegistrySession

universe u

variable {σ : Type u}

namespace Pool

variable {pool next : Pool σ} {id moment now : Nat}

/-- The sleepers are the tasks that sleep. -/
theorem mem_sleepers {wakeUp : Nat} :
    (id, wakeUp) ∈ pool.sleepers ↔
      ∃ task ∈ pool.tasks, task.id = id ∧ task.phase = .sleeping wakeUp := by
  simp only [sleepers, List.mem_filterMap]
  refine exists_congr fun task => and_congr_right fun _ => ?_
  cases hphase : task.phase <;> simp

/-- A worker is free, and the task is the next to have it: it sleeps up to a moment and nobody is
queued, or it is the first of the queue. -/
structure Ready (pool : Pool σ) (id moment : Nat) : Prop where
  free : pool.crew.length < pool.workers
  first : ∃ task, pool.task? id = some task ∧
    (task.phase = .sleeping moment ∧ pool.queue = [] ∨
      task.phase = .queued ∧ ∃ rest, pool.queue = id :: rest)

/-- Nobody but the task has a delay that is over by some moment. -/
def isAlone (pool : Pool σ) (id moment : Nat) : Bool :=
  pool.sleepers.all fun sleeper => sleeper.1 = id || moment < sleeper.2

def staysAlone (pool : Pool σ) (id moment : Nat) : List (Nat × Act σ) → Bool
  | [] => true
  | (now, act) :: rest =>
    pool.isAlone id moment && (pool.enact now act).1.staysAlone id moment rest

namespace Ready

theorem keep (hready : pool.Ready id moment) (hcrew : next.crew.length ≤ pool.crew.length)
    (hworkers : next.workers = pool.workers)
    (htask : ∀ task, pool.task? id = some task → next.task? id = some task)
    (hqueue : next.queue = pool.queue ∨ ∃ other, other ≠ id ∧ next.queue = pool.queue.erase other) :
    next.Ready id moment := by
  obtain ⟨hfree, task, hfound, hfirst⟩ := hready
  refine ⟨?_, task, htask task hfound, ?_⟩
  · rw [hworkers]
    exact Nat.lt_of_le_of_lt hcrew hfree
  · rcases hqueue with hqueue | ⟨other, hother, hqueue⟩
    · rwa [hqueue]
    · rw [hqueue]
      refine hfirst.imp (fun ⟨hphase, hempty⟩ => ⟨hphase, ?_⟩) fun ⟨hphase, rest, hhead⟩ =>
        ⟨hphase, rest.erase other, ?_⟩
      · rw [hempty]
        rfl
      · rw [hhead, List.erase_cons_tail]
        simpa using Ne.symm hother

theorem wake (hready : pool.Ready id moment) (horderly : pool.Orderly)
    (halone : pool.isAlone id moment = true) (other : Nat) :
    (pool.wake moment other).Ready id moment := by
  rcases pool.wake_cases moment other with
    hwake | ⟨⟨found, hfound, rfl, wakeUp, hphase, hdue⟩, hwake⟩
  · rwa [hwake]
  · -- Whoever is woken must be the task itself, since nobody else is due.
    have hself : found.id = id := by
      by_contra hother
      have hlater := List.all_eq_true.1 halone _ (mem_sleepers.2 ⟨found, hfound, rfl, hphase⟩)
      simp only [hother, decide_false, Bool.false_or, decide_eq_true_eq] at hlater
      exact absurd hdue (Nat.not_le_of_lt hlater)
    subst hself
    obtain ⟨hfree, task, htask, hfirst⟩ := hready
    obtain rfl := horderly.eq_of_task? htask hfound rfl
    have hcrew := horderly.crew_wake moment found.id
    rw [hwake] at hcrew ⊢
    rcases hfirst with ⟨-, hempty⟩ | ⟨hqueued, -⟩
    · refine ⟨by rwa [hcrew], _, task?_setPhase htask found.id .queued, .inr ⟨?_, [], ?_⟩⟩
      · rw [if_pos rfl]
      · simp only [hempty, List.nil_append]
    · exact Phase.noConfusion (hphase.symm.trans hqueued)

/-- A task that is ready starts as soon as a worker is sent to the queue. -/
theorem employ (hready : pool.Ready id moment)
    (hgoesOn : pool.isCancelled id = false) :
    .started id ∈ pool.employ.2 ∨ pool.employ.1.Ready id moment := by
  obtain ⟨hfree, task, htask, hfirst⟩ := hready
  rcases hfirst with ⟨hphase, hempty⟩ | ⟨hphase, rest, hhead⟩
  · have hnone : pool.start? = none := by simp only [start?, hempty]
    simp only [Pool.employ, hnone]
    exact .inr ⟨hfree, task, htask, .inl ⟨hphase, hempty⟩⟩
  · left
    obtain ⟨hmem, rfl⟩ := mem_tasks_of_task? htask
    have hsome : pool.start?.isSome = true := by
      rw [isSome_start?_iff, freeWorkers_eq]
      exact ⟨by simp [hhead], Nat.sub_pos_of_lt hfree⟩
    obtain ⟨⟨next, started⟩, hstart⟩ := Option.isSome_iff_exists.1 hsome
    obtain ⟨head, others, hqueue, -, ⟨-, hcancelled, -⟩ | ⟨found, -, rfl, hid, -⟩⟩ :=
      start?_cases hstart
    · obtain rfl := (List.cons.inj (hqueue.symm.trans hhead)).1
      exact absurd (hgoesOn.symm.trans (hcancelled task hmem rfl)) Bool.false_ne_true
    · obtain rfl := (List.cons.inj (hqueue.symm.trans hhead)).1
      simp only [Pool.employ, hstart, hid]
      exact List.mem_cons_of_mem _ List.mem_cons_self

theorem notice (hready : pool.Ready id moment) (hgoesOn : pool.isCancelled id = false)
    (other : Nat) : (pool.notice other).1.Ready id moment := by
  cases hquits : pool.quits other with
  | false => rwa [notice_of_not_quits hquits]
  | true =>
    rw [notice_of_quits hquits]
    have hother : other ≠ id := by
      rintro rfl
      obtain ⟨-, -, hcancelled⟩ := exists_of_quits hquits
      exact Bool.false_ne_true (hgoesOn.symm.trans hcancelled)
    refine hready.keep ?_ rfl (fun task htask => (task?_drop_of_ne hother).trans htask)
      (.inr ⟨other, hother, rfl⟩)
    refine Nat.le_trans (Nat.le_of_eq (congrArg List.length (crew_drop pool other))) ?_
    exact List.length_filter_le _ _

theorem finish (hready : pool.Ready id moment) (horderly : pool.Orderly) {other : Nat}
    (hrunning : pool.isRunning other = true) : (pool.finish moment other).Ready id moment := by
  have hcrew : (pool.finish moment other).crew.length ≤ pool.crew.length := by
    rw [horderly.crew_finish]
    exact List.length_filter_le _ _
  have hother : other ≠ id := by
    rintro rfl
    obtain ⟨running, hfound, hphase⟩ := isRunning_iff_exists.1 hrunning
    obtain ⟨-, task, htask, hfirst⟩ := hready
    obtain rfl := Option.some.inj (hfound.symm.trans htask)
    rcases hfirst with ⟨hsleeping, -⟩ | ⟨hqueued, -⟩
    · exact Phase.noConfusion (hphase.symm.trans hsleeping)
    · exact Phase.noConfusion (hphase.symm.trans hqueued)
  rcases pool.finish_cases moment other with
    ⟨hfinish, -⟩ | ⟨found, -, -, -, ⟨-, hfinish⟩ | ⟨-, hfinish⟩⟩ <;> rw [hfinish] at hcrew ⊢
  · exact hready
  · exact hready.keep hcrew rfl (fun task htask => (task?_drop_of_ne hother).trans htask) (.inl rfl)
  · refine hready.keep hcrew rfl (fun task htask => ?_) (.inl rfl)
    rw [task?_setPhase htask, if_neg]
    obtain ⟨-, rfl⟩ := mem_tasks_of_task? htask
    exact Ne.symm hother

theorem resume (hready : pool.Ready id moment) (horderly : pool.Orderly)
    (hgoesOn : pool.isCancelled id = false) (other : Nat) (outcome : Option Outcome) :
    (pool.resume moment other outcome).1.Ready id moment := by
  have hopen := isShutdown_of_not_cancelled hgoesOn
  cases hrunning : pool.isRunning other with
  | false => rwa [resume_of_not_isRunning hopen hrunning]
  | true =>
    cases outcome with
    | none => rwa [resume_none hopen hrunning]
    | some outcome =>
      rw [resume_some hopen hrunning]
      exact hready.finish horderly hrunning

/-- While nobody else is due, a task that is ready stays so or starts. -/
theorem enact (hready : pool.Ready id moment) (horderly : pool.Orderly)
    (halone : pool.isAlone id moment = true) {act : Act σ}
    (hafter : (pool.enact moment act).1.isCancelled id = false) :
    .started id ∈ (pool.enact moment act).2 ∨ (pool.enact moment act).1.Ready id moment := by
  have hid : id < pool.next := by
    obtain ⟨-, task, htask, -⟩ := hready
    exact horderly.lt_next htask
  have hgoesOn : pool.isCancelled id = false := goesOn_of_enact hid hafter
  cases act with
  | schedule initial delay job =>
    right
    cases hnext : pool.schedule? moment initial delay job with
    | none =>
      simp only [Pool.enact, hnext]
      exact hready
    | some result =>
      obtain ⟨next, number⟩ := result
      have hcrew := crew_schedule? hnext
      obtain ⟨-, -, hresult⟩ := schedule?_cases hnext
      simp only [Pool.enact, hnext, Option.map_some, Option.getD_some]
      refine hready.keep (Nat.le_of_eq (congrArg List.length hcrew)) (by rw [hresult])
        (fun task htask => ?_) (.inl (by rw [hresult]))
      rw [hresult, task?, List.find?_append, ← task?, htask]
      rfl
  | cancel other =>
    right
    rcases pool.enact_cancel_cases moment other with ⟨-, hcancel⟩ | hcancel
    · rw [hcancel]
      refine hready.keep (Nat.le_of_eq (congrArg List.length (pool.crew_mark other)))
        (pool.workers_mark other) (fun task htask => ?_) (.inl (pool.queue_mark other))
      rw [task?, tasks_mark]
      exact htask
    · rwa [hcancel]
  | wake other => exact .inr (hready.wake horderly halone other)
  | notice other => exact .inr (hready.notice hgoesOn other)
  | start => exact hready.employ hgoesOn
  | resume other outcome => exact .inr (hready.resume horderly hgoesOn other outcome)
  | close => exact absurd hafter (by simp [Pool.enact, Pool.close, isCancelled])

theorem after (hready : pool.Ready id moment) (horderly : pool.Orderly)
    {acts : List (Nat × Act σ)} (htime : ∀ stamp ∈ acts, stamp.1 = moment)
    (halone : pool.staysAlone id moment acts = true)
    (hgoesOn : (pool.after acts).isCancelled id = false) :
    (moment, .started id) ∈ pool.chronicle acts ∨ (pool.after acts).Ready id moment := by
  induction acts generalizing pool with
  | nil => exact .inr hready
  | cons act rest ih =>
    obtain ⟨now, act⟩ := act
    obtain ⟨rfl, htime⟩ := List.forall_mem_cons.1 htime
    have hid : id < (pool.enact now act).1.next := by
      obtain ⟨-, task, htask, -⟩ := hready
      exact lt_next_enact (horderly.lt_next htask) now act
    rw [staysAlone, Bool.and_eq_true] at halone
    rcases hready.enact horderly halone.1 (goesOn_of_after hid hgoesOn) with hstarts | hnext
    · left
      exact List.mem_append_left _ (List.mem_map_of_mem hstarts)
    · have horderlyNext := horderly.deed (pool.deed_enact now act)
      exact (ih hnext horderlyNext htime halone.2 hgoesOn).imp_left (List.mem_append_right _)

/-- Time does not pass while a task is ready that is due. -/
theorem not_isSettled (hready : pool.Ready id moment) {time : Nat} (htime : moment < time) :
    pool.isSettled time = false := by
  obtain ⟨hfree, task, htask, hfirst⟩ := hready
  obtain ⟨hmem, rfl⟩ := mem_tasks_of_task? htask
  rw [isSettled, Bool.and_eq_false_iff]
  rcases hfirst with ⟨hphase, -⟩ | ⟨-, rest, hhead⟩
  · right
    have hsleeps : (task.id, moment) ∈ pool.sleepers := mem_sleepers.2 ⟨task, hmem, rfl, hphase⟩
    exact List.all_eq_false.2 ⟨_, hsleeps, by simpa using htime⟩
  · left
    have hsome : pool.start?.isSome = true := by
      rw [isSome_start?_iff, freeWorkers_eq]
      exact ⟨by simp [hhead], Nat.sub_pos_of_lt hfree⟩
    rw [← Option.not_isSome, hsome]
    rfl

end Ready

/-- Nothing keeps a task from starting at the moment at which it is due, in which some acts are
done: a worker is free, nobody is queued before it, and nobody else becomes due. -/
structure Unhindered (pool : Pool σ) (id moment : Nat) (acts : List (Nat × Act σ)) : Prop where
  free : 0 < pool.freeWorkers
  first : ∀ other, pool.queue.head? = some other → other = id
  time : ∀ stamp ∈ acts, stamp.1 = moment
  alone : pool.staysAlone id moment acts = true

/-- Where nobody else is due, nobody stands before a task that is. -/
theorem Stands.ready {delay : Millis} {clock : Nat}
    (hstands : pool.Stands id delay clock (.due moment)) (horderly : pool.Orderly)
    {acts : List (Nat × Act σ)} (hunhindered : pool.Unhindered id moment acts) :
    pool.Ready id moment := by
  obtain ⟨task, htask, -, hphase⟩ := hstands
  obtain ⟨hmem, rfl⟩ := mem_tasks_of_task? htask
  have hfree := hunhindered.free
  rw [freeWorkers_eq] at hfree
  refine ⟨Nat.lt_of_sub_pos hfree, task, htask, ?_⟩
  cases hqueue : pool.queue with
  | nil =>
    refine .inl ⟨hphase.resolve_right fun hphase => ?_, rfl⟩
    have hwaits := hphase.2.1
    rw [hqueue] at hwaits
    exact List.not_mem_nil hwaits
  | cons other rest =>
    obtain rfl : other = task.id := hunhindered.first other (by rw [hqueue]; rfl)
    have hqueued := horderly.queued task hmem (by rw [hqueue]; exact List.mem_cons_self)
    exact .inr ⟨hqueued, rest, rfl⟩

theorem clockAfter_le {clock : Nat} (hclock : clock ≤ moment) {acts : List (Nat × Act σ)}
    (htime : ∀ stamp ∈ acts, stamp.1 = moment) : clockAfter clock acts ≤ moment := by
  induction acts generalizing clock with
  | nil => exact hclock
  | cons act rest ih =>
    obtain ⟨hnow, htime⟩ := List.forall_mem_cons.1 htime
    exact ih (Nat.le_of_eq hnow) htime

/-- A new task is about its first run. -/
theorem stands_schedule (horderly : pool.Orderly) (hopen : pool.isShutdown = false) (now : Nat)
    (initial delay : Millis) (job : σ) :
    (pool.enact now (.schedule initial delay job)).1.Stands pool.next delay now
      (.due (initial.after now)) := by
  let task : Task σ := { id := pool.next, job, delay, phase := .sleeping (initial.after now) }
  have hbegun : (pool.enact now (.schedule initial delay job)).1 =
      { pool with tasks := pool.tasks ++ [task], next := pool.next + 1 } := by
    simp [enact, schedule?, hopen, task]
  have hmem : task ∈ (pool.enact now (.schedule initial delay job)).1.tasks := by
    rw [hbegun]
    exact List.mem_append_right _ List.mem_cons_self
  exact ⟨task, (horderly.deed (pool.deed_enact now _)).task?_eq_some hmem, rfl, .inl rfl⟩

/-- The runs of a task follow one another, each when its delay is over or later: the first one after
the initial delay, every other one after the delay from the end of the one before, whether that
ended well or not, and as long as the task is not cancelled it is there for the next one. A run
starts at the very moment at which it is due if nothing hinders it. The delays are any numbers of
nanoseconds, and a moment is a whole millisecond: a delay counts rounded up, and as the longest span
that is waited for if it is longer (`Millis.after_ofNanos_le_iff`). -/
theorem runs_spaced_and_punctual (name : String) (workers : Nat) (before later : List (Nat × Act σ))
    (now initial delay : Nat) (job : σ)
    (hprompt : (ofWorkers name workers).isPrompt 0
      (before ++ (now, .schedule (.ofNanos initial) (.ofNanos delay) job) :: later) = true)
    (hgoesOn : ((ofWorkers name workers).after
      (before ++ (now, .schedule (.ofNanos initial) (.ofNanos delay) job) :: later)).isCancelled
        ((ofWorkers name workers).after before).next = false) :
    let pool := (ofWorkers name workers).after before
    let id := pool.next
    let begun := (pool.enact now (.schedule (.ofNanos initial) (.ofNanos delay) job)).1
    let first := (Millis.ofNanos initial).after now
    let again := (Millis.ofNanos delay).after
    (∃ stance, Paced id first again (bounds id (begun.chronicle later)) stance ∧
      (begun.after later).Stands id (.ofNanos delay) (clockAfter now later) stance) ∧
    ∀ front acts rest due time act, later = front ++ (acts ++ (time, act) :: rest) →
      Paced id first again (bounds id (begun.chronicle front)) (.due due) →
      clockAfter now front ≤ due → due < time →
      (begun.after front).Unhindered id due acts →
      (due, .started id) ∈ (begun.after front).chronicle acts := by
  generalize Millis.ofNanos initial = initial at *
  generalize Millis.ofNanos delay = delay at *
  intro pool id begun first again
  have hend : (ofWorkers name workers).after
      (before ++ (now, .schedule initial delay job) :: later) = begun.after later :=
    after_append _ _ _
  rw [hend] at hgoesOn
  rw [isPrompt_append, Bool.and_eq_true] at hprompt
  have hlater : begun.isPrompt now later = true := (Bool.and_eq_true_iff.1 hprompt.2).2
  have horderly : pool.Orderly := (orderly_ofWorkers name workers).after before
  have hbegun : begun.Orderly := horderly.deed (pool.deed_enact now _)
  have hopen : pool.isShutdown = false := by
    by_contra hclosed
    have hshut : (begun.after later).isShutdown = true :=
      isShutdown_after (Bool.of_not_eq_false hclosed) ((now, .schedule initial delay job) :: later)
    exact Bool.false_ne_true ((isShutdown_of_not_cancelled hgoesOn).symm.trans hshut)
  have hstands : begun.Stands id delay now (.due (initial.after now)) :=
    stands_schedule horderly hopen now initial delay job
  constructor
  · obtain ⟨stance, hstance, hpaced⟩ := hstands.after hbegun .scheduled hlater hgoesOn
    exact ⟨stance, hpaced, hstance⟩
  · intro front acts rest due time act hsplit hdue hclock htime hunhindered
    subst hsplit
    rw [after_append] at hgoesOn
    rw [isPrompt_append, isPrompt_append, Bool.and_eq_true, Bool.and_eq_true] at hlater
    obtain ⟨hfront, -, hrest⟩ := hlater
    have hfrontOrderly : (begun.after front).Orderly := hbegun.after front
    have hid : ∀ acts : List (Nat × Act σ), id < (begun.after acts).next := by
      obtain ⟨task, htask, -⟩ := hstands
      exact after_of_enact (fun pool now act (h : id < pool.next) => lt_next_enact h now act)
        (hbegun.lt_next htask)
    obtain ⟨stance, hstance, hpaced⟩ :=
      hstands.after hbegun .scheduled hfront (goesOn_of_after (hid front) hgoesOn)
    obtain rfl : stance = .due due := hpaced.stance_eq.trans hdue.stance_eq.symm
    have hready := hstance.ready hfrontOrderly hunhindered
    rw [after_append] at hgoesOn
    have hacts : ((begun.after front).after acts).isCancelled id = false := by
      refine goesOn_of_after ?_ hgoesOn
      rw [← after_append]
      exact hid (front ++ acts)
    rcases hready.after hfrontOrderly hunhindered.time hunhindered.alone hacts with hstarts | hready
    · exact hstarts
    · -- The clock could not have gone on.
      have hbefore : clockAfter (clockAfter now front) acts < time :=
        Nat.lt_of_le_of_lt (clockAfter_le hclock hunhindered.time) htime
      rw [isPrompt, Bool.and_eq_true, Bool.and_eq_true, hready.not_isSettled htime] at hrest
      have hsame := hrest.1.2
      rw [Bool.or_false, decide_eq_true_eq] at hsame
      exact absurd hsame (Nat.ne_of_lt hbefore)

/-- Two tasks share one worker, and the first run of the second one is due in the middle of a
millisecond. -/
def sharing : Pool String :=
  (((ofWorkers "pool" 1).after [(0, .schedule 5 100 "other")]).enact 0
    (.schedule (.ofNanos 9500000) (.ofNanos 20000000) "task")).1

/-- The second task has to wait for its first run, which breaks down, and starts the next one on
time. -/
def shared : List (Nat × Act String) :=
  [(5, .wake 0), (5, .start), (10, .wake 1), (10, .start), (12, .resume 0 (some .returns)),
    (12, .start), (15, .resume 1 (some .breaksDown))] ++
  ([(35, .wake 1), (35, .start)] ++ [(40, .resume 1 none)])

theorem runs_spaced_and_punctual_shared :
    let first := (Millis.ofNanos 9500000).after 0
    let again := (Millis.ofNanos 20000000).after
    (first = 10 ∧ again 15 = 35) ∧
    bounds 1 (sharing.chronicle shared) =
      [(12, .started 1), (15, .ended 1 .breaksDown), (35, .started 1)] ∧
    (∃ stance, Paced 1 first again (bounds 1 (sharing.chronicle shared)) stance ∧
      (sharing.after shared).Stands 1 (.ofNanos 20000000) 40 stance) ∧
    (35, .started 1) ∈
      (sharing.after (shared.take 7)).chronicle [(35, .wake 1), (35, .start)] := by
  intro first again
  obtain ⟨hpaced, hpunctual⟩ := runs_spaced_and_punctual "pool" 1 [(0, .schedule 5 100 "other")]
    shared 0 9500000 20000000 "task" (by decide) (by decide)
  refine ⟨by decide, by decide, hpaced, ?_⟩
  have hdue : Paced 1 first again (bounds 1 (sharing.chronicle (shared.take 7)))
      (.due (again 15)) := by
    have htold : bounds 1 (sharing.chronicle (shared.take 7)) =
        ([] ++ [(12, .started 1)]) ++ [(15, .ended 1 .breaksDown)] := by decide
    rw [htold]
    exact .ended 15 .breaksDown (.started 12 .scheduled (by decide))
  exact hpunctual (shared.take 7) [(35, .wake 1), (35, .start)] [] 35 40 (.resume 1 none) rfl hdue
    (by decide) (by decide) ⟨by decide, by decide, by decide, by decide⟩

/-- The only task of a pool starts its first run at a moment. -/
def lonely (moment : Nat) : List (Nat × Act Unit) :=
  [(moment, .wake 0), (moment, .start)]

/-- No task waits for longer than a timer can, be its delay thirty years and a millisecond, and none
starts in the middle of a millisecond, be it on its own and due then. -/
theorem not_forall_runs_spaced :
    (¬ ∀ (initial delay : Nat) (later : List (Nat × Act Unit)),
      let acts := (0, .schedule (.ofNanos initial) (.ofNanos delay) ()) :: later
      (ofWorkers "" 1).isPrompt 0 acts = true →
      ((ofWorkers "" 1).after acts).isCancelled 0 = false →
      ∀ stamp, (bounds 0 ((ofWorkers "" 1).chronicle acts)).head? = some stamp →
        initial ≤ stamp.1 * 1000000) ∧
    ¬ ∀ (initial delay moment : Nat),
      let acts := (0, .schedule (.ofNanos initial) (.ofNanos delay) ()) :: lonely moment
      (ofWorkers "" 1).isPrompt 0 acts = true →
      ((ofWorkers "" 1).after acts).isCancelled 0 = false →
      ∀ stamp, (bounds 0 ((ofWorkers "" 1).chronicle acts)).head? = some stamp →
        stamp.1 * 1000000 = initial := by
  constructor
  · intro h
    exact absurd (h 946080000001000000 7000000 (lonely 946080000000) (by decide) (by decide)
      (946080000000, .started 0) (by decide)) (by decide)
  · intro h
    exact absurd (h 500000 500000 1 (by decide) (by decide) (1, .started 0) (by decide)) (by decide)

end Pool

end RegistrySession
