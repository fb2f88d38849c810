import RegistrySession.Proofs.Pool.Leaving

/-!
# The pace of a task

The runs of a task as they are told, each start and each end with its time.  As long as nobody
cancels the task, its runs come one after the other, the first one not before the initial delay is
over and every other one not before the delay has passed since the end of the one before, whichever
way that ended.
-/

namespace RegistrySession

universe u

variable {σ : Type u}

namespace Pool

def chronicle (pool : Pool σ) : List (Nat × Act σ) → List (Nat × Event)
  | [] => []
  | (now, act) :: rest =>
    (pool.enact now act).2.map (fun event => (now, event)) ++ (pool.enact now act).1.chronicle rest

def Event.bounds (id : Nat) : Event → Bool
  | .started other | .ended other _ => other = id
  | _ => false

def bounds (id : Nat) (stamps : List (Nat × Event)) : List (Nat × Event) :=
  stamps.filter fun stamp => stamp.2.bounds id

theorem bounds_append (id : Nat) (stamps more : List (Nat × Event)) :
    bounds id (stamps ++ more) = bounds id stamps ++ bounds id more :=
  List.filter_append ..

/-! ## Starts and ends by turns -/

/-- What a task that goes on is about: its next run, which is due at some moment, or the one in
progress. -/
inductive Stance
  | due (moment : Nat)
  | running

/-- The starts and ends of a task whose runs do not overlap and do not start before they are due,
where a run that ends makes the next one due. The newest is last. -/
inductive Paced (id : Nat) (first : Nat) (again : Nat → Nat) : List (Nat × Event) → Stance → Prop
  | scheduled : Paced id first again [] (.due first)
  | started {stamps : List (Nat × Event)} {moment : Nat} (now : Nat)
      (hstamps : Paced id first again stamps (.due moment)) (hdue : moment ≤ now) :
      Paced id first again (stamps ++ [(now, .started id)]) .running
  | ended {stamps : List (Nat × Event)} (now : Nat) (outcome : Outcome)
      (hstamps : Paced id first again stamps .running) :
      Paced id first again (stamps ++ [(now, .ended id outcome)]) (.due (again now))

/-- What a task is about, by the last thing that was told of its runs. -/
def stanceAfter (first : Nat) (again : Nat → Nat) (stamps : List (Nat × Event)) : Stance :=
  match stamps.getLast? with
  | some (_, .started _) => .running
  | some (now, .ended _ _) => .due (again now)
  | _ => .due first

theorem Paced.stance_eq {id first : Nat} {again : Nat → Nat} {stamps : List (Nat × Event)}
    {stance : Stance} (h : Paced id first again stamps stance) :
    stance = stanceAfter first again stamps := by
  cases h <;> simp [stanceAfter]

/-! ## Time -/

/-- Nothing is left to do before a moment: no free worker is waited for, and no task sleeps whose
delay is over by then. -/
def isSettled (pool : Pool σ) (moment : Nat) : Bool :=
  pool.start?.isNone && pool.sleepers.all fun sleeper => moment ≤ sleeper.2

/-- Time does not go back, and it passes only while nothing is left to do. -/
def isPrompt (pool : Pool σ) (clock : Nat) : List (Nat × Act σ) → Bool
  | [] => true
  | (now, act) :: rest =>
    clock ≤ now && (clock = now || pool.isSettled now) && (pool.enact now act).1.isPrompt now rest

def clockAfter (clock : Nat) : List (Nat × Act σ) → Nat
  | [] => clock
  | (now, _) :: rest => clockAfter now rest

theorem isPrompt_append (pool : Pool σ) (clock : Nat) (acts more : List (Nat × Act σ)) :
    pool.isPrompt clock (acts ++ more) =
      (pool.isPrompt clock acts && (pool.after acts).isPrompt (clockAfter clock acts) more) := by
  induction acts generalizing pool clock with
  | nil => rfl
  | cons act rest ih =>
    rw [List.cons_append, isPrompt, ih, isPrompt]
    simp only [Bool.and_assoc]
    rfl

variable {pool : Pool σ} {id now : Nat}

/-- A task that goes on, at some time: its next run is due at a moment, or has been due for a while
and waits for a worker, or else the task is in the middle of a run. -/
def Stands (pool : Pool σ) (id : Nat) (delay : Millis) (clock : Nat) (stance : Stance) : Prop :=
  ∃ task, pool.task? id = some task ∧ task.delay = delay ∧
    match stance with
    | .due moment => task.phase = .sleeping moment ∨
        task.phase = .queued ∧ id ∈ pool.queue ∧ moment ≤ clock
    | .running => task.phase = .running

/-! ## What an act does to one task -/

theorem task?_setPhase {task : Task σ} (htask : pool.task? id = some task) (other : Nat)
    (phase : Phase) :
    (pool.setPhase other phase).task? id =
      some (if task.id = other then { task with phase } else task) := by
  rw [task?, setPhase, List.find?_map]
  simp only [Function.comp_def, id_rephased]
  rw [← task?, htask, Option.map_some]

/-- Whoever leaves leaves the others behind. -/
theorem task?_drop_of_ne {other : Nat} (h : other ≠ id) :
    (pool.drop other).task? id = pool.task? id := by
  rw [task?, drop, List.find?_filter, task?]
  congr 1
  funext found
  by_cases hid : found.id = id
  · simp [hid, Ne.symm h]
  · simp [hid]

/-- What an act at some time can do to a task that is there and goes on. -/
inductive Fate (pool : Pool σ) (now id : Nat) (task : Task σ) :
    Pool σ → List Event → Prop
  | stays {next : Pool σ} {events : List Event} (htask : next.task? id = some task)
      (hqueue : id ∈ pool.queue → id ∈ next.queue)
      (hevents : events.filter (Event.bounds id) = []) : Fate pool now id task next events
  | wakes {next : Pool σ} (wakeUp : Nat) (hphase : task.phase = .sleeping wakeUp)
      (hdue : wakeUp ≤ now) (htask : next.task? id = some { task with phase := .queued })
      (hqueue : id ∈ next.queue) : Fate pool now id task next []
  | starts {next : Pool σ} (hwaits : task.phase = .queued)
      (htask : next.task? id = some { task with phase := .running }) :
      Fate pool now id task next [.took id, .started id]
  | ends {next : Pool σ} (outcome : Outcome) (hphase : task.phase = .running)
      (htask : next.task? id = some { task with phase := .sleeping (task.delay.after now) }) :
      Fate pool now id task next [.resumed id, .ended id outcome, .released id]

namespace Fate

variable {task : Task σ}

theorem unchanged (htask : pool.task? id = some task) {events : List Event}
    (hevents : events.filter (Event.bounds id) = []) : Fate pool now id task pool events :=
  .stays htask (fun hqueue => hqueue) hevents

/-- A task wakes once its delay is over, and not before. -/
theorem wake (horderly : pool.Orderly) (htask : pool.task? id = some task) (other : Nat) :
    Fate pool now id task (pool.wake now other) [] := by
  obtain ⟨-, rfl⟩ := mem_tasks_of_task? htask
  rcases pool.wake_cases now other with hwake | ⟨⟨found, hfound, rfl, wakeUp, hphase, hdue⟩, hwake⟩
  · rw [hwake]
    exact .unchanged htask rfl
  · rw [hwake]
    have hafter := task?_setPhase htask found.id .queued
    by_cases hsame : task.id = found.id
    · obtain rfl := horderly.eq_of_task? htask hfound hsame
      rw [if_pos rfl] at hafter
      exact .wakes wakeUp hphase hdue hafter (List.mem_append_right _ List.mem_cons_self)
    · rw [if_neg hsame] at hafter
      exact .stays hafter (fun hqueue => List.mem_append_left _ hqueue) rfl

theorem notice (htask : pool.task? id = some task) (hgoesOn : pool.isCancelled id = false)
    (other : Nat) : Fate pool now id task (pool.notice other).1 (pool.notice other).2 := by
  by_cases hid : other = id
  · subst hid
    have hstays : pool.quits other = false := by
      by_contra hquits
      obtain ⟨-, -, hcancelled⟩ := exists_of_quits (Bool.of_not_eq_false hquits)
      exact Bool.false_ne_true (hgoesOn.symm.trans hcancelled)
    rw [notice_of_not_quits hstays]
    exact .unchanged htask rfl
  · cases hquits : pool.quits other with
    | false =>
      rw [notice_of_not_quits hquits]
      exact .unchanged htask rfl
    | true =>
      rw [notice_of_quits hquits]
      refine .stays ((task?_drop_of_ne hid).trans htask) (fun hqueue => ?_) ?_
      · exact (List.mem_erase_of_ne (Ne.symm hid)).2 hqueue
      · cases pool.isRunning other <;> rfl

/-- A worker that is free starts the task if it is first in the queue. -/
theorem employ (horderly : pool.Orderly) (htask : pool.task? id = some task)
    (hgoesOn : pool.isCancelled id = false) :
    Fate pool now id task pool.employ.1 pool.employ.2 := by
  obtain ⟨hmem, rfl⟩ := mem_tasks_of_task? htask
  cases hstart : pool.start? with
  | none =>
    simp only [Pool.employ, hstart]
    exact .unchanged htask rfl
  | some result =>
    obtain ⟨next, started⟩ := result
    cases started with
    | none =>
      obtain ⟨other, rest, hqueue, -, ⟨-, hcancelled, rfl⟩ | ⟨_, -, hnobody, -⟩⟩ :=
        start?_cases hstart
      · have hother : other ≠ task.id := fun hsame => Bool.false_ne_true
          (hgoesOn.symm.trans (hsame ▸ hcancelled task hmem hsame.symm))
        have hopen := isShutdown_of_not_cancelled hgoesOn
        have hlater : task.id ∈ pool.queue → task.id ∈ rest := fun hwaits =>
          (List.mem_cons.1 (hqueue ▸ hwaits)).resolve_left (Ne.symm hother)
        simp only [Pool.employ, hstart, hopen, hqueue]
        exact .stays ((task?_drop_of_ne hother).trans htask) hlater rfl
      · exact absurd hnobody (Option.some_ne_none _).symm
    | some started =>
      obtain ⟨rest, hqueue, -, hfound, -, rfl⟩ := start?_some_cases hstart
      have hkept : { pool with queue := rest }.task? task.id = some task := htask
      have hafter := task?_setPhase hkept started.id .running
      simp only [Pool.employ, hstart]
      by_cases hsame : task.id = started.id
      · obtain rfl := horderly.eq_of_task? htask hfound hsame
        rw [if_pos rfl] at hafter
        have hwaits := horderly.queued started hmem (hqueue ▸ List.mem_cons_self)
        exact .starts hwaits hafter
      · rw [if_neg hsame] at hafter
        have hother : started.id ≠ task.id := fun h => hsame h.symm
        refine .stays hafter (fun hwaits => ?_) (by simp [Event.bounds, hother])
        exact (List.mem_cons.1 (hqueue ▸ hwaits)).resolve_left (Ne.symm hother)

/-- A task sleeps after its run, for its delay from then on. -/
theorem finish (horderly : pool.Orderly) (htask : pool.task? id = some task)
    (hgoesOn : pool.isCancelled id = false) {other : Nat} (hrunning : pool.isRunning other = true)
    (outcome : Outcome) :
    Fate pool now id task (pool.finish now other)
      [.resumed other, .ended other outcome, .released other] := by
  obtain ⟨-, rfl⟩ := mem_tasks_of_task? htask
  rcases pool.finish_cases now other with ⟨-, hidle⟩ | ⟨found, hfound, rfl, hphase, hfinish⟩
  · obtain ⟨found, hfound, hphase⟩ := isRunning_iff_exists.1 hrunning
    exact absurd hphase (hidle found hfound)
  have hafter := task?_setPhase htask found.id (.sleeping (found.delay.after now))
  by_cases hsame : task.id = found.id
  · obtain rfl := horderly.eq_of_task? htask hfound hsame
    rw [if_pos rfl] at hafter
    rcases hfinish with ⟨hcancelled, -⟩ | ⟨-, hfinish⟩
    · exact absurd (hgoesOn.symm.trans hcancelled) Bool.false_ne_true
    · rw [← hfinish] at hafter
      exact .ends outcome hphase hafter
  · rw [if_neg hsame] at hafter
    have hother : found.id ≠ task.id := fun h => hsame h.symm
    have hevents : [Event.resumed found.id, .ended found.id outcome,
        .released found.id].filter (Event.bounds task.id) = [] := by
      simp [Event.bounds, hother]
    rcases hfinish with ⟨-, hfinish⟩ | ⟨-, hfinish⟩
    · refine .stays ?_ (fun hwaits => ?_) hevents
      · rw [hfinish]
        exact (task?_drop_of_ne hother).trans htask
      · rwa [hfinish]
    · refine .stays ?_ (fun hwaits => ?_) hevents
      · rwa [hfinish]
      · rwa [hfinish]

theorem resume (horderly : pool.Orderly) (htask : pool.task? id = some task)
    (hgoesOn : pool.isCancelled id = false) (other : Nat) (outcome : Option Outcome) :
    Fate pool now id task (pool.resume now other outcome).1 (pool.resume now other outcome).2 := by
  have hopen := isShutdown_of_not_cancelled hgoesOn
  cases hrunning : pool.isRunning other with
  | false =>
    rw [resume_of_not_isRunning hopen hrunning]
    exact .unchanged htask rfl
  | true =>
    cases outcome with
    | none =>
      rw [resume_none hopen hrunning]
      exact .unchanged htask rfl
    | some outcome =>
      rw [resume_some hopen hrunning]
      exact .finish horderly htask hgoesOn hrunning outcome

end Fate

/-- Numbers that were given out stay given out. -/
theorem lt_next_enact (hid : id < pool.next) (now : Nat) (act : Act σ) :
    id < (pool.enact now act).1.next :=
  Nat.lt_of_lt_of_le hid (pool.deed_enact now act).marked.next

/-- A task that is not cancelled in the end was not cancelled before. -/
theorem goesOn_of_after (hid : id < pool.next) {acts : List (Nat × Act σ)}
    (hgoesOn : (pool.after acts).isCancelled id = false) : pool.isCancelled id = false := by
  by_contra hcancelled
  have hending : pool.Ending id := ⟨hid, Bool.of_not_eq_false hcancelled⟩
  exact Bool.false_ne_true (hgoesOn.symm.trans (hending.after acts).isCancelled)

theorem goesOn_of_enact (hid : id < pool.next) {act : Act σ}
    (hgoesOn : (pool.enact now act).1.isCancelled id = false) : pool.isCancelled id = false :=
  goesOn_of_after hid (show (pool.after [(now, act)]).isCancelled id = false from hgoesOn)

/-- What any act does to a task that goes on. -/
theorem Orderly.fate_enact (horderly : pool.Orderly) {task : Task σ}
    (htask : pool.task? id = some task) {act : Act σ}
    (hafter : (pool.enact now act).1.isCancelled id = false) :
    Fate pool now id task (pool.enact now act).1 (pool.enact now act).2 := by
  have hid : id < pool.next := horderly.lt_next htask
  have hgoesOn : pool.isCancelled id = false := goesOn_of_enact hid hafter
  cases act with
  | schedule initial delay job =>
    cases hnext : pool.schedule? now initial delay job with
    | none =>
      simp only [enact, hnext]
      exact .unchanged htask rfl
    | some result =>
      obtain ⟨next, number⟩ := result
      obtain ⟨-, -, hresult⟩ := schedule?_cases hnext
      simp only [enact, hnext, Option.map_some, Option.getD_some]
      rw [hresult]
      refine .stays ?_ (fun hqueue => hqueue) rfl
      rw [task?, List.find?_append, ← task?, htask]
      rfl
  | cancel other =>
    have hmarked : id ≠ other := by
      rintro rfl
      simp [enact, hid, isCancelled_mark] at hafter
    rcases pool.enact_cancel_cases now other with ⟨-, hcancel⟩ | hcancel
    · rw [hcancel]
      refine .stays ?_ (fun hqueue => (pool.queue_mark other).symm ▸ hqueue) rfl
      rw [task?, tasks_mark]
      exact htask
    · rw [hcancel]
      exact .unchanged htask rfl
  | wake other => exact .wake horderly htask other
  | notice other => exact .notice htask hgoesOn other
  | start => exact .employ horderly htask hgoesOn
  | resume other outcome => exact .resume horderly htask hgoesOn other outcome
  | close => exact absurd hafter (by simp [enact, Pool.close, isCancelled])

/-! ## The whole course of a task -/

variable {delay : Millis} {clock first : Nat} {stamps : List (Nat × Event)} {stance : Stance}

/-- What is told at one time of the runs of a task. -/
theorem bounds_stamped (id now : Nat) (events : List Event) :
    bounds id (events.map fun event => (now, event)) =
      (events.filter (Event.bounds id)).map fun event => (now, event) :=
  List.filter_map

/-- One act takes a task that goes on from one stance to the next, at the right time. -/
theorem Stands.enact (hstands : pool.Stands id delay clock stance) (horderly : pool.Orderly)
    (hpaced : Paced id first delay.after stamps stance) (hclock : clock ≤ now) {act : Act σ}
    (hgoesOn : (pool.enact now act).1.isCancelled id = false) :
    ∃ next, (pool.enact now act).1.Stands id delay now next ∧
      Paced id first delay.after
        (stamps ++ bounds id ((pool.enact now act).2.map fun event => (now, event))) next := by
  obtain ⟨task, htask, rfl, hphase⟩ := hstands
  have hfate := horderly.fate_enact htask hgoesOn
  rw [bounds_stamped]
  revert hfate
  generalize (pool.enact now act).1 = after
  generalize (pool.enact now act).2 = events
  intro hfate
  cases hfate with
  | stays hkept hqueue hevents =>
    refine ⟨stance, ⟨task, hkept, rfl, ?_⟩, ?_⟩
    · cases stance with
      | due moment =>
        exact hphase.imp_right fun ⟨hqueued, hwaits, hdue⟩ =>
          ⟨hqueued, hqueue hwaits, Nat.le_trans hdue hclock⟩
      | running => exact hphase
    · rw [hevents, List.map_nil, List.append_nil]
      exact hpaced
  | wakes wakeUp hsleeping hdue hkept hwaits =>
    cases stance with
    | due moment =>
      rcases hphase with hphase | ⟨hqueued, -⟩
      · obtain rfl := Phase.sleeping.inj (hsleeping.symm.trans hphase)
        refine ⟨.due wakeUp, ⟨_, hkept, rfl, .inr ⟨rfl, hwaits, hdue⟩⟩, ?_⟩
        rw [List.filter_nil, List.map_nil, List.append_nil]
        exact hpaced
      · exact Phase.noConfusion (hsleeping.symm.trans hqueued)
    | running => exact Phase.noConfusion (hsleeping.symm.trans hphase)
  | starts hqueued hkept =>
    have hevents : [Event.took id, .started id].filter (Event.bounds id) = [.started id] := by
      simp [Event.bounds]
    rw [hevents]
    cases stance with
    | due moment =>
      rcases hphase with hphase | ⟨-, -, hdue⟩
      · exact Phase.noConfusion (hqueued.symm.trans hphase)
      · exact ⟨.running, ⟨_, hkept, rfl, rfl⟩, .started now hpaced (Nat.le_trans hdue hclock)⟩
    | running => exact Phase.noConfusion (hqueued.symm.trans hphase)
  | ends outcome hrunning hkept =>
    have hevents : [Event.resumed id, .ended id outcome, .released id].filter
        (Event.bounds id) = [.ended id outcome] := by
      simp [Event.bounds]
    rw [hevents]
    cases stance with
    | due moment =>
      rcases hphase with hphase | ⟨hqueued, -⟩
      · exact Phase.noConfusion (hrunning.symm.trans hphase)
      · exact Phase.noConfusion (hrunning.symm.trans hqueued)
    | running =>
      exact ⟨.due (task.delay.after now), ⟨_, hkept, rfl, .inl rfl⟩, .ended now outcome hpaced⟩

/-- The runs of a task keep their pace, and the task is there for the next one, as long as nobody
cancels it. -/
theorem Stands.after (hstands : pool.Stands id delay clock stance) (horderly : pool.Orderly)
    (hpaced : Paced id first delay.after stamps stance) {acts : List (Nat × Act σ)}
    (hprompt : pool.isPrompt clock acts = true)
    (hgoesOn : (pool.after acts).isCancelled id = false) :
    ∃ next, (pool.after acts).Stands id delay (clockAfter clock acts) next ∧
      Paced id first delay.after (stamps ++ bounds id (pool.chronicle acts)) next := by
  induction acts generalizing pool clock stamps stance with
  | nil => exact ⟨stance, hstands, by rwa [chronicle, bounds, List.filter_nil, List.append_nil]⟩
  | cons act rest ih =>
    obtain ⟨now, act⟩ := act
    simp only [isPrompt, Bool.and_eq_true, decide_eq_true_eq] at hprompt
    have horderlyNext := horderly.deed (pool.deed_enact now act)
    have hid : id < pool.next := by
      obtain ⟨task, htask, -⟩ := hstands
      exact horderly.lt_next htask
    have hnow : (pool.enact now act).1.isCancelled id = false :=
      goesOn_of_after (lt_next_enact hid now act) hgoesOn
    obtain ⟨middle, hmiddle, hpacedMiddle⟩ :=
      hstands.enact horderly hpaced hprompt.1.1 hnow
    obtain ⟨last, hlast, hpacedLast⟩ := ih hmiddle horderlyNext hpacedMiddle hprompt.2 hgoesOn
    refine ⟨last, hlast, ?_⟩
    rwa [chronicle, bounds_append, ← List.append_assoc]

end Pool

end RegistrySession
