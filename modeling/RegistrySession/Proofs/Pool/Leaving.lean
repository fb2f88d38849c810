import RegistrySession.Proofs.Pool.Apart

/-!
# Cancelled tasks

A cancelled task starts no run any more, wherever it is when that happens; a run in progress comes
to its end first, and then the task is gone.  The others go on as if it had never been there.
-/

namespace RegistrySession

universe u

variable {σ : Type u}

namespace Pool

/-- The task whose run an event is about.  To take a worker or to give it back is no run. -/
def Event.run? : Event → Option Nat
  | .started id | .resumed id | .ended id _ | .cut id => some id
  | .took _ | .released _ => none

def runsOf (id : Nat) (events : List Event) : List Event :=
  events.filter fun event => event.run? = some id

/-- The task is not there, and nothing new is called by its number. -/
structure Gone (pool : Pool σ) (id : Nat) : Prop where
  old : id < pool.next
  absent : ∀ badge ∈ pool.badges, badge.1 ≠ id

/-- The task will not start again. -/
structure Ending (pool : Pool σ) (id : Nat) : Prop where
  old : id < pool.next
  isCancelled : pool.isCancelled id = true

theorem runsOf_append (id : Nat) (events more : List Event) :
    runsOf id (events ++ more) = runsOf id events ++ runsOf id more :=
  List.filter_append ..

section Deeds

variable {pool next : Pool σ} {events : List Event} {id : Nat}

/-- What the marks of a pool are after an act. -/
structure Marked (pool next : Pool σ) : Prop where
  cancelled : pool.cancelled ⊆ next.cancelled
  isShutdown : pool.isShutdown = true → next.isShutdown = true
  next : pool.next ≤ next.next

theorem Marked.of_eq (hcancelled : next.cancelled = pool.cancelled)
    (hshutdown : next.isShutdown = pool.isShutdown) (hnext : next.next = pool.next) :
    pool.Marked next :=
  ⟨hcancelled ▸ List.Subset.refl _, fun h => hshutdown.trans h, Nat.le_of_eq hnext.symm⟩

theorem marked_start? {started : Option (Task σ)} (h : pool.start? = some (next, started)) :
    pool.Marked next := by
  obtain ⟨id, rest, -, -, ⟨-, -, rfl⟩ | ⟨task, -, -, -, -, rfl⟩⟩ := start?_cases h
  · exact .of_eq rfl rfl rfl
  · exact .of_eq rfl rfl rfl

/-- Marks stay once they are set. -/
theorem Deed.marked (h : pool.Deed next events) : pool.Marked next := by
  cases h with
  | none => exact .of_eq rfl rfl rfl
  | schedules now initial delay job next id hnext =>
    obtain ⟨-, -, rfl⟩ := schedule?_cases hnext
    exact ⟨List.Subset.refl _, fun h => h, Nat.le_succ _⟩
  | marks id =>
    refine ⟨?_, fun h => (pool.isShutdown_mark id).trans h, Nat.le_of_eq (pool.next_mark id).symm⟩
    by_cases hmarked : pool.cancelled.contains id = true
    · rw [mark, if_pos hmarked]
      exact List.Subset.refl _
    · rw [mark, if_neg hmarked]
      exact List.subset_cons_self _ _
  | wakes now id =>
    rcases pool.wake_cases now id with hwake | ⟨-, hwake⟩ <;> rw [hwake] <;>
      exact .of_eq rfl rfl rfl
  | leaves id => exact .of_eq rfl rfl rfl
  | drops next hnext => exact marked_start? hnext
  | passes next id rest hnext => exact marked_start? hnext
  | starts next task hnext => exact marked_start? hnext
  | pauses id => exact .of_eq rfl rfl rfl
  | ends now id =>
    rcases pool.finish_cases now id with
      ⟨hfinish, -⟩ | ⟨task, -, -, -, ⟨-, hfinish⟩ | ⟨-, hfinish⟩⟩ <;> rw [hfinish] <;>
      exact .of_eq rfl rfl rfl
  | isCut id => exact .of_eq rfl rfl rfl
  | closes => exact ⟨List.Subset.refl _, fun _ => rfl, Nat.le_refl _⟩

/-- A task that will not start again stays so. -/
theorem Ending.deed (hending : pool.Ending id) (h : pool.Deed next events) : next.Ending id := by
  obtain ⟨hcancelled, hshutdown, hnext⟩ := h.marked
  refine ⟨Nat.lt_of_lt_of_le hending.old hnext, ?_⟩
  have hmarked := hending.isCancelled
  simp only [Pool.isCancelled, Bool.or_eq_true, List.contains_iff_mem] at hmarked ⊢
  exact hmarked.imp hshutdown fun hmem => hcancelled hmem

/-- Nobody is new but by being scheduled. -/
theorem Deed.badges (h : pool.Deed next events) :
    next.badges.Sublist pool.badges ∨
      pool.isShutdown = false ∧ ∃ job, next.badges = pool.badges ++ [(pool.next, job)] := by
  have hdrop : ∀ (pool : Pool σ) (id : Nat), (pool.drop id).badges.Sublist pool.badges :=
    fun pool id => (List.filter_sublist).map _
  have hstart {started : Option (Task σ)} (hnext : pool.start? = some (next, started)) :
      next.badges.Sublist pool.badges := by
    obtain ⟨id, rest, -, -, ⟨-, -, rfl⟩ | ⟨task, -, -, -, -, rfl⟩⟩ := start?_cases hnext
    · exact hdrop _ id
    · rw [badges_setPhase]
      exact .refl _
  cases h with
  | none => exact .inl (.refl _)
  | schedules now initial delay job next id hnext =>
    obtain ⟨hopen, -, rfl⟩ := schedule?_cases hnext
    exact .inr ⟨hopen, job, by simp [Pool.badges, Task.badge]⟩
  | marks id => exact .inl (by rw [Pool.badges, tasks_mark]; exact .refl _)
  | wakes now id =>
    left
    rcases pool.wake_cases now id with hwake | ⟨-, hwake⟩
    · rw [hwake]
    · rw [hwake]
      change (pool.setPhase id .queued).badges.Sublist pool.badges
      rw [badges_setPhase]
  | leaves id => exact .inl (hdrop pool id)
  | drops next hnext => exact .inl (hstart hnext)
  | passes next id rest hnext => exact .inl (hstart hnext)
  | starts next task hnext => exact .inl (hstart hnext)
  | pauses id => exact .inl (.refl _)
  | ends now id =>
    left
    rcases pool.finish_cases now id with
      ⟨hfinish, -⟩ | ⟨task, -, -, -, ⟨-, hfinish⟩ | ⟨-, hfinish⟩⟩
    · rw [hfinish]
    · rw [hfinish]
      exact hdrop pool id
    · rw [hfinish, badges_setPhase]
  | isCut id => exact .inl (hdrop pool id)
  | closes => exact .inl (.refl _)

/-- A task that is gone stays gone. -/
theorem Gone.deed (hgone : pool.Gone id) (h : pool.Deed next events) : next.Gone id := by
  refine ⟨Nat.lt_of_lt_of_le hgone.old h.marked.next, fun badge hbadge => ?_⟩
  rcases h.badges with hsub | ⟨-, job, hnew⟩
  · exact hgone.absent badge (hsub.subset hbadge)
  · rw [hnew, List.mem_append, List.mem_singleton] at hbadge
    rcases hbadge with hold | rfl
    · exact hgone.absent badge hold
    · exact Nat.ne_of_gt hgone.old

theorem Orderly.isRunning_iff (horderly : pool.Orderly) :
    pool.isRunning id = true ↔ ∃ badge ∈ pool.crew, badge.1 = id :=
  horderly.mem_desk_iff.symm.trans Pool.mem_desk_iff

theorem Orderly.isRunning_eq_false (horderly : pool.Orderly)
    (h : ∀ badge ∈ pool.crew, badge.1 ≠ id) : pool.isRunning id = false := by
  rw [← Bool.not_eq_true, horderly.isRunning_iff]
  rintro ⟨badge, hbadge, hid⟩
  exact h badge hbadge hid

theorem Gone.idle (horderly : pool.Orderly) (hgone : pool.Gone id) : pool.isRunning id = false := by
  refine horderly.isRunning_eq_false fun badge hbadge => ?_
  obtain ⟨task, htask, -, rfl⟩ := mem_crew.1 hbadge
  exact hgone.absent _ (List.mem_map_of_mem htask)

/-- Whoever joins the crew was not cancelled. -/
theorem Orderly.mem_crew_deed (horderly : pool.Orderly) (h : pool.Deed next events)
    {badge : Nat × σ} (hbadge : badge ∈ next.crew) :
    badge ∈ pool.crew ∨ pool.isCancelled badge.1 = false := by
  cases h with
  | none => exact .inl hbadge
  | schedules now initial delay job next id hnext => exact .inl (crew_schedule? hnext ▸ hbadge)
  | marks id => exact .inl (pool.crew_mark id ▸ hbadge)
  | wakes now id => exact .inl (horderly.crew_wake now id ▸ hbadge)
  | leaves id => exact .inl (List.mem_of_mem_filter (crew_drop pool id ▸ hbadge))
  | drops next hnext => exact .inl (horderly.crew_start?_none hnext ▸ hbadge)
  | passes next id rest hnext => exact .inl (horderly.crew_start?_none hnext ▸ hbadge)
  | starts next task hnext =>
    obtain ⟨-, -, -, -, hgoesOn, -⟩ := start?_some_cases hnext
    rcases List.mem_cons.1 ((horderly.crew_start?_some hnext).mem_iff.1 hbadge) with rfl | hold
    · exact .inr hgoesOn
    · exact .inl hold
  | pauses id => exact .inl hbadge
  | ends now id => exact .inl (List.mem_of_mem_filter (horderly.crew_finish now id ▸ hbadge))
  | isCut id => exact .inl (List.mem_of_mem_filter (crew_drop pool id ▸ hbadge))
  | closes => exact .inl hbadge

/-- An event that an act can tell of, and what the pool was like then. -/
inductive Tells (pool : Pool σ) : Event → Prop
  | took (id : Nat) (hwaits : id ∈ pool.queue) (hopen : pool.isShutdown = false) :
      Tells pool (.took id)
  | started (task : Task σ) (htask : task ∈ pool.tasks)
      (hgoesOn : pool.isCancelled task.id = false) : Tells pool (.started task.id)
  | resumed (id : Nat) (hrunning : pool.isRunning id = true) (hopen : pool.isShutdown = false) :
      Tells pool (.resumed id)
  | ended (id : Nat) (outcome : Outcome) (hrunning : pool.isRunning id = true)
      (hopen : pool.isShutdown = false) : Tells pool (.ended id outcome)
  | isCut (id : Nat) (hrunning : pool.isRunning id = true) : Tells pool (.cut id)
  | released (id : Nat) (hbusy : id ∈ pool.queue ∨ pool.isRunning id = true) :
      Tells pool (.released id)

/-- A pool with a task that goes on is not shut down. -/
theorem isShutdown_of_not_cancelled (h : pool.isCancelled id = false) :
    pool.isShutdown = false := by
  rw [isCancelled, Bool.or_eq_false_iff] at h
  exact h.1

/-- No act tells of anything that cannot have happened. -/
theorem Deed.tells (h : pool.Deed next events) : ∀ event ∈ events, pool.Tells event := by
  cases h with
  | none | schedules | marks | wakes | leaves | drops | closes =>
    exact fun _ hevent => absurd hevent List.not_mem_nil
  | passes next id rest _ hqueue hopen =>
    have hwaits : id ∈ pool.queue := hqueue ▸ List.mem_cons_self
    exact List.forall_mem_cons.2 ⟨.took id hwaits hopen,
      List.forall_mem_singleton.2 (.released id (.inl hwaits))⟩
  | starts next task hnext =>
    obtain ⟨rest, hqueue, -, htask, hgoesOn, -⟩ := start?_some_cases hnext
    have hwaits : task.id ∈ pool.queue := hqueue ▸ List.mem_cons_self
    exact List.forall_mem_cons.2 ⟨.took task.id hwaits (isShutdown_of_not_cancelled hgoesOn),
      List.forall_mem_singleton.2 (.started task htask hgoesOn)⟩
  | pauses id hrunning hopen =>
    exact List.forall_mem_singleton.2 (.resumed id hrunning hopen)
  | ends now id outcome hrunning hopen =>
    exact List.forall_mem_cons.2 ⟨.resumed id hrunning hopen,
      List.forall_mem_cons.2 ⟨.ended id outcome hrunning hopen,
        List.forall_mem_singleton.2 (.released id (.inr hrunning))⟩⟩
  | isCut id hrunning =>
    exact List.forall_mem_cons.2 ⟨.isCut id hrunning,
      List.forall_mem_singleton.2 (.released id (.inr hrunning))⟩

/-- What is told of a run is told of one in progress, or else of one that starts. -/
theorem Tells.run {event : Event} (h : pool.Tells event) (hrun : event.run? = some id) :
    pool.isRunning id = true ∨ pool.isCancelled id = false := by
  cases h with
  | took | released => cases hrun
  | started task htask hgoesOn =>
    obtain rfl := Option.some.inj hrun
    exact .inr hgoesOn
  | resumed other hrunning | ended other outcome hrunning | isCut other hrunning =>
    obtain rfl := Option.some.inj hrun
    exact .inl hrunning

/-- All events are about tasks that wait or are there. -/
theorem Tells.task {event : Event} (h : pool.Tells event) :
    event.task ∈ pool.queue ∨ ∃ task ∈ pool.tasks, task.id = event.task := by
  have hfound {id : Nat} (hrunning : pool.isRunning id = true) :
      ∃ task ∈ pool.tasks, task.id = id := by
    obtain ⟨task, hfound, -⟩ := isRunning_iff_exists.1 hrunning
    exact ⟨task, mem_tasks_of_task? hfound⟩
  cases h with
  | took id hwaits => exact .inl hwaits
  | started task htask => exact .inr ⟨task, htask, rfl⟩
  | resumed id hrunning | ended id outcome hrunning | isCut id hrunning =>
    exact .inr (hfound hrunning)
  | released id hbusy => exact hbusy.imp_right hfound

/-- In a pool that is shut down, runs are only cut off and workers given back. -/
theorem Tells.of_closed {event : Event} (h : pool.Tells event) (hclosed : pool.isShutdown = true) :
    ∃ id, event = .cut id ∨ event = .released id := by
  have hnever (hopen : pool.isShutdown = false) : False :=
    Bool.false_ne_true (hopen.symm.trans hclosed)
  cases h with
  | took id hwaits hopen => exact (hnever hopen).elim
  | started task htask hgoesOn => exact (hnever (isShutdown_of_not_cancelled hgoesOn)).elim
  | resumed id hrunning hopen | ended id outcome hrunning hopen => exact (hnever hopen).elim
  | isCut id => exact ⟨id, .inl rfl⟩
  | released id => exact ⟨id, .inr rfl⟩

/-- A task that was cancelled and is not running stays so, and nothing is told of it. -/
theorem Ending.idle_deed (hending : pool.Ending id) (horderly : pool.Orderly)
    (hidle : pool.isRunning id = false) (h : pool.Deed next events) :
    next.isRunning id = false ∧ runsOf id events = [] := by
  constructor
  · refine (horderly.deed h).isRunning_eq_false fun badge hbadge => ?_
    rintro rfl
    rcases horderly.mem_crew_deed h hbadge with hold | hgoesOn
    · have hrunning := horderly.isRunning_iff.2 ⟨badge, hold, rfl⟩
      exact Bool.false_ne_true (hidle.symm.trans hrunning)
    · exact Bool.false_ne_true (hgoesOn.symm.trans hending.isCancelled)
  · refine List.filter_eq_nil_iff.2 fun event hevent hrun => ?_
    rcases (h.tells event hevent).run (of_decide_eq_true hrun) with hrunning | hgoesOn
    · exact Bool.false_ne_true (hidle.symm.trans hrunning)
    · exact Bool.false_ne_true (hgoesOn.symm.trans hending.isCancelled)

theorem gone_drop (hid : id < pool.next) : (pool.drop id).Gone id := by
  refine ⟨hid, fun badge hbadge => ?_⟩
  rw [badges_drop] at hbadge
  exact of_decide_eq_true (List.mem_filter.1 hbadge).2

theorem gone_leave (hid : id < pool.next) : (pool.leave id).Gone id :=
  ⟨hid, (gone_drop hid).absent⟩

/-- Whoever waits for a worker is not running. -/
theorem Orderly.not_mem_queue (horderly : pool.Orderly) (hrunning : pool.isRunning id = true) :
    id ∉ pool.queue := by
  intro hqueue
  obtain ⟨task, hfound, hphase⟩ := isRunning_iff_exists.1 hrunning
  obtain ⟨htask, rfl⟩ := mem_tasks_of_task? hfound
  exact absurd (hphase.symm.trans (horderly.queued task htask hqueue)) Phase.noConfusion

/-- A run in progress goes on, or it comes to its end, or it is cut off because the pool shuts down.
When it is over, a task that was cancelled is gone, and one that was cut off anyhow. -/
theorem Orderly.running_deed (horderly : pool.Orderly) (hrunning : pool.isRunning id = true)
    (h : pool.Deed next events) :
    (next.isRunning id = true ∧
        (runsOf id events = [] ∨ runsOf id events = [.resumed id])) ∨
      ((∃ outcome, runsOf id events = [.resumed id, .ended id outcome]) ∧
        (pool.isCancelled id = true → next.Gone id)) ∨
      pool.isShutdown = true ∧ runsOf id events = [.cut id] ∧ next.Gone id := by
  obtain ⟨badge, hbadge, rfl⟩ := horderly.isRunning_iff.1 hrunning
  obtain ⟨task, hfound, hphase⟩ := isRunning_iff_exists.1 hrunning
  have hold := horderly.lt_next hfound
  have hstays (hnext : badge ∈ next.crew) (hquiet : runsOf badge.1 events = []) :
      next.isRunning badge.1 = true ∧
        (runsOf badge.1 events = [] ∨ runsOf badge.1 events = [.resumed badge.1]) :=
    ⟨(horderly.deed h).isRunning_iff.2 ⟨badge, hnext, rfl⟩, .inl hquiet⟩
  have hkept {other : Nat} (hother : other ≠ badge.1) :
      badge ∈ pool.crew.filter fun badge => badge.1 ≠ other :=
    List.mem_filter.2 ⟨hbadge, decide_eq_true hother.symm⟩
  cases h with
  | none => exact .inl (hstays hbadge rfl)
  | schedules now initial delay job next id hnext =>
    exact .inl (hstays (crew_schedule? hnext ▸ hbadge) rfl)
  | marks id => exact .inl (hstays ((pool.crew_mark id).symm ▸ hbadge) rfl)
  | wakes now id => exact .inl (hstays ((horderly.crew_wake now id).symm ▸ hbadge) rfl)
  | leaves id task htask hid hidle =>
    subst hid
    have hcrew := (crew_drop pool task.id).trans (horderly.filter_crew htask hidle)
    exact .inl (hstays (hcrew.symm ▸ hbadge) rfl)
  | drops next hnext => exact .inl (hstays (horderly.crew_start?_none hnext ▸ hbadge) rfl)
  | passes next id rest hnext =>
    exact .inl (hstays (horderly.crew_start?_none hnext ▸ hbadge) rfl)
  | starts next first hnext =>
    left
    obtain ⟨rest, hqueue, -⟩ := start?_some_cases hnext
    have hother : first.id ≠ badge.1 := fun heq =>
      horderly.not_mem_queue hrunning (hqueue ▸ heq ▸ List.mem_cons_self)
    refine hstays ((horderly.crew_start?_some hnext).mem_iff.2 (List.mem_cons_of_mem _ hbadge)) ?_
    simp [runsOf, Event.run?, hother]
  | pauses other =>
    left
    by_cases hother : other = badge.1
    · subst hother
      exact ⟨hrunning, .inr (by simp [runsOf, Event.run?])⟩
    · exact hstays hbadge (by simp [runsOf, Event.run?, hother])
  | ends now other outcome =>
    by_cases hother : other = badge.1
    · subst hother
      refine .inr (.inl ⟨⟨outcome, by simp [runsOf, Event.run?]⟩, fun hcancelled => ?_⟩)
      have hfinish : pool.finish now badge.1 = pool.drop badge.1 := by
        rw [finish, hfound]
        simp only [hphase, hcancelled, if_true]
      rw [hfinish]
      exact gone_drop hold
    · exact .inl (hstays (horderly.crew_finish now other ▸ hkept hother)
        (by simp [runsOf, Event.run?, hother]))
  | isCut other _ hclosed =>
    by_cases hother : other = badge.1
    · subst hother
      exact .inr (.inr ⟨hclosed, by simp [runsOf, Event.run?], gone_leave hold⟩)
    · exact .inl (hstays (crew_drop pool other ▸ hkept hother)
        (by simp [runsOf, Event.run?, hother]))
  | closes => exact .inl (hstays hbadge rfl)

end Deeds

/-! ## After a task was cancelled -/

/-- What is told of the last run of a task up to now: it gets on, again and again, and comes to its
end, or it is cut off because the pool shuts down; then the task is gone. -/
inductive LastRun (pool : Pool σ) (id : Nat) : List Event → Prop
  | goesOn (times : Nat) (hrunning : pool.isRunning id = true) :
      LastRun pool id (List.replicate times (.resumed id))
  | ended (times : Nat) (outcome : Outcome) (hgone : pool.Gone id) :
      LastRun pool id (List.replicate times (.resumed id) ++ [.ended id outcome])
  | isCut (times : Nat) (hclosed : pool.isShutdown = true) (hgone : pool.Gone id) :
      LastRun pool id (List.replicate times (.resumed id) ++ [.cut id])

section Cancelled

variable {pool : Pool σ} {id : Nat}

theorem LastRun.resumed {events : List Event} (h : pool.LastRun id events) :
    pool.LastRun id (.resumed id :: events) := by
  cases h with
  | goesOn times hrunning => exact .goesOn (times + 1) hrunning
  | ended times outcome hgone => exact .ended (times + 1) outcome hgone
  | isCut times hclosed hgone => exact .isCut (times + 1) hclosed hgone

theorem Gone.after (hgone : pool.Gone id) (acts : List (Nat × Act σ)) :
    (pool.after acts).Gone id :=
  after_of_enact (P := fun pool => pool.Gone id)
    (fun pool now act h => h.deed (pool.deed_enact now act)) hgone acts

theorem Ending.after (hending : pool.Ending id) (acts : List (Nat × Act σ)) :
    (pool.after acts).Ending id :=
  after_of_enact (P := fun pool => pool.Ending id)
    (fun pool now act h => h.deed (pool.deed_enact now act)) hending acts

theorem isShutdown_after (hclosed : pool.isShutdown = true) (acts : List (Nat × Act σ)) :
    (pool.after acts).isShutdown = true :=
  after_of_enact (P := fun pool => pool.isShutdown = true)
    (fun pool now act h => (pool.deed_enact now act).marked.isShutdown h) hclosed acts

/-- A task that is cancelled between its runs never runs again. -/
theorem Ending.idle_after (hending : pool.Ending id) (horderly : pool.Orderly)
    (hidle : pool.isRunning id = false) (acts : List (Nat × Act σ)) :
    (pool.after acts).isRunning id = false ∧ runsOf id (pool.history acts) = [] := by
  induction acts generalizing pool with
  | nil => exact ⟨hidle, rfl⟩
  | cons act rest ih =>
    have hdeed := pool.deed_enact act.1 act.2
    obtain ⟨hnext, hquiet⟩ := hending.idle_deed horderly hidle hdeed
    obtain ⟨hlast, hrest⟩ := ih (hending.deed hdeed) (horderly.deed hdeed) hnext
    exact ⟨hlast, by rw [history, runsOf_append, hquiet, hrest, List.nil_append]⟩

/-- A task that is cancelled in its run may end that run, and has no other. -/
theorem Ending.running_after (hending : pool.Ending id) (horderly : pool.Orderly)
    (hrunning : pool.isRunning id = true) (acts : List (Nat × Act σ)) :
    (pool.after acts).LastRun id (runsOf id (pool.history acts)) := by
  induction acts generalizing pool with
  | nil => exact .goesOn 0 hrunning
  | cons act rest ih =>
    have hdeed := pool.deed_enact act.1 act.2
    have hnext := hending.deed hdeed
    have horder := horderly.deed hdeed
    rw [history, runsOf_append]
    have hover (hgone : ((pool.enact act.1 act.2).1).Gone id) :
        ((pool.enact act.1 act.2).1.after rest).Gone id ∧
          runsOf id ((pool.enact act.1 act.2).1.history rest) = [] :=
      ⟨hgone.after rest, (hnext.idle_after horder (hgone.idle horder) rest).2⟩
    rcases horderly.running_deed hrunning hdeed with
      ⟨hstays, htold⟩ | ⟨⟨outcome, htold⟩, hends⟩ | ⟨hclosed, htold, hgone⟩
    · have hlast := ih hnext horder hstays
      rcases htold with htold | htold
      · rw [htold]
        exact hlast
      · rw [htold]
        exact hlast.resumed
    · obtain ⟨hlast, hquiet⟩ := hover (hends hending.isCancelled)
      rw [htold, hquiet]
      exact .ended 1 outcome hlast
    · obtain ⟨hlast, hquiet⟩ := hover hgone
      rw [htold, hquiet]
      exact .isCut 0 (isShutdown_after hclosed (act :: rest)) hlast

/-- A task that is ending starts no run. -/
theorem Ending.not_started (hending : pool.Ending id) (horderly : pool.Orderly)
    (acts : List (Nat × Act σ)) : .started id ∉ pool.history acts := by
  intro hmem
  have htold : .started id ∈ runsOf id (pool.history acts) :=
    List.mem_filter.2 ⟨hmem, by simp [Event.run?]⟩
  cases hrunning : pool.isRunning id with
  | false =>
    rw [(hending.idle_after horderly hrunning acts).2] at htold
    exact List.not_mem_nil htold
  | true =>
    have hlast := hending.running_after horderly hrunning acts
    generalize runsOf id (pool.history acts) = events at hlast htold
    cases hlast <;> simp [List.mem_replicate] at htold

theorem task_ne_of_mem_without {now : Nat} {act : Act σ} {event : Event}
    (hevent : event ∈ ((pool.without id).enact now act).2) : event.task ≠ id := by
  have htells := ((pool.without id).deed_enact now act).tells event hevent
  rcases htells.task with hqueue | ⟨task, htask, hid⟩
  · exact of_decide_eq_true (List.mem_filter.1 hqueue).2
  · rw [← hid]
    exact of_decide_eq_true (List.mem_filter.1 htask).2

/-- The others go on as if the cancelled task had never been there: with some of the acts, in their
order, the pool without it comes to the same state, and the same is told of the others. -/
theorem Ending.exists_without (hending : pool.Ending id) (horderly : pool.Orderly)
    (hidle : pool.isRunning id = false) (acts : List (Nat × Act σ)) :
    ∃ others, others.Sublist acts ∧ (pool.after acts).without id = (pool.without id).after others ∧
      ((pool.history acts).filter fun event => event.task ≠ id) =
        (pool.without id).history others := by
  induction acts generalizing pool with
  | nil => exact ⟨[], .refl _, rfl, rfl⟩
  | cons act rest ih =>
    have hdeed := pool.deed_enact act.1 act.2
    obtain ⟨others, hsub, hafter, htold⟩ := ih (hending.deed hdeed) (horderly.deed hdeed)
      (hending.idle_deed horderly hidle hdeed).1
    rw [history, List.filter_append, Pool.after, htold]
    rcases horderly.without_enact hending.old hidle hending.isCancelled act.1 act.2 with
      ⟨hsame, hself⟩ | ⟨hstep, hevents⟩
    · rw [hsame] at hafter ⊢
      have hnone : ((pool.enact act.1 act.2).2.filter fun event => event.task ≠ id) = [] := by
        simpa [List.filter_eq_nil_iff] using hself
      exact ⟨others, hsub.cons act, hafter, by rw [hnone, List.nil_append]⟩
    · rw [hstep] at hafter ⊢
      have hall : ((pool.enact act.1 act.2).2.filter fun event => event.task ≠ id) =
          ((pool.without id).enact act.1 act.2).2 := by
        rw [hevents, List.filter_eq_self]
        exact fun event hevent => decide_eq_true (task_ne_of_mem_without hevent)
      exact ⟨act :: others, hsub.cons_cons act, hafter, by rw [hall]; rfl⟩

end Cancelled

end Pool

end RegistrySession
