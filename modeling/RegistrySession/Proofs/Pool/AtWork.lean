import RegistrySession.Proofs.Pool.Closing

/-!
# Pools at work

A run that has to wait is in the middle of what its pool tells of: it started, or it got on only to
wait again, and it will get on, come to its end or be cut off.  As long as every wait begins and ends
with an act of the pool that tells as much, whoever waits is running.  In a pool that is shut down
nobody begins to wait, and no wait ends but by being cut off.
-/

namespace RegistrySession

universe u

variable {σ : Type u}

namespace Pool

/-- A pool and those who wait in the middle of a run, each under the number of its wait. -/
structure AtWork (σ : Type u) where
  pool : Pool σ
  waits : List (Nat × Nat)

theorem Reachable.enact {pool : Pool σ} (h : pool.Reachable) (now : Nat) (act : Act σ) :
    (pool.enact now act).1.Reachable := by
  obtain ⟨name, workers, acts, rfl⟩ := h
  refine ⟨name, workers, acts ++ [(now, act)], ?_⟩
  rw [after_append]
  rfl

/-- A run goes on through an act that tells at most that it got on. -/
theorem Orderly.isRunning_enact {pool : Pool σ} (horderly : pool.Orderly) {id : Nat}
    (hrunning : pool.isRunning id = true) (now : Nat) (act : Act σ)
    (htold : ∀ event ∈ (pool.enact now act).2, event.run? = some id → event = .resumed id) :
    (pool.enact now act).1.isRunning id = true := by
  have hnever {event : Event} (hruns : event ∈ runsOf id (pool.enact now act).2) :
      event = .resumed id :=
    htold event (List.mem_filter.1 hruns).1 (of_decide_eq_true (List.mem_filter.1 hruns).2)
  rcases horderly.running_deed hrunning (pool.deed_enact now act) with
    ⟨hstays, -⟩ | ⟨⟨outcome, hruns⟩, -⟩ | ⟨-, hruns, -⟩
  · exact hstays
  · have hended : .ended id outcome ∈ runsOf id (pool.enact now act).2 := by simp [hruns]
    exact Event.noConfusion (hnever hended)
  · have hcut : .cut id ∈ runsOf id (pool.enact now act).2 := by simp [hruns]
    exact Event.noConfusion (hnever hcut)

/-- Nothing but the act of closing shuts a pool down. -/
theorem isShutdown_enact (pool : Pool σ) (now : Nat) {act : Act σ} (hact : act ≠ .close) :
    (pool.enact now act).1.isShutdown = pool.isShutdown := by
  have hnotice (id : Nat) : (pool.notice id).1.isShutdown = pool.isShutdown := by
    cases hquits : pool.quits id <;> simp only [notice, hquits] <;> rfl
  cases act with
  | schedule initial delay job =>
    cases hnext : pool.schedule? now initial delay job with
    | none => simp [enact, hnext]
    | some result =>
      obtain ⟨-, -, hpool⟩ := schedule?_cases hnext
      simp [enact, hnext, hpool]
  | cancel id =>
    by_cases hid : id < pool.next
    · simp [enact, hid]
    · simp [enact, hid]
  | wake id =>
    rcases pool.wake_cases now id with hwake | ⟨-, hwake⟩
    · simp [enact, hwake]
    · simp [enact, hwake, setPhase]
  | notice id => exact hnotice id
  | start =>
    cases hstart : pool.start? with
    | none => simp [enact, employ, hstart]
    | some result =>
      obtain ⟨next, started⟩ := result
      have hnext : next.isShutdown = pool.isShutdown := by
        obtain ⟨id, rest, -, -, ⟨-, -, rfl⟩ | ⟨task, -, -, -, -, rfl⟩⟩ := start?_cases hstart
        · rfl
        · rfl
      cases started with
      | none => simpa [enact, employ, hstart] using hnext
      | some task => simpa [enact, employ, hstart] using hnext
  | resume id outcome =>
    cases hclosed : pool.isShutdown with
    | true => simpa [enact, resume, hclosed] using hnotice id
    | false =>
      cases hrunning : pool.isRunning id with
      | false => simp [enact, resume, hclosed, hrunning]
      | true =>
        cases outcome with
        | none => simp [enact, resume, hclosed, hrunning]
        | some outcome =>
          have hfinish : (pool.finish now id).isShutdown = pool.isShutdown := by
            rcases pool.finish_cases now id with
              ⟨hsame, -⟩ | ⟨task, -, -, -, ⟨-, hends⟩ | ⟨-, hsleeps⟩⟩
            · rw [hsame]
            · rw [hends]
              rfl
            · rw [hsleeps]
              rfl
          simpa [enact, resume, hclosed, hrunning] using hfinish.trans hclosed
  | close => exact absurd rfl hact

theorem run?_of_mem_notice {pool : Pool σ} {id other : Nat} {event : Event}
    (hevent : event ∈ (pool.notice id).2) (hrun : event.run? = some other) : other = id := by
  cases hquits : pool.quits id with
  | false => simp [notice, hquits] at hevent
  | true =>
    cases hrunning : pool.isRunning id with
    | false => simp [notice, hquits, hrunning] at hevent
    | true =>
      simp only [notice, hquits, hrunning, if_true, List.mem_cons, List.not_mem_nil,
        or_false] at hevent
      rcases hevent with rfl | rfl
      · exact (Option.some.inj hrun).symm
      · exact absurd hrun.symm (Option.some_ne_none _)

/-! ## Without a word of runs -/

/-- A pool comes from one state to the other by acts that tell nothing of runs. -/
def Idles (pool next : Pool σ) : Prop :=
  pool.Orderly → ∃ acts, next = pool.after acts ∧ (∀ entry ∈ acts, entry.2 ≠ .close) ∧
    ∀ event ∈ pool.history acts, event.run? = none

section Idles

variable {pool next : Pool σ} {now id : Nat}

theorem Idles.refl (pool : Pool σ) : pool.Idles pool :=
  fun _ => ⟨[], rfl, fun _ hentry => absurd hentry List.not_mem_nil,
    fun _ hevent => absurd hevent List.not_mem_nil⟩

/-- An act that tells of no run leaves the runs as they are. -/
theorem Idles.enact (pool : Pool σ) (now : Nat) {act : Act σ} (hact : act ≠ .close)
    (hquiet : ∀ event ∈ (pool.enact now act).2, event.run? = none) :
    pool.Idles (pool.enact now act).1 := by
  refine fun _ => ⟨[(now, act)], rfl, List.forall_mem_singleton.2 hact, ?_⟩
  rw [history, history, List.append_nil]
  exact hquiet

theorem Idles.schedule? {initial delay : Millis} {job : σ}
    (h : pool.schedule? now initial delay job = some (next, id)) : pool.Idles next := by
  have henact : pool.enact now (.schedule initial delay job) = (next, []) := by
    simp [Pool.enact, h]
  have hidles := Idles.enact pool now (by simp : Act.schedule initial delay job ≠ .close)
    fun event hevent => by simp [henact] at hevent
  rwa [henact] at hidles

/-- To cancel at once is to cancel, and then a turn of the task if it sleeps. -/
theorem Idles.cancel (hid : id < pool.next) : pool.Idles (pool.cancel id) := by
  intro horderly
  have hmark : pool.enact 0 (.cancel id) = (pool.mark id, []) := by
    simp only [Pool.enact, hid, if_true]
  rcases pool.cancel_cases id with ⟨hcancel, -⟩ | ⟨task, wakeUp, hfound, hasleep, hcancel⟩
  · refine ⟨[(0, .cancel id)], ?_, by simp, by simp [history, hmark]⟩
    rw [hcancel, after, hmark, after]
  · have hnotice : (pool.mark id).enact 0 (.notice id) = ((pool.mark id).drop id, []) :=
      horderly.notice_mark hfound hasleep
    refine ⟨[(0, .cancel id), (0, .notice id)], ?_, by simp, by simp [history, hmark, hnotice]⟩
    rw [hcancel, after, hmark, after, hnotice, after]

theorem Idles.wake (pool : Pool σ) (now id : Nat) : pool.Idles (pool.wake now id) :=
  .enact pool now (by simp : Act.wake id ≠ .close) (fun _ hevent => absurd hevent List.not_mem_nil)

/-- A worker is taken and given back at once. -/
theorem Idles.start? (hstart : pool.start? = some (next, none)) : pool.Idles next := by
  have hpool : (pool.enact 0 .start).1 = next := by simp [Pool.enact, employ, hstart]
  refine hpool ▸ .enact pool 0 (by simp) fun event hevent => ?_
  obtain ⟨id, rest, hqueue, -⟩ := start?_cases hstart
  cases hclosed : pool.isShutdown with
  | true => simp [Pool.enact, employ, hstart, hclosed] at hevent
  | false =>
    simp only [Pool.enact, employ, hstart, hclosed, hqueue, Bool.false_eq_true, if_false,
      List.head?_cons, Option.toList_some, List.flatMap_cons, List.flatMap_nil, List.append_nil,
      List.mem_cons, List.not_mem_nil, or_false] at hevent
    rcases hevent with rfl | rfl
    · rfl
    · rfl

end Idles

namespace AtWork

/-- An act of the pool, with what becomes of those who wait. -/
inductive Turn (work : AtWork σ) (now : Nat) : Act σ → AtWork σ → Prop
  | quiet {act : Act σ} (hact : act ≠ .close)
      (hquiet : ∀ event ∈ (work.pool.enact now act).2, event.run? = none) :
      Turn work now act { work with pool := (work.pool.enact now act).1 }
  | starts (wait : Nat) {pool : Pool σ} {task : Task σ}
      (hstart : work.pool.start? = some (pool, some task)) :
      Turn work now .start ⟨pool, work.waits ++ [(wait, task.id)]⟩
  | resumes {wait id : Nat} (next : Nat) (hwaits : (wait, id) ∈ work.waits)
      (hopen : work.pool.isShutdown = false) :
      Turn work now (.resume id none)
        ⟨work.pool, (work.waits.filter fun other => other.1 ≠ wait) ++ [(next, id)]⟩
  | ends {wait id : Nat} (hwaits : (wait, id) ∈ work.waits)
      (hopen : work.pool.isShutdown = false) :
      Turn work now (.resume id (some .returns))
        ⟨work.pool.finish now id, work.waits.filter fun other => other.1 ≠ wait⟩
  | isCut (id : Nat) (hclosed : work.pool.isShutdown = true) :
      Turn work now (.notice id)
        ⟨(work.pool.notice id).1, work.waits.filter fun other => other.2 ≠ id⟩

inductive Row : AtWork σ → List (Nat × Act σ) → AtWork σ → Prop
  | nil (work : AtWork σ) : Row work [] work
  | cons {work next last : AtWork σ} (now : Nat) {act : Act σ} {acts : List (Nat × Act σ)}
      (hturn : work.Turn now act next) (hrow : Row next acts last) : Row work ((now, act) :: acts) last

/-- The pool came about by acts, and whoever waits is in the middle of a run, and waits once. -/
structure Staffed (work : AtWork σ) : Prop where
  reachable : work.pool.Reachable
  nodup : (work.waits.map Prod.snd).Nodup
  running : ∀ wait ∈ work.waits, work.pool.isRunning wait.2 = true

variable {work next last : AtWork σ} {now id : Nat} {act : Act σ}

theorem Row.trans {earlier later : List (Nat × Act σ)} (hfirst : work.Row earlier next)
    (hsecond : next.Row later last) : work.Row (earlier ++ later) last := by
  induction hfirst with
  | nil => exact hsecond
  | cons now hturn _ ih => exact .cons now hturn (ih hsecond)

/-- A run waits for one thing at a time. -/
theorem Staffed.eq_of_task (hstaffed : work.Staffed) {wait other : Nat × Nat}
    (hwait : wait ∈ work.waits) (hother : other ∈ work.waits) (htask : other.2 = wait.2) :
    other = wait :=
  List.inj_on_of_nodup_map hstaffed.nodup hother hwait htask

section Turns

variable (hstaffed : work.Staffed) (hturn : work.Turn now act next)

theorem enact_start {pool : Pool σ} {task : Task σ}
    (hstart : work.pool.start? = some (pool, some task)) (now : Nat) :
    work.pool.enact now .start = (pool, [.took task.id, .started task.id]) := by
  simp only [enact, employ, hstart]

include hstaffed

theorem enact_pause {wait : Nat} (hwaits : (wait, id) ∈ work.waits)
    (hopen : work.pool.isShutdown = false) (now : Nat) :
    work.pool.enact now (.resume id none) = (work.pool, [.resumed id]) := by
  have hrunning := hstaffed.running _ hwaits
  simp only [enact, resume, hopen, hrunning, Bool.false_eq_true, if_false, if_true]

theorem enact_return {wait : Nat} (hwaits : (wait, id) ∈ work.waits)
    (hopen : work.pool.isShutdown = false) (now : Nat) :
    work.pool.enact now (.resume id (some .returns)) =
      (work.pool.finish now id, [.resumed id, .ended id .returns, .released id]) := by
  have hrunning := hstaffed.running _ hwaits
  simp only [enact, resume, hopen, hrunning, Bool.false_eq_true, if_false, if_true]

include hturn

theorem Turn.pool_eq : next.pool = (work.pool.enact now act).1 := by
  cases hturn with
  | quiet | isCut => rfl
  | starts wait hstart => rw [enact_start hstart]
  | resumes next hwaits hopen => rw [enact_pause hstaffed hwaits hopen]
  | ends hwaits hopen => rw [enact_return hstaffed hwaits hopen]

theorem Turn.nodup : (next.waits.map Prod.snd).Nodup := by
  have hrest (p : Nat × Nat → Bool) : ((work.waits.filter p).map Prod.snd).Nodup :=
    hstaffed.nodup.sublist (List.filter_sublist.map _)
  cases hturn with
  | quiet => exact hstaffed.nodup
  | ends | isCut => exact hrest _
  | starts wait hstart =>
    obtain ⟨rest, hqueue, -⟩ := start?_some_cases hstart
    rw [List.map_append, List.nodup_append]
    refine ⟨hstaffed.nodup, List.nodup_singleton _, ?_⟩
    rintro id hold other hnew rfl
    obtain ⟨other, hother, hid⟩ := List.mem_map.1 hold
    have hidle := hstaffed.reachable.orderly.not_mem_queue (hstaffed.running other hother)
    rw [hid, List.mem_singleton.1 hnew, hqueue] at hidle
    exact hidle List.mem_cons_self
  | @resumes wait id fresh hwaits hopen =>
    rw [List.map_append, List.nodup_append]
    refine ⟨hrest _, List.nodup_singleton _, ?_⟩
    rintro other hold task hnew rfl
    obtain ⟨kept, hkept, hid⟩ := List.mem_map.1 hold
    obtain ⟨hmem, hne⟩ := List.mem_filter.1 hkept
    obtain rfl := hstaffed.eq_of_task hwaits hmem (hid.trans (List.mem_singleton.1 hnew))
    exact of_decide_eq_true hne rfl

theorem Turn.running : ∀ wait ∈ next.waits, next.pool.isRunning wait.2 = true := by
  have horderly := hstaffed.reachable.orderly
  have hstays {other : Nat × Nat} (hother : other ∈ work.waits)
      (htold : ∀ event ∈ (work.pool.enact now act).2, event.run? = some other.2 →
        event = .resumed other.2) : next.pool.isRunning other.2 = true := by
    rw [hturn.pool_eq hstaffed]
    exact horderly.isRunning_enact (hstaffed.running other hother) now act htold
  intro other hother
  cases hturn with
  | quiet _ hquiet =>
    refine hstays hother fun event hevent hrun => ?_
    rw [hquiet event hevent] at hrun
    exact absurd hrun.symm (Option.some_ne_none _)
  | @starts wait pool task hstart =>
    rcases List.mem_append.1 hother with hold | hnew
    · have hidle := horderly.not_mem_queue (hstaffed.running other hold)
      obtain ⟨rest, hqueue, -⟩ := start?_some_cases hstart
      refine hstays hold fun event hevent hrun => ?_
      rw [enact_start hstart] at hevent
      rcases List.mem_cons.1 hevent with rfl | hevent
      · exact absurd hrun.symm (Option.some_ne_none _)
      · obtain rfl := List.mem_singleton.1 hevent
        rw [← Option.some.inj hrun, hqueue] at hidle
        exact absurd List.mem_cons_self hidle
    · obtain rfl := List.mem_singleton.1 hnew
      refine (horderly.continues_start? hstart).orderly.isRunning_iff.2 ⟨task.badge, ?_, rfl⟩
      exact (horderly.crew_start?_some hstart).mem_iff.2 List.mem_cons_self
  | @resumes wait id fresh hwaits hopen =>
    rcases List.mem_append.1 hother with hold | hnew
    · exact hstaffed.running other (List.mem_of_mem_filter hold)
    · obtain rfl := List.mem_singleton.1 hnew
      exact hstaffed.running (wait, id) hwaits
  | @ends wait id hwaits hopen =>
    obtain ⟨hmem, hne⟩ := List.mem_filter.1 hother
    refine hstays hmem fun event hevent hrun => ?_
    have hid : id ≠ other.2 := fun hid =>
      of_decide_eq_true hne (congrArg Prod.fst (hstaffed.eq_of_task hwaits hmem hid.symm))
    rw [enact_return hstaffed hwaits hopen] at hevent
    simp only [List.mem_cons, List.not_mem_nil, or_false] at hevent
    rcases hevent with rfl | rfl | rfl
    · exact absurd (Option.some.inj hrun) hid
    · exact absurd (Option.some.inj hrun) hid
    · exact absurd hrun.symm (Option.some_ne_none _)
  | isCut id hclosed =>
    obtain ⟨hmem, hne⟩ := List.mem_filter.1 hother
    refine hstays hmem fun event hevent hrun => ?_
    exact absurd (run?_of_mem_notice hevent hrun) (of_decide_eq_true hne)

/-- Every turn keeps runs and waits together. -/
theorem Turn.staffed : next.Staffed :=
  ⟨hturn.pool_eq hstaffed ▸ hstaffed.reachable.enact now act, hturn.nodup hstaffed,
    hturn.running hstaffed⟩

end Turns

/-! ## Rows of turns -/

/-- A row of turns is a row of acts, and the runs go on to be those that wait. -/
theorem Staffed.row {acts : List (Nat × Act σ)} (hstaffed : work.Staffed)
    (hrow : work.Row acts next) : next.Staffed ∧ next.pool = work.pool.after acts := by
  induction hrow with
  | nil => exact ⟨hstaffed, rfl⟩
  | cons now hturn _ ih =>
    obtain ⟨hnext, hpool⟩ := ih (hturn.staffed hstaffed)
    exact ⟨hnext, by rw [hpool, hturn.pool_eq hstaffed]; rfl⟩

/-- Numbers are not given out again. -/
theorem Staffed.next_le_row {acts : List (Nat × Act σ)} (hstaffed : work.Staffed)
    (hrow : work.Row acts next) : work.pool.next ≤ next.pool.next := by
  rw [(hstaffed.row hrow).2]
  exact after_of_enact (P := fun pool => work.pool.next ≤ pool.next)
    (fun pool now act h => Nat.le_trans h (pool.deed_enact now act).marked.next) (Nat.le_refl _) acts

/-- What tells nothing of runs leaves those who wait alone. -/
theorem Staffed.row_of_idles {pool : Pool σ} (hstaffed : work.Staffed)
    (hidles : work.pool.Idles pool) : ∃ acts, work.Row acts ⟨pool, work.waits⟩ := by
  obtain ⟨acts, rfl, hacts, hquiet⟩ := hidles hstaffed.reachable.orderly
  refine ⟨acts, ?_⟩
  clear hidles hstaffed
  induction acts generalizing work with
  | nil => exact .nil work
  | cons entry acts ih =>
    rw [List.forall_mem_cons] at hacts
    rw [history, List.forall_mem_append] at hquiet
    exact .cons entry.1 (.quiet hacts.1 hquiet.1) (ih hacts.2 hquiet.2)

theorem Staffed.isShutdown_row {acts : List (Nat × Act σ)} (hstaffed : work.Staffed)
    (hrow : work.Row acts next) : next.pool.isShutdown = work.pool.isShutdown := by
  induction hrow with
  | nil => rfl
  | @cons work middle last now act acts hturn _ ih =>
    rw [ih (hturn.staffed hstaffed), hturn.pool_eq hstaffed]
    refine work.pool.isShutdown_enact now ?_
    cases hturn with
    | quiet hact => exact hact
    | starts | resumes | ends | isCut => simp

/-- Shutting down only marks the pool. -/
theorem Staffed.close (hstaffed : work.Staffed) : { work with pool := work.pool.close }.Staffed where
  reachable := hstaffed.reachable.enact 0 .close
  nodup := hstaffed.nodup
  running := hstaffed.running

end AtWork

end Pool

end RegistrySession
