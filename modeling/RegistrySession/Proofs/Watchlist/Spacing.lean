import Mathlib.Data.List.Perm.Subperm
import RegistrySession.Proofs.Watchlist.Rota

/-!
# How runs keep apart

Every run in the middle of its fetch is one of a task that is running, so a task has one such run at
most, and all of them together are no more than the workers.  Runs of one key come from different
tasks: the one that goes on and those that were cancelled in the middle of a run.  If a request is
given up before a new task first wakes up, the runs of cancelled tasks are over by then.
-/

namespace RegistrySession.Watch

variable {watch next : Watch}

/-- Every run is one of a task that is running. -/
structure Manned (watch : Watch) : Prop where
  tended : watch.rota.Tended
  tasks : (watch.runs.map Run.task).Nodup
  crew : ∀ run ∈ watch.runs, (run.task, run.key) ∈ watch.rota.pool.crew

/-- No two runs are of one key, and where a run is in the middle of its fetch, another task that
refreshes the key sleeps until the fetch is over. -/
structure Spaced (watch : Watch) : Prop where
  punctual : ∀ run ∈ watch.runs, watch.now ≤ run.deadline
  bounded : ∀ run ∈ watch.runs, run.deadline ≤ watch.timeout.after watch.now
  distinct : (watch.runs.map Run.key).Nodup
  asleep : ∀ run ∈ watch.runs, ∀ task ∈ watch.rota.pool.tasks,
    watch.rota.pool.isCancelled task.id = false → task.job = run.key → task.id ≠ run.task →
      ∃ wakeUp, task.phase = .sleeping wakeUp ∧ run.deadline < wakeUp

/-! ## Runs and tasks -/

theorem Manned.mem_tasks (hmanned : watch.Manned) {run : Run} (hrun : run ∈ watch.runs) :
    ∃ task ∈ watch.rota.pool.tasks, task.phase = .running ∧ task.id = run.task ∧
      task.job = run.key := by
  obtain ⟨task, htask, hphase, hbadge⟩ := Pool.mem_crew.1 (hmanned.crew run hrun)
  exact ⟨task, htask, hphase, congrArg Prod.fst hbadge, congrArg Prod.snd hbadge⟩

/-- A run fetches for the key that its task has. -/
theorem Manned.job_eq (hmanned : watch.Manned) {run : Run} (hrun : run ∈ watch.runs)
    {task : Task Key} (htask : task ∈ watch.rota.pool.tasks) (hid : task.id = run.task) :
    task.phase = .running ∧ task.job = run.key := by
  obtain ⟨other, hother, hphase, hotherId, hjob⟩ := hmanned.mem_tasks hrun
  obtain rfl := List.inj_on_of_nodup_map hmanned.tended.orderly.nodup htask hother
    (hid.trans hotherId.symm)
  exact ⟨hphase, hjob⟩

/-- There are no more runs than workers. -/
theorem Manned.length_runs_le (hmanned : watch.Manned) :
    watch.runs.length ≤ watch.rota.pool.workers := by
  have hbadges : (watch.runs.map fun run => (run.task, run.key)).Nodup := by
    refine List.Nodup.of_map Prod.fst ?_
    rw [List.map_map]
    exact hmanned.tasks
  have hcrew : (watch.runs.map fun run => (run.task, run.key)) ⊆ watch.rota.pool.crew := by
    intro badge hbadge
    obtain ⟨run, hrun, rfl⟩ := List.mem_map.1 hbadge
    exact hmanned.crew run hrun
  have hlength := (hbadges.subperm hcrew).length_le
  rw [List.length_map] at hlength
  exact Nat.le_trans hlength hmanned.tended.orderly.staffed

/-- Of the tasks that go on only one refreshes a key. -/
theorem Manned.eq_of_goesOn (hmanned : watch.Manned) {task other : Task Key}
    (htask : task ∈ watch.rota.pool.tasks) (hother : other ∈ watch.rota.pool.tasks)
    (hgoesOn : watch.rota.pool.isCancelled task.id = false)
    (hotherGoesOn : watch.rota.pool.isCancelled other.id = false) (hjob : task.job = other.job) :
    task.id = other.id := by
  have hopen : watch.rota.pool.isShutdown = false := (Bool.or_eq_false_iff.1 hgoesOn).1
  have hroster := hmanned.tended.roster hopen
  have hfound := (hroster task.badge).1 (Pool.mem_roster.2 ⟨⟨task, htask, rfl⟩, hgoesOn⟩)
  have hotherFound :=
    (hroster other.badge).1 (Pool.mem_roster.2 ⟨⟨other, hother, rfl⟩, hotherGoesOn⟩)
  exact Option.some.inj (hfound.symm.trans ((congrArg _ hjob).trans hotherFound))

/-- Only one run of a key is one of a task that goes on. -/
theorem Manned.nodup_keys (hmanned : watch.Manned) :
    ((watch.runs.filter fun run => !watch.rota.pool.isCancelled run.task).map Run.key).Nodup := by
  refine (List.nodup_map_iff_inj_on ?_).2 ?_
  · exact (List.Nodup.of_map Run.task hmanned.tasks).filter _
  · intro run hrun other hother hkey
    obtain ⟨hrun, hgoesOn⟩ := List.mem_filter.1 hrun
    obtain ⟨hother, hotherGoesOn⟩ := List.mem_filter.1 hother
    obtain ⟨task, htask, -, hid, hjob⟩ := hmanned.mem_tasks hrun
    obtain ⟨found, hfound, -, hfoundId, hfoundJob⟩ := hmanned.mem_tasks hother
    rw [← hid, Bool.not_eq_true'] at hgoesOn
    rw [← hfoundId, Bool.not_eq_true'] at hotherGoesOn
    have hsame := hmanned.eq_of_goesOn htask hfound hgoesOn hotherGoesOn
      (hjob.trans (hkey.trans hfoundJob.symm))
    exact List.inj_on_of_nodup_map hmanned.tasks hrun hother
      (hid.symm.trans (hsame.trans hfoundId))

/-- A task that starts a run has none in the middle of its fetch. -/
theorem Manned.ne_of_idle (hmanned : watch.Manned) {run : Run} (hrun : run ∈ watch.runs)
    {task : Task Key} (htask : task ∈ watch.rota.pool.tasks) (hidle : task.phase ≠ .running) :
    run.task ≠ task.id :=
  fun h => hidle (hmanned.job_eq hrun htask h.symm).1

/-! ## One turn -/

section Turns

variable {started : Option (Task Key)} {pool : Pool Key}

theorem Manned.start (hmanned : watch.Manned) {task : Task Key} {flight : Nat}
    (hstart : watch.rota.pool.start? = some (pool, some task)) :
    { watch.setPool pool with runs := watch.runs ++ [watch.run flight task] }.Manned := by
  have horderly := hmanned.tended.orderly
  have hcrew := horderly.crew_start?_some hstart
  constructor
  case tended => exact hmanned.tended.setPool (horderly.continues_start? hstart)
  case tasks =>
    obtain ⟨id, rest, hqueue, -, ⟨hnone, -⟩ | ⟨found, htask, hfound, rfl, -⟩⟩ :=
      Pool.start?_cases hstart
    · exact nomatch hnone
    · obtain rfl := Option.some.inj hfound
      have hphase := horderly.queued task htask (hqueue ▸ List.mem_cons_self)
      rw [List.map_append, List.nodup_append]
      refine ⟨hmanned.tasks, List.nodup_singleton _, ?_⟩
      intro old hold new hnew
      obtain ⟨run, hrun, rfl⟩ := List.mem_map.1 hold
      obtain rfl := List.mem_singleton.1 hnew
      exact hmanned.ne_of_idle hrun htask (hphase ▸ nofun)
  case crew =>
    intro run hrun
    change (run.task, run.key) ∈ pool.crew
    rw [hcrew.mem_iff, List.mem_cons]
    rcases List.mem_append.1 hrun with hold | hnew
    · exact .inr (hmanned.crew run hold)
    · obtain rfl := List.mem_singleton.1 hnew
      exact .inl rfl

theorem Manned.finish (hmanned : watch.Manned) {run : Run} (hrun : run ∈ watch.runs) :
    { watch.setPool (watch.rota.pool.finish watch.now run.task) with
      runs := watch.runs.filter fun other => other.flight ≠ run.flight }.Manned := by
  have horderly := hmanned.tended.orderly
  constructor
  case tended => exact hmanned.tended.setPool (horderly.continues_finish watch.now run.task)
  case tasks => exact (List.filter_sublist.map _).nodup hmanned.tasks
  case crew =>
    intro other hother
    obtain ⟨hother, hflight⟩ := List.mem_filter.1 hother
    change (other.task, other.key) ∈ (watch.rota.pool.finish watch.now run.task).crew
    rw [horderly.crew_finish]
    refine List.mem_filter.2 ⟨hmanned.crew other hother, decide_eq_true fun hsame => ?_⟩
    obtain rfl := List.inj_on_of_nodup_map hmanned.tasks hother hrun hsame
    exact of_decide_eq_true hflight rfl

/-- Every turn keeps runs with tasks that run. -/
theorem Turn.manned (hturn : watch.Turn next) (hmanned : watch.Manned) : next.Manned := by
  have htended := hturn.tended hmanned.tended
  have horderly := hmanned.tended.orderly
  have hcrew : ∀ pool : Pool Key, pool.crew = watch.rota.pool.crew →
      ∀ run ∈ watch.runs, (run.task, run.key) ∈ pool.crew :=
    fun pool hsame run hrun => hsame ▸ hmanned.crew run hrun
  cases hturn with
  | rest runs hruns =>
    exact ⟨htended, (hruns.map _).nodup hmanned.tasks,
      fun run hrun => hmanned.crew run (hruns.subset hrun)⟩
  | wake task => exact ⟨htended, hmanned.tasks, hcrew _ (horderly.crew_wake watch.now task)⟩
  | skip pool hstart =>
    exact ⟨htended, hmanned.tasks, hcrew _ (horderly.crew_start?_none hstart)⟩
  | start pool task flight hstart => exact hmanned.start hstart
  | finish run hrun => exact hmanned.finish hrun
  | listen | forget => exact ⟨htended, hmanned.tasks, hmanned.crew⟩
  | assign key pool task hfree hschedule =>
    exact ⟨htended, hmanned.tasks, hcrew _ (Pool.crew_schedule? hschedule)⟩
  | dismiss key task hassigned =>
    exact ⟨htended, hmanned.tasks, hcrew _ (horderly.crew_cancel task)⟩
  | shutdown => exact ⟨htended, List.nodup_nil, nofun⟩

/-- Fewer runs and fewer tasks are as far apart as before. -/
theorem Spaced.mono (hspaced : watch.Spaced) (hnow : next.now = watch.now)
    (htimeout : next.timeout = watch.timeout) (hruns : next.runs.Sublist watch.runs)
    (htasks : ∀ run ∈ next.runs, ∀ task ∈ next.rota.pool.tasks,
      next.rota.pool.isCancelled task.id = false → task.job = run.key → task.id ≠ run.task →
        task ∈ watch.rota.pool.tasks ∧ watch.rota.pool.isCancelled task.id = false) :
    next.Spaced := by
  constructor
  case punctual =>
    rw [hnow]
    exact fun run hrun => hspaced.punctual run (hruns.subset hrun)
  case bounded =>
    rw [hnow, htimeout]
    exact fun run hrun => hspaced.bounded run (hruns.subset hrun)
  case distinct => exact (hruns.map _).nodup hspaced.distinct
  case asleep =>
    intro run hrun task htask hgoesOn hjob hid
    obtain ⟨hold, hgoesOnOld⟩ := htasks run hrun task htask hgoesOn hjob hid
    exact hspaced.asleep run (hruns.subset hrun) task hold hgoesOnOld hjob hid

/-- Where a run is in the middle of its fetch, no other task of its key is up. -/
theorem Spaced.id_eq_of_up (hspaced : watch.Spaced) {run : Run} (hrun : run ∈ watch.runs)
    {task : Task Key} (htask : task ∈ watch.rota.pool.tasks)
    (hgoesOn : watch.rota.pool.isCancelled task.id = false) (hjob : task.job = run.key)
    (hup : ∀ wakeUp, task.phase = .sleeping wakeUp → wakeUp ≤ watch.now) : task.id = run.task := by
  by_contra hid
  obtain ⟨wakeUp, hphase, hlater⟩ := hspaced.asleep run hrun task htask hgoesOn hjob hid
  have hwakeUp := hup wakeUp hphase
  have hdeadline := hspaced.punctual run hrun
  omega

/-- A change of one task that is up keeps the runs apart. -/
theorem Spaced.setPhase (hspaced : watch.Spaced) (horderly : watch.rota.pool.Orderly)
    {up : Task Key} (hup : up ∈ watch.rota.pool.tasks)
    (hawake : ∀ wakeUp, up.phase = .sleeping wakeUp → wakeUp ≤ watch.now) {runs : List Run}
    (hruns : runs.Sublist watch.runs) (hself : ∀ run ∈ runs, up.id ≠ run.task)
    {pool : Pool Key} {phase : Phase} (hpool : pool.tasks = (watch.rota.pool.setPhase up.id phase).tasks)
    (hcancelled : ∀ id, pool.isCancelled id = watch.rota.pool.isCancelled id) :
    { watch.setPool pool with runs }.Spaced := by
  refine hspaced.mono rfl rfl hruns fun run hrun task htask hgoesOn hjob hid => ?_
  change task ∈ pool.tasks at htask
  change pool.isCancelled task.id = false at hgoesOn
  rw [hpool] at htask
  rw [hcancelled] at hgoesOn
  obtain ⟨old, hold, hbadge, hsame⟩ := Pool.exists_of_mem_setPhase htask
  obtain ⟨holdId, holdJob⟩ := Prod.mk.inj hbadge
  by_cases hchanged : task.id = up.id
  · obtain rfl := List.inj_on_of_nodup_map horderly.nodup hold hup (holdId.trans hchanged)
    have hown := hspaced.id_eq_of_up (hruns.subset hrun) hold (holdId ▸ hgoesOn)
      (holdJob.trans hjob) hawake
    exact absurd hown (hself run hrun)
  · exact ⟨hsame hchanged ▸ hold, hgoesOn⟩

theorem Spaced.wake (hspaced : watch.Spaced) (hmanned : watch.Manned) (id : Nat) :
    (watch.setPool (watch.rota.pool.wake watch.now id)).Spaced := by
  rcases watch.rota.pool.wake_cases watch.now id with
    hwake | ⟨⟨sleeper, hsleeper, rfl, wakeUp, hphase, hdue⟩, hwake⟩
  · rw [hwake]
    exact hspaced
  · have htasks : (watch.rota.pool.wake watch.now sleeper.id).tasks =
        (watch.rota.pool.setPhase sleeper.id .queued).tasks := by rw [hwake]
    refine hspaced.setPhase hmanned.tended.orderly hsleeper ?_ (.refl _) ?_ htasks fun other => ?_
    · intro other hother
      obtain rfl := Phase.sleeping.inj (hphase.symm.trans hother)
      exact hdue
    · exact fun run hrun => (hmanned.ne_of_idle hrun hsleeper (hphase ▸ nofun)).symm
    · rw [hwake]
      rfl

theorem Spaced.finish (hspaced : watch.Spaced) (hmanned : watch.Manned) {run : Run}
    (hrun : run ∈ watch.runs) :
    { watch.setPool (watch.rota.pool.finish watch.now run.task) with
      runs := watch.runs.filter fun other => other.flight ≠ run.flight }.Spaced := by
  rcases watch.rota.pool.finish_cases watch.now run.task with
    ⟨hfinish, -⟩ | ⟨task, htask, hid, hphase, ⟨-, hfinish⟩ | ⟨-, hfinish⟩⟩
  · rw [hfinish]
    exact hspaced.mono rfl rfl List.filter_sublist fun _ _ _ h hgoesOn _ _ => ⟨h, hgoesOn⟩
  · rw [hfinish]
    exact hspaced.mono rfl rfl List.filter_sublist fun _ _ _ h hgoesOn _ _ =>
      ⟨List.mem_of_mem_filter h, hgoesOn⟩
  · rw [← hid] at hfinish ⊢
    refine hspaced.setPhase hmanned.tended.orderly htask ?_ List.filter_sublist ?_
      (congrArg Pool.tasks hfinish) (fun _ => by rw [hfinish]; rfl)
    · exact fun wakeUp hsleeping => nomatch hphase.symm.trans hsleeping
    · intro other hother hsame
      obtain ⟨hother, hflight⟩ := List.mem_filter.1 hother
      obtain rfl := List.inj_on_of_nodup_map hmanned.tasks hother hrun (hsame.symm.trans hid)
      exact of_decide_eq_true hflight rfl

theorem Spaced.start (hspaced : watch.Spaced) (hmanned : watch.Manned) {task : Task Key}
    {flight : Nat} (hstart : watch.rota.pool.start? = some (pool, some task)) :
    { watch.setPool pool with runs := watch.runs ++ [watch.run flight task] }.Spaced := by
  have horderly := hmanned.tended.orderly
  obtain ⟨id, rest, hqueue, -, ⟨hnone, -⟩ | ⟨found, htask, hfound, rfl, hgoesOn, hpool⟩⟩ :=
    Pool.start?_cases hstart
  · exact nomatch hnone
  · obtain rfl := Option.some.inj hfound
    have hphase := horderly.queued task htask (hqueue ▸ List.mem_cons_self)
    have hup : ∀ wakeUp, task.phase = .sleeping wakeUp → wakeUp ≤ watch.now :=
      fun wakeUp hsleeping => nomatch hphase.symm.trans hsleeping
    have hself : ∀ run ∈ watch.runs, task.id ≠ run.task :=
      fun run hrun => (hmanned.ne_of_idle hrun htask (hphase ▸ nofun)).symm
    have hcancelled : ∀ other, pool.isCancelled other = watch.rota.pool.isCancelled other :=
      fun _ => by rw [hpool]; rfl
    have htasks : pool.tasks = (watch.rota.pool.setPhase task.id .running).tasks := by
      rw [hpool]
      rfl
    have hold : { watch.setPool pool with runs := watch.runs }.Spaced :=
      hspaced.setPhase horderly htask hup (.refl _) hself htasks hcancelled
    constructor
    case punctual =>
      intro run hrun
      rcases List.mem_append.1 hrun with hrun | hrun
      · exact hold.punctual run hrun
      · obtain rfl := List.mem_singleton.1 hrun
        exact Millis.le_after _ _
    case bounded =>
      intro run hrun
      rcases List.mem_append.1 hrun with hrun | hrun
      · exact hold.bounded run hrun
      · obtain rfl := List.mem_singleton.1 hrun
        exact Nat.le_refl _
    case distinct =>
      rw [List.map_append, List.nodup_append]
      refine ⟨hspaced.distinct, List.nodup_singleton _, ?_⟩
      intro key hkey new hnew hsame
      obtain ⟨run, hrun, rfl⟩ := List.mem_map.1 hkey
      obtain rfl := List.mem_singleton.1 hnew
      exact hself run hrun (hspaced.id_eq_of_up hrun htask hgoesOn hsame.symm hup)
    case asleep =>
      intro run hrun other hother hotherGoesOn hjob hid
      rcases List.mem_append.1 hrun with hrun | hrun
      · exact hold.asleep run hrun other hother hotherGoesOn hjob hid
      · obtain rfl := List.mem_singleton.1 hrun
        -- The task that starts is the only one that goes on for its key.
        change other ∈ pool.tasks at hother
        change pool.isCancelled other.id = false at hotherGoesOn
        rw [htasks] at hother
        obtain ⟨before, hbefore, hbadge, -⟩ := Pool.exists_of_mem_setPhase hother
        obtain ⟨hbeforeId, hbeforeJob⟩ := Prod.mk.inj hbadge
        rw [hcancelled, ← hbeforeId] at hotherGoesOn
        exact absurd (hbeforeId.symm.trans (hmanned.eq_of_goesOn hbefore htask hotherGoesOn hgoesOn
          (hbeforeJob.trans hjob))) hid

/-- A task that is new starts too late to meet a run of the one before. -/
theorem Spaced.assign (hspaced : watch.Spaced)
    (hgivenUp : watch.timeout.after watch.now < watch.rota.interval.after watch.now) {key : Key}
    {id : Nat}
    (hschedule : watch.rota.pool.schedule? watch.now watch.rota.interval watch.rota.interval key =
      some (pool, id)) :
    { watch with rota := (watch.rota.assign key pool id).listen key true }.Spaced := by
  obtain ⟨-, -, hpool⟩ := Pool.schedule?_cases hschedule
  refine ⟨hspaced.punctual, hspaced.bounded, hspaced.distinct, ?_⟩
  intro run hrun task htask hgoesOn hjob hid
  change task ∈ pool.tasks at htask
  change pool.isCancelled task.id = false at hgoesOn
  rw [hpool] at htask hgoesOn
  rcases List.mem_append.1 htask with hold | hnew
  · exact hspaced.asleep run hrun task hold hgoesOn hjob hid
  · obtain rfl := List.mem_singleton.1 hnew
    exact ⟨_, rfl, Nat.lt_of_le_of_lt (hspaced.bounded run hrun) hgivenUp⟩

/-- A request that goes out is given up before a task that is scheduled at the same time wakes
up. -/
theorem Turn.spaced (hturn : watch.Turn next) (hmanned : watch.Manned) (hspaced : watch.Spaced)
    (hgivenUp : watch.timeout.after watch.now < watch.rota.interval.after watch.now) :
    next.Spaced := by
  cases hturn with
  | rest runs hruns => exact hspaced.mono rfl rfl hruns fun _ _ _ h hgoesOn _ _ => ⟨h, hgoesOn⟩
  | wake task => exact hspaced.wake hmanned task
  | skip pool hstart =>
    obtain ⟨id, rest, -, -, ⟨-, -, rfl⟩ | ⟨found, -, hsome, -⟩⟩ := Pool.start?_cases hstart
    · exact hspaced.mono rfl rfl (.refl _) fun _ _ _ h hgoesOn _ _ =>
        ⟨List.mem_of_mem_filter h, hgoesOn⟩
    · exact nomatch hsome
  | start pool task flight hstart => exact hspaced.start hmanned hstart
  | finish run hrun => exact hspaced.finish hmanned hrun
  | listen | forget =>
    exact hspaced.mono rfl rfl (.refl _) fun _ _ _ h hgoesOn _ _ => ⟨h, hgoesOn⟩
  | assign key pool task hfree hschedule => exact hspaced.assign hgivenUp hschedule
  | dismiss key task hassigned =>
    refine hspaced.mono rfl rfl (.refl _) fun run _ other hother hgoesOn _ _ => ?_
    change other ∈ (watch.rota.pool.cancel task).tasks at hother
    change (watch.rota.pool.cancel task).isCancelled other.id = false at hgoesOn
    rw [Pool.isCancelled_cancel, Bool.or_eq_false_iff] at hgoesOn
    exact ⟨(watch.rota.pool.tasks_cancel_sublist task).subset hother, hgoesOn.1⟩
  | shutdown =>
    exact ⟨nofun, nofun, List.nodup_nil, nofun⟩

/-- Time that passes before any fetch has to be over leaves the runs apart. -/
theorem Spaced.elapse (hspaced : watch.Spaced) {span : Millis}
    (hpunctual : ∀ run ∈ watch.runs, watch.now + span ≤ run.deadline) :
    { watch with now := watch.now + span }.Spaced where
  punctual := hpunctual
  bounded run hrun := by
    have hbounded := hspaced.bounded run hrun
    simp only [Millis.after] at hbounded ⊢
    omega
  distinct := hspaced.distinct
  asleep := hspaced.asleep

/-- The timeout of a request, the interval between runs and the number of workers. -/
def settings (watch : Watch) : Millis × Millis × Nat :=
  (watch.timeout, watch.rota.interval, watch.rota.pool.workers)

theorem Turn.settings_eq (hturn : watch.Turn next) (horderly : watch.rota.pool.Orderly) :
    next.settings = watch.settings := by
  have hpool : ∀ pool : Pool Key, pool.workers = watch.rota.pool.workers →
      (watch.timeout, watch.rota.interval, pool.workers) = watch.settings :=
    fun pool hworkers => congrArg (watch.timeout, watch.rota.interval, ·) hworkers
  cases hturn with
  | rest | listen | forget => rfl
  | wake task => exact hpool _ (horderly.continues_wake _ task).workers
  | skip pool hstart | start pool task flight hstart =>
    exact hpool _ (horderly.continues_start? hstart).workers
  | finish run hrun => exact hpool _ (horderly.continues_finish _ run.task).workers
  | assign key pool task hfree hschedule =>
    obtain ⟨-, -, rfl⟩ := Pool.schedule?_cases hschedule
    rfl
  | dismiss key task hassigned => exact hpool _ (watch.rota.pool.workers_cancel task)
  | shutdown => rfl

end Turns

/-! ## Rows of turns -/

theorem manned_of_turns (hturns : Relation.ReflTransGen Turn watch next)
    (hmanned : watch.Manned) : next.Manned ∧ next.settings = watch.settings := by
  induction hturns with
  | refl => exact ⟨hmanned, rfl⟩
  | tail _ hturn ih =>
    obtain ⟨hmiddle, hsettings⟩ := ih
    exact ⟨hturn.manned hmiddle,
      (hturn.settings_eq hmiddle.tended.orderly).trans hsettings⟩

/-- Longer spans end later, up to the longest one. -/
theorem after_lt_after_iff (span other : Millis) (now : Nat) :
    span.after now < other.after now ↔ min span Millis.longest < min other Millis.longest := by
  rw [Millis.after, Millis.after, Nat.add_lt_add_iff_left]

/-- Runs for a key stay apart, whatever turns are taken. -/
theorem spaced_of_turns (hturns : Relation.ReflTransGen Turn watch next) (hmanned : watch.Manned)
    (hspaced : watch.Spaced)
    (hgivenUp : watch.timeout.after 0 < watch.rota.interval.after 0) : next.Spaced := by
  induction hturns with
  | refl => exact hspaced
  | tail hturns hturn ih =>
    obtain ⟨hmiddle, hsettings⟩ := manned_of_turns hturns hmanned
    obtain ⟨htimeout, hinterval, -⟩ := Prod.mk.inj hsettings |>.imp_right Prod.mk.inj
    refine hturn.spaced hmiddle ih ?_
    rw [htimeout, hinterval, after_lt_after_iff, ← after_lt_after_iff _ _ 0]
    exact hgivenUp

end RegistrySession.Watch
