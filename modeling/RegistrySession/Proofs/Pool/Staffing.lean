import Mathlib.Data.List.Nodup
import RegistrySession.Proofs.Pool.Activity

/-!
# Workers are never lost

Workers are handed out by a book that knows how many are free and which tasks have one.  It only
lets a task take a worker if one is free and the task has none, start one run with it, and give it
back when that run is over, or without a run.  Whatever a pool does is an entry that the book
accepts, and between acts the tasks with a worker are those in the middle of a run.
-/

namespace RegistrySession

universe u

namespace Pool

/-- How far a task is that has a worker: before its run, in it, or behind it. -/
inductive Stage
  | fresh
  | busy
  | spent
  deriving DecidableEq

structure Book where
  free : Nat
  /-- The tasks that have a worker. -/
  held : List (Nat × Stage)
  deriving DecidableEq

namespace Book

def ofWorkers (workers : Nat) : Book where
  free := workers
  held := []

def take? (book : Book) (id : Nat) : Option Book :=
  if 0 < book.free ∧ id ∉ book.held.map Prod.fst then
    some { free := book.free - 1, held := (id, .fresh) :: book.held }
  else none

/-- A task comes from one stage to the next. -/
def advance? (book : Book) (id : Nat) (stage next : Stage) : Option Book :=
  if (id, stage) ∈ book.held then
    some { book with held := (id, next) :: book.held.erase (id, stage) }
  else none

def giveBack? (book : Book) (id : Nat) (stage : Stage) : Option Book :=
  if (id, stage) ∈ book.held then
    some { free := book.free + 1, held := book.held.erase (id, stage) }
  else none

/-- The book after an event, or nothing if it does not allow it. -/
def enter? (book : Book) : Event → Option Book
  | .took id => book.take? id
  | .started id => book.advance? id .fresh .busy
  | .resumed id => book.advance? id .busy .busy
  | .ended id _ => book.advance? id .busy .spent
  | .cut id => book.advance? id .busy .spent
  | .released id => (book.giveBack? id .fresh).or (book.giveBack? id .spent)

def enterAll? (book : Book) (events : List Event) : Option Book :=
  events.foldlM enter? book

def busy (book : Book) : List (Nat × Stage) :=
  book.held.filter fun entry => entry.2 = .busy

/-- No worker is missing, and no task has two. -/
structure Balanced (workers : Nat) (book : Book) : Prop where
  total : book.free + book.held.length = workers
  nodup : (book.held.map Prod.fst).Nodup

section Balance

variable {workers : Nat} {book next : Book} {id : Nat} {stage new : Stage}

theorem balanced_ofWorkers (workers : Nat) : (ofWorkers workers).Balanced workers :=
  ⟨Nat.add_zero workers, List.nodup_nil⟩

/-- Once its worker is given back, a task has none. -/
theorem not_mem_erase (h : (book.held.map Prod.fst).Nodup) (hmem : (id, stage) ∈ book.held) :
    id ∉ (book.held.erase (id, stage)).map Prod.fst := by
  have hperm := (List.perm_cons_erase hmem).map Prod.fst
  exact (List.nodup_cons.1 (hperm.nodup_iff.1 h)).1

theorem Balanced.take? (h : book.Balanced workers) (hnext : book.take? id = some next) :
    next.Balanced workers := by
  obtain ⟨⟨hfree, hid⟩, hbook⟩ := Option.ite_none_right_eq_some.1 hnext
  obtain rfl := Option.some.inj hbook
  constructor
  · have htotal := h.total
    simp only [List.length_cons]
    omega
  · exact List.nodup_cons.2 ⟨hid, h.nodup⟩

theorem Balanced.advance? (h : book.Balanced workers)
    (hnext : book.advance? id stage new = some next) : next.Balanced workers := by
  obtain ⟨hmem, hbook⟩ := Option.ite_none_right_eq_some.1 hnext
  obtain rfl := Option.some.inj hbook
  have hperm := List.perm_cons_erase hmem
  constructor
  · rw [← h.total, hperm.length_eq]
    rfl
  · exact (hperm.map Prod.fst).nodup_iff.1 h.nodup

theorem Balanced.giveBack? (h : book.Balanced workers)
    (hnext : book.giveBack? id stage = some next) : next.Balanced workers := by
  obtain ⟨hmem, hbook⟩ := Option.ite_none_right_eq_some.1 hnext
  obtain rfl := Option.some.inj hbook
  have hperm := List.perm_cons_erase hmem
  constructor
  · have hlength := hperm.length_eq
    rw [List.length_cons] at hlength
    have htotal := h.total
    simp only
    omega
  · exact (List.nodup_cons.1 ((hperm.map Prod.fst).nodup_iff.1 h.nodup)).2

/-- Every entry that the book accepts keeps it balanced. -/
theorem Balanced.enter? (h : book.Balanced workers) {event : Event}
    (hnext : book.enter? event = some next) : next.Balanced workers := by
  cases event with
  | took id => exact h.take? hnext
  | started id => exact h.advance? hnext
  | resumed id => exact h.advance? hnext
  | ended id outcome => exact h.advance? hnext
  | cut id => exact h.advance? hnext
  | released id =>
    rcases Option.or_eq_some_iff.1 hnext with hnext | ⟨-, hnext⟩
    · exact h.giveBack? hnext
    · exact h.giveBack? hnext

theorem enterAll?_append (book : Book) (events more : List Event) :
    book.enterAll? (events ++ more) =
      (book.enterAll? events).bind fun next => next.enterAll? more := by
  rw [enterAll?, List.foldlM_append]
  rfl

theorem Balanced.enterAll? (h : book.Balanced workers) {events : List Event}
    (hnext : book.enterAll? events = some next) : next.Balanced workers := by
  induction events generalizing book with
  | nil =>
    obtain rfl := Option.some.inj hnext
    exact h
  | cons event rest ih =>
    rw [← List.singleton_append, enterAll?_append] at hnext
    obtain ⟨middle, hmiddle, hnext⟩ := Option.bind_eq_some_iff.1 hnext
    have hentered : book.enter? event = some middle := by simpa [Book.enterAll?] using hmiddle
    exact ih (h.enter? hentered) hnext

/-- What the book accepts as a whole, it accepts up to any moment. -/
theorem exists_enterAll?_take {events : List Event} (h : book.enterAll? events = some next)
    (k : Nat) : ∃ middle, book.enterAll? (events.take k) = some middle := by
  rw [← List.take_append_drop k events, enterAll?_append] at h
  obtain ⟨middle, hmiddle, -⟩ := Option.bind_eq_some_iff.1 h
  exact ⟨middle, hmiddle⟩

/-! What the book makes of the entries of one act. -/

/-- A worker that is free may be taken and given back. -/
theorem enterAll?_pass (hfree : 0 < book.free) (hid : id ∉ book.held.map Prod.fst) :
    book.enterAll? [.took id, .released id] = some book := by
  have htaken : book.take? id =
      some { free := book.free - 1, held := (id, .fresh) :: book.held } := if_pos ⟨hfree, hid⟩
  simp [enterAll?, htaken, enter?, Book.giveBack?, Nat.sub_add_cancel hfree]

/-- A worker that is free may be taken for a run. -/
theorem enterAll?_start (hfree : 0 < book.free) (hid : id ∉ book.held.map Prod.fst) :
    book.enterAll? [.took id, .started id] =
      some { free := book.free - 1, held := (id, .busy) :: book.held } := by
  have htaken : book.take? id =
      some { free := book.free - 1, held := (id, .fresh) :: book.held } := if_pos ⟨hfree, hid⟩
  simp [enterAll?, htaken, enter?, Book.advance?]

theorem enterAll?_resume (hmem : (id, .busy) ∈ book.held) :
    book.enterAll? [.resumed id] =
      some { book with held := (id, .busy) :: book.held.erase (id, .busy) } := by
  simp [enterAll?, enter?, Book.advance?, hmem]

/-- A run that was cut off frees its worker. -/
theorem enterAll?_cut (hnodup : (book.held.map Prod.fst).Nodup) (hmem : (id, .busy) ∈ book.held) :
    book.enterAll? [.cut id, .released id] =
      some { free := book.free + 1, held := book.held.erase (id, .busy) } := by
  have hfresh : (id, Stage.fresh) ∉ book.held.erase (id, .busy) := fun h =>
    not_mem_erase hnodup hmem (List.mem_map_of_mem (f := Prod.fst) h)
  simp [enterAll?, enter?, Book.advance?, Book.giveBack?, hmem, hfresh]

/-- So does a run that came to its end, well or not. -/
theorem enterAll?_end (hnodup : (book.held.map Prod.fst).Nodup) (hmem : (id, .busy) ∈ book.held)
    (outcome : Outcome) :
    book.enterAll? [.resumed id, .ended id outcome, .released id] =
      some { free := book.free + 1, held := book.held.erase (id, .busy) } := by
  have hfresh : (id, Stage.fresh) ∉ book.held.erase (id, .busy) := fun h =>
    not_mem_erase hnodup hmem (List.mem_map_of_mem (f := Prod.fst) h)
  simp [enterAll?, enter?, Book.advance?, Book.giveBack?, hmem, hfresh]

/-- No more runs than workers. -/
theorem Balanced.length_busy_le (h : book.Balanced workers) : book.busy.length ≤ workers := by
  calc
    book.busy.length ≤ book.held.length := List.length_filter_le _ _
    _ ≤ book.free + book.held.length := Nat.le_add_left _ _
    _ = workers := h.total

end Balance

end Book

/-! ## What a pool enters -/

variable {σ : Type u}

def desk (pool : Pool σ) : List (Nat × Stage) :=
  pool.crew.map fun badge => (badge.1, .busy)

section Acts

variable {pool : Pool σ} {id : Nat}

theorem Orderly.mark (horderly : pool.Orderly) (hid : id < pool.next) : (pool.mark id).Orderly := by
  refine horderly.of_sublist (by rw [tasks_mark]) (by rw [queue_mark]) ?_ (pool.next_mark id)
    (pool.workers_mark id)
  intro other hother
  rcases List.mem_cons.1 (pool.cancelled_mark_subset id hother) with rfl | hold
  · exact hid
  · exact horderly.cancelled other hold

theorem Orderly.leave (horderly : pool.Orderly) (id : Nat) : (pool.leave id).Orderly :=
  horderly.of_sublist List.filter_sublist List.erase_sublist horderly.cancelled rfl rfl

theorem Orderly.close (horderly : pool.Orderly) : pool.close.Orderly :=
  horderly.of_sublist (.refl _) (.refl _) horderly.cancelled rfl rfl

/-- Every act keeps a pool in order. -/
theorem Orderly.deed {next : Pool σ} {events : List Event} (horderly : pool.Orderly)
    (h : pool.Deed next events) : next.Orderly := by
  cases h with
  | none => exact horderly
  | schedules now initial delay job next id hnext => exact horderly.schedule? hnext
  | marks id hid => exact horderly.mark hid
  | wakes now id => exact (horderly.continues_wake now id).orderly
  | leaves id => exact horderly.leave id
  | drops next hnext => exact (horderly.continues_start? hnext).orderly
  | passes next id rest hnext => exact (horderly.continues_start? hnext).orderly
  | starts next task hnext => exact (horderly.continues_start? hnext).orderly
  | pauses id => exact horderly
  | ends now id => exact (horderly.continues_finish now id).orderly
  | isCut id => exact horderly.leave id
  | closes => exact horderly.close

/-- No act changes how many workers there are. -/
theorem workers_deed {next : Pool σ} {events : List Event} (horderly : pool.Orderly)
    (h : pool.Deed next events) : next.workers = pool.workers := by
  cases h with
  | none => rfl
  | schedules now initial delay job next id hnext =>
    obtain ⟨-, -, rfl⟩ := schedule?_cases hnext
    rfl
  | marks id => exact pool.workers_mark id
  | wakes now id => exact (horderly.continues_wake now id).workers
  | leaves id => rfl
  | drops next hnext => exact (horderly.continues_start? hnext).workers
  | passes next id rest hnext => exact (horderly.continues_start? hnext).workers
  | starts next task hnext => exact (horderly.continues_start? hnext).workers
  | pauses id => rfl
  | ends now id => exact (horderly.continues_finish now id).workers
  | isCut id => rfl
  | closes => rfl

/-- Workers are free as far as no run has them. -/
theorem freeWorkers_eq (pool : Pool σ) : pool.freeWorkers = pool.workers - pool.crew.length := by
  rw [freeWorkers, crew, List.length_map]

/-- No task is at the desk twice. -/
theorem Orderly.nodup_desk (horderly : pool.Orderly) : (pool.desk.map Prod.fst).Nodup := by
  have hids : pool.desk.map Prod.fst = pool.running.map Task.id := by
    rw [desk, crew, List.map_map, List.map_map]
    rfl
  rw [hids]
  exact (List.filter_sublist.map Task.id).nodup horderly.nodup

theorem mem_desk_iff : (id, Stage.busy) ∈ pool.desk ↔ ∃ badge ∈ pool.crew, badge.1 = id := by
  simp [desk]

/-- A task is at the desk just while it runs. -/
theorem Orderly.mem_desk_iff (horderly : pool.Orderly) :
    (id, Stage.busy) ∈ pool.desk ↔ pool.isRunning id = true := by
  rw [Pool.mem_desk_iff, isRunning_iff_exists]
  constructor
  · rintro ⟨badge, hbadge, rfl⟩
    obtain ⟨task, htask, hrunning, rfl⟩ := mem_crew.1 hbadge
    exact ⟨task, horderly.task?_eq_some htask, hrunning⟩
  · rintro ⟨task, hfound, hrunning⟩
    obtain ⟨htask, rfl⟩ := mem_tasks_of_task? hfound
    exact ⟨task.badge, mem_crew.2 ⟨task, htask, hrunning, rfl⟩, rfl⟩

/-- A task that waits for a worker has none. -/
theorem Orderly.not_mem_desk (horderly : pool.Orderly) (hqueue : id ∈ pool.queue) :
    id ∉ pool.desk.map Prod.fst := by
  intro hmem
  obtain ⟨entry, hentry, rfl⟩ := List.mem_map.1 hmem
  obtain ⟨badge, hbadge, rfl⟩ := List.mem_map.1 hentry
  obtain ⟨task, htask, hrunning, rfl⟩ := mem_crew.1 hbadge
  have hphase := horderly.queued task htask hqueue
  exact absurd (hrunning.symm.trans hphase) Phase.noConfusion

/-- Without one of its members the crew is without the entry of that one. -/
theorem Orderly.desk_erase (horderly : pool.Orderly) {next : Pool σ}
    (hcrew : next.crew = pool.crew.filter fun badge => badge.1 ≠ id) :
    next.desk = pool.desk.erase (id, .busy) := by
  have hnodup : pool.desk.Nodup := List.Nodup.of_map Prod.fst horderly.nodup_desk
  rw [hnodup.erase_eq_filter, desk, desk, hcrew, List.filter_map]
  refine congrArg (List.map _) (List.filter_congr fun badge _ => ?_)
  rw [Bool.eq_iff_iff]
  simp

/-- The book of a pool between two acts. -/
structure Keeps (pool : Pool σ) (book : Book) : Prop where
  free : book.free = pool.freeWorkers
  held : book.held.Perm pool.desk

theorem Keeps.of_crew {book : Book} {next : Pool σ} (h : pool.Keeps book)
    (hcrew : next.crew = pool.crew) (hworkers : next.workers = pool.workers) : next.Keeps book := by
  constructor
  · rw [h.free, freeWorkers_eq, freeWorkers_eq, hcrew, hworkers]
  · rw [desk, hcrew]
    exact h.held

/-- Without one of its members the crew has one more worker to spare. -/
theorem Orderly.keeps_erase (horderly : pool.Orderly) {book : Book} {next : Pool σ}
    (h : pool.Keeps book) (hmem : (id, Stage.busy) ∈ pool.desk)
    (hcrew : next.crew = pool.crew.filter fun badge => badge.1 ≠ id)
    (hworkers : next.workers = pool.workers) :
    next.Keeps { free := book.free + 1, held := book.held.erase (id, .busy) } := by
  have hdesk := horderly.desk_erase hcrew
  have hlength : next.crew.length = pool.crew.length - 1 := by
    have := congrArg List.length hdesk
    rwa [List.length_erase_of_mem hmem, desk, desk, List.length_map, List.length_map] at this
  constructor
  · have hstaffed := horderly.staffed
    have hpos : 0 < pool.crew.length := by
      rw [← List.length_map (f := fun badge => (badge.1, Stage.busy))]
      exact List.length_pos_of_mem hmem
    simp only [h.free, freeWorkers_eq, hworkers, hlength]
    omega
  · rw [hdesk]
    exact h.held.erase _

/-- Whatever an act tells is an entry that the book accepts. -/
theorem Keeps.deed {book : Book} (h : pool.Keeps book) (horderly : pool.Orderly) {next : Pool σ}
    {events : List Event} (hdeed : pool.Deed next events) :
    ∃ result, book.enterAll? events = some result ∧ next.Keeps result := by
  have hnodup : (book.held.map Prod.fst).Nodup :=
    (h.held.map Prod.fst).nodup_iff.2 horderly.nodup_desk
  have hworkers := workers_deed horderly hdeed
  have hmem {id : Nat} (hrunning : pool.isRunning id = true) : (id, Stage.busy) ∈ pool.desk :=
    horderly.mem_desk_iff.2 hrunning
  cases hdeed with
  | none => exact ⟨book, rfl, h⟩
  | schedules now initial delay job next id hnext =>
    exact ⟨book, rfl, h.of_crew (crew_schedule? hnext) hworkers⟩
  | marks id => exact ⟨book, rfl, h.of_crew (pool.crew_mark id) hworkers⟩
  | wakes now id => exact ⟨book, rfl, h.of_crew (horderly.crew_wake now id) hworkers⟩
  | leaves id task htask hid hidle =>
    subst hid
    exact ⟨book, rfl, h.of_crew ((pool.crew_drop task.id).trans (horderly.filter_crew htask hidle))
      hworkers⟩
  | drops next hnext => exact ⟨book, rfl, h.of_crew (horderly.crew_start?_none hnext) hworkers⟩
  | passes next id rest hnext hqueue =>
    obtain ⟨-, -, -, hfree, -⟩ := start?_cases hnext
    have hid : id ∉ book.held.map Prod.fst := by
      rw [(h.held.map Prod.fst).mem_iff]
      exact horderly.not_mem_desk (hqueue ▸ List.mem_cons_self)
    refine ⟨book, Book.enterAll?_pass ?_ hid,
      h.of_crew (horderly.crew_start?_none hnext) hworkers⟩
    rw [h.free, freeWorkers_eq]
    omega
  | starts next task hnext =>
    have hcrew := horderly.crew_start?_some hnext
    obtain ⟨rest, hqueue, hfree, -⟩ := start?_some_cases hnext
    have hid : task.id ∉ book.held.map Prod.fst := by
      rw [(h.held.map Prod.fst).mem_iff]
      exact horderly.not_mem_desk (hqueue ▸ List.mem_cons_self)
    refine ⟨_, Book.enterAll?_start ?_ hid, ?_, ?_⟩
    · rw [h.free, freeWorkers_eq]
      omega
    · simp only [h.free, freeWorkers_eq, hworkers, hcrew.length_eq, List.length_cons]
      omega
    · exact (h.held.cons _).trans (hcrew.map fun badge : Nat × σ => (badge.1, Stage.busy)).symm
  | pauses id hrunning =>
    have hheld := h.held.mem_iff.2 (hmem hrunning)
    exact ⟨_, Book.enterAll?_resume hheld, h.free,
      (List.perm_cons_erase hheld).symm.trans h.held⟩
  | ends now id outcome hrunning =>
    exact ⟨_, Book.enterAll?_end hnodup (h.held.mem_iff.2 (hmem hrunning)) outcome,
      horderly.keeps_erase h (hmem hrunning) (horderly.crew_finish now id) hworkers⟩
  | isCut id hrunning =>
    exact ⟨_, Book.enterAll?_cut hnodup (h.held.mem_iff.2 (hmem hrunning)),
      horderly.keeps_erase h (hmem hrunning) (pool.crew_drop id) hworkers⟩
  | closes => exact ⟨book, rfl, h.of_crew rfl hworkers⟩

/-- Whatever a row of acts tells, the book accepts it. -/
theorem Keeps.after {book : Book} (h : pool.Keeps book) (horderly : pool.Orderly)
    (acts : List (Nat × Act σ)) :
    ∃ result, book.enterAll? (pool.history acts) = some result ∧
      (pool.after acts).Keeps result := by
  induction acts generalizing pool book with
  | nil => exact ⟨book, rfl, h⟩
  | cons act rest ih =>
    obtain ⟨middle, hmiddle, hkeeps⟩ := h.deed horderly (pool.deed_enact act.1 act.2)
    obtain ⟨result, hresult, hlast⟩ := ih hkeeps (horderly.deed (pool.deed_enact act.1 act.2))
    have hentered : book.enterAll? (pool.history (act :: rest)) = some result := by
      rw [history, Book.enterAll?_append, hmiddle, Option.bind_some, hresult]
    exact ⟨result, hentered, hlast⟩

theorem Orderly.after (horderly : pool.Orderly) (acts : List (Nat × Act σ)) :
    (pool.after acts).Orderly :=
  after_of_enact (fun pool now act h => h.deed (pool.deed_enact now act)) horderly acts

theorem workers_after (horderly : pool.Orderly) (acts : List (Nat × Act σ)) :
    (pool.after acts).workers = pool.workers := by
  induction acts generalizing pool with
  | nil => rfl
  | cons act rest ih =>
    have hdeed := pool.deed_enact act.1 act.2
    exact (ih (horderly.deed hdeed)).trans (workers_deed horderly hdeed)

/-- A free worker goes to the queue just if somebody waits there. -/
theorem isSome_start?_iff (pool : Pool σ) :
    pool.start?.isSome = true ↔ pool.queue ≠ [] ∧ 0 < pool.freeWorkers := by
  unfold start?
  cases pool.queue with
  | nil => simp
  | cons id rest =>
    by_cases hfree : pool.freeWorkers = 0
    · simp [hfree]
    · simp only [hfree, if_false]
      constructor
      · intro _
        exact ⟨List.cons_ne_nil _ _, Nat.pos_of_ne_zero hfree⟩
      · intro _
        cases ({ pool with queue := rest } : Pool σ).task? id with
        | none => rfl
        | some task => exact (apply_ite Option.isSome _ _ _).trans (ite_self _)

/-- Workers that are free and those in a run are all there are. -/
theorem Orderly.freeWorkers_add (horderly : pool.Orderly) :
    pool.freeWorkers + pool.crew.length = pool.workers := by
  have hstaffed := horderly.staffed
  rw [freeWorkers_eq]
  omega

end Acts

/-- Workers are bounded and never lost.  A pool of `n` workers has at least one.  Whatever is
scheduled, cancelled, started, ended well or not, and shut down, in any order: at every moment, also
between the events of one act, the book lets a task take only a free worker, and only one for one
run, and free workers and those that tasks have are as many as at first.  Between acts the tasks
with a worker are those in the middle of a run, a worker that is free goes to any task that waits,
and a run that ends leaves one worker more, however it ends; to cancel a task takes none away. -/
theorem workers_never_lost (name : String) (n : Nat) (acts : List (Nat × Act σ)) :
    (∀ k, ∃ book, (Book.ofWorkers (max n 1)).enterAll?
        (((ofWorkers name n : Pool σ).history acts).take k) = some book ∧
      book.free + book.held.length = max n 1 ∧ (book.held.map Prod.fst).Nodup ∧
      book.busy.length ≤ max n 1) ∧
    (∃ book, (Book.ofWorkers (max n 1)).enterAll? ((ofWorkers name n : Pool σ).history acts) =
        some book ∧
      book.free = ((ofWorkers name n).after acts).freeWorkers ∧
      book.held.Perm (((ofWorkers name n).after acts).crew.map fun badge => (badge.1, .busy))) ∧
    ((ofWorkers name n).after acts).freeWorkers + ((ofWorkers name n).after acts).crew.length =
      max n 1 ∧
    (((ofWorkers name n).after acts).start?.isSome = true ↔
      ((ofWorkers name n).after acts).queue ≠ [] ∧
        ((ofWorkers name n).after acts).crew.length < max n 1) ∧
    (∀ now id outcome, ((ofWorkers name n).after acts).isRunning id = true →
      ((ofWorkers name n).after acts).isShutdown = false →
      (((ofWorkers name n).after acts).enact now (.resume id (some outcome))).1.freeWorkers =
        ((ofWorkers name n).after acts).freeWorkers + 1) ∧
    ∀ now id, (((ofWorkers name n).after acts).enact now (.cancel id)).1.freeWorkers =
      ((ofWorkers name n).after acts).freeWorkers := by
  have horderly := (orderly_ofWorkers (σ := σ) name n).after acts
  have hworkers : ((ofWorkers name n : Pool σ).after acts).workers = max n 1 :=
    workers_after (orderly_ofWorkers name n) acts
  have hopening : (ofWorkers name n : Pool σ).Keeps (.ofWorkers (max n 1)) := ⟨rfl, .refl _⟩
  obtain ⟨book, haccepted, hkeeps⟩ := hopening.after (orderly_ofWorkers name n) acts
  generalize (ofWorkers name n : Pool σ).after acts = pool at *
  have htotal := horderly.freeWorkers_add
  rw [hworkers] at htotal
  refine ⟨fun k => ?_, ⟨book, haccepted, hkeeps.free, hkeeps.held⟩, htotal, ?_, ?_, ?_⟩
  · obtain ⟨middle, hmiddle⟩ := Book.exists_enterAll?_take haccepted k
    have hbalanced := (Book.balanced_ofWorkers (max n 1)).enterAll? hmiddle
    exact ⟨middle, hmiddle, hbalanced.total, hbalanced.nodup, hbalanced.length_busy_le⟩
  · rw [isSome_start?_iff]
    exact and_congr_right fun _ => by omega
  · intro now id outcome hrunning hopen
    have hmem := horderly.mem_desk_iff.2 hrunning
    have hends := horderly.keeps_erase ⟨hkeeps.free, hkeeps.held⟩ hmem
      (horderly.crew_finish now id) (horderly.continues_finish now id).workers
    rw [enact, resume_some hopen hrunning, ← hends.free, hkeeps.free]
  · intro now id
    rcases pool.enact_cancel_cases now id with ⟨-, hcancel⟩ | hcancel
    · rw [hcancel, freeWorkers_eq, freeWorkers_eq, workers_mark, crew_mark]
    · rw [hcancel]

/-- Three tasks compete for one worker.  The first run breaks down, the second task is cancelled
while it waits, and the third gets to run. -/
def crowded : List (Nat × Act String) :=
  [(0, .schedule 0 10 "first"), (0, .schedule 0 10 "second"), (0, .schedule 0 10 "third"),
    (0, .wake 0), (0, .wake 1), (0, .wake 2), (0, .start), (1, .cancel 1), (2, .resume 0 none),
    (3, .resume 0 (some .breaksDown)), (3, .start), (3, .start)]

theorem workers_never_lost_crowded :
    (ofWorkers "narrow" 0).history crowded =
        [.took 0, .started 0, .resumed 0, .resumed 0, .ended 0 .breaksDown, .released 0,
          .took 1, .released 1, .took 2, .started 2] ∧
      ((ofWorkers "narrow" 0).after crowded).isRunning 2 = true ∧
      ((ofWorkers "narrow" 0).after crowded).isShutdown = false ∧
      (((ofWorkers "narrow" 0).after crowded).enact 4 (.resume 2 (some .returns))).1.freeWorkers =
        ((ofWorkers "narrow" 0).after crowded).freeWorkers + 1 := by
  have hrunning : ((ofWorkers "narrow" 0).after crowded).isRunning 2 = true := by decide
  have hopen : ((ofWorkers "narrow" 0).after crowded).isShutdown = false := by decide
  obtain ⟨-, -, -, -, hends, -⟩ := workers_never_lost "narrow" 0 crowded
  exact ⟨by decide, hrunning, hopen, hends 4 2 .returns hrunning hopen⟩

end Pool

end RegistrySession
