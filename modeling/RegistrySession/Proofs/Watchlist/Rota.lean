import Mathlib.Logic.Relation
import RegistrySession.Proofs.Pool.Tasks
import RegistrySession.Proofs.Watchlist.Audience

/-!
# Rotas

A rota is the part of a watchlist that decides which keys are refreshed: the keys that somebody
listens to, the task that refreshes each of them, and the pool in which the tasks run.  As long as
the pool is open, the tasks of the rota are those that go on, and each of them refreshes a key that
somebody listens to.
-/

namespace RegistrySession

/-- A run in the middle of its fetch. -/
structure Run where
  flight : Nat
  task : Nat
  key : Key
  deadline : Nat
  deriving DecidableEq

structure Rota where
  interval : Millis
  listened : Key → Bool
  refreshes : Table Key Nat
  pool : Pool Key

/-- A rota at work, with the runs that wait for an answer. -/
structure Watch where
  now : Nat
  timeout : Millis
  rota : Rota
  runs : List Run

namespace Rota

def listen (rota : Rota) (key : Key) (isListened : Bool) : Rota :=
  { rota with listened := fun other => if other = key then isListened else rota.listened other }

/-- A key is given a task of its own. -/
def assign (rota : Rota) (key : Key) (pool : Pool Key) (task : Nat) : Rota :=
  { rota with pool, refreshes := rota.refreshes.insert key task }

def dismiss (rota : Rota) (key : Key) (task : Nat) : Rota :=
  { rota with pool := rota.pool.cancel task, refreshes := rota.refreshes.erase key }

/-- The tasks of the rota are those of its pool that go on, and the keys of the rota are those that
somebody listens to. -/
structure Tended (rota : Rota) : Prop where
  orderly : rota.pool.Orderly
  listened : ∀ key, rota.listened key = rota.refreshes.contains key
  numbered : ∀ key task, rota.refreshes.find? key = some task → task < rota.pool.next
  roster : rota.pool.isShutdown = false →
    ∀ badge, badge ∈ rota.pool.roster ↔ rota.refreshes.find? badge.2 = some badge.1

end Rota

namespace Watch

def setPool (watch : Watch) (pool : Pool Key) : Watch :=
  { watch with rota := { watch.rota with pool } }

/-- What a run is like that starts now. -/
def run (watch : Watch) (flight : Nat) (task : Task Key) : Run where
  flight
  task := task.id
  key := task.job
  deadline := watch.timeout.after watch.now

/-- One thing that happens to a watch at one moment. A flight may be given up without a word to the
pool, and the run of a task that was cancelled is let finish. -/
inductive Turn (watch : Watch) : Watch → Prop
  | rest (runs : List Run) (hruns : runs.Sublist watch.runs) : Turn watch { watch with runs }
  | wake (task : Nat) : Turn watch (watch.setPool (watch.rota.pool.wake watch.now task))
  | skip (pool : Pool Key) (hstart : watch.rota.pool.start? = some (pool, none)) :
      Turn watch (watch.setPool pool)
  | start (pool : Pool Key) (task : Task Key) (flight : Nat)
      (hstart : watch.rota.pool.start? = some (pool, some task)) :
      Turn watch { watch.setPool pool with runs := watch.runs ++ [watch.run flight task] }
  | finish (run : Run) (hrun : run ∈ watch.runs) :
      Turn watch
        { watch.setPool (watch.rota.pool.finish watch.now run.task) with
          runs := watch.runs.filter fun other => other.flight ≠ run.flight }
  | listen (key : Key) (hassigned : watch.rota.refreshes.contains key = true) :
      Turn watch { watch with rota := watch.rota.listen key true }
  | assign (key : Key) (pool : Pool Key) (task : Nat)
      (hfree : watch.rota.refreshes.contains key = false)
      (hschedule : watch.rota.pool.schedule? watch.now watch.rota.interval watch.rota.interval key =
        some (pool, task)) :
      Turn watch { watch with rota := (watch.rota.assign key pool task).listen key true }
  | forget (key : Key) (hfree : watch.rota.refreshes.find? key = none) :
      Turn watch { watch with rota := watch.rota.listen key false }
  | dismiss (key : Key) (task : Nat) (hassigned : watch.rota.refreshes.find? key = some task) :
      Turn watch { watch with rota := (watch.rota.dismiss key task).listen key false }
  | shutdown : Turn watch { watch.setPool watch.rota.pool.shutdown with runs := [] }

end Watch

/-! ## Tending a rota -/

namespace Rota

section Tended

variable {rota : Rota} {pool : Pool Key} {key : Key} {task : Nat}

/-- What a pool does to tasks that do not go on is nothing to the rota. -/
theorem Tended.setPool (htended : rota.Tended) (hcontinues : rota.pool.Continues pool) :
    { rota with pool }.Tended where
  orderly := hcontinues.orderly
  listened := htended.listened
  numbered := by
    rw [hcontinues.next]
    exact htended.numbered
  roster := by
    rw [hcontinues.isShutdown, hcontinues.roster]
    exact htended.roster

theorem listened_listen (rota : Rota) (key : Key) (isListened : Bool)
    (hothers : ∀ other, other ≠ key → rota.listened other = rota.refreshes.contains other)
    (hkey : isListened = rota.refreshes.contains key) (other : Key) :
    (rota.listen key isListened).listened other = rota.refreshes.contains other := by
  change (if other = key then isListened else rota.listened other) = _
  by_cases hother : other = key
  · rw [if_pos hother, hother, hkey]
  · rw [if_neg hother]
    exact hothers other hother

theorem Tended.listen (htended : rota.Tended) {isListened : Bool}
    (hkey : isListened = rota.refreshes.contains key) : (rota.listen key isListened).Tended where
  orderly := htended.orderly
  listened := rota.listened_listen key isListened (fun other _ => htended.listened other) hkey
  numbered := htended.numbered
  roster := htended.roster

/-- A key without a task may be given one. -/
theorem Tended.assign (htended : rota.Tended) {now : Nat} {initial delay : Millis}
    (hfree : rota.refreshes.contains key = false)
    (hschedule : rota.pool.schedule? now initial delay key = some (pool, task)) :
    ((rota.assign key pool task).listen key true).Tended := by
  have hnone : rota.refreshes.find? key = none := by
    rwa [Table.contains, Option.isSome_eq_false_iff, Option.isNone_iff_eq_none] at hfree
  have hroster := Pool.roster_schedule? htended.orderly hschedule
  obtain ⟨hopen, rfl, hpool⟩ := Pool.schedule?_cases hschedule
  constructor
  case orderly => exact htended.orderly.schedule? hschedule
  case listened =>
    refine listened_listen _ key true (fun other hother => ?_) ?_
    · rw [Rota.assign, Table.contains, Table.find?_insert, if_neg hother]
      exact htended.listened other
    · rw [Rota.assign, Table.contains, Table.find?_insert, if_pos rfl]
      rfl
  case numbered =>
    intro other found hfound
    change (rota.refreshes.insert key rota.pool.next).find? other = some found at hfound
    change found < pool.next
    rw [hpool]
    rw [Table.find?_insert] at hfound
    by_cases hother : other = key
    · rw [if_pos hother] at hfound
      obtain rfl := Option.some.inj hfound
      exact Nat.lt_succ_self _
    · rw [if_neg hother] at hfound
      exact Nat.lt_succ_of_lt (htended.numbered other found hfound)
  case roster =>
    intro _ badge
    change badge ∈ pool.roster ↔ (rota.refreshes.insert key rota.pool.next).find? badge.2 = _
    rw [hroster, List.mem_append, List.mem_singleton, htended.roster hopen, Table.find?_insert]
    constructor
    · rintro (hold | rfl)
      · have hother : badge.2 ≠ key := by
          intro hkey
          rw [hkey, hnone] at hold
          exact nomatch hold
        rwa [if_neg hother]
      · exact if_pos rfl
    · intro hfound
      by_cases hkey : badge.2 = key
      · rw [if_pos hkey] at hfound
        exact .inr (Prod.ext (Option.some.inj hfound).symm hkey)
      · rw [if_neg hkey] at hfound
        exact .inl hfound

/-- A key whose last listener leaves gives up its task. -/
theorem Tended.dismiss (htended : rota.Tended) (hassigned : rota.refreshes.find? key = some task) :
    ((rota.dismiss key task).listen key false).Tended := by
  constructor
  case orderly => exact htended.orderly.cancel (htended.numbered key task hassigned)
  case listened =>
    refine listened_listen _ key false (fun other hother => ?_) ?_
    · rw [Rota.dismiss, Table.contains, Table.find?_erase, if_neg hother]
      exact htended.listened other
    · rw [Rota.dismiss, Table.contains, Table.find?_erase, if_pos rfl]
      rfl
  case numbered =>
    intro other found hfound
    change (rota.refreshes.erase key).find? other = some found at hfound
    change found < (rota.pool.cancel task).next
    rw [Table.find?_erase] at hfound
    rw [Pool.next_cancel]
    by_cases hother : other = key
    · rw [if_pos hother] at hfound
      exact absurd hfound.symm (Option.some_ne_none found)
    · rw [if_neg hother] at hfound
      exact htended.numbered other found hfound
  case roster =>
    intro hopen badge
    change (rota.pool.cancel task).isShutdown = false at hopen
    rw [Pool.isShutdown_cancel] at hopen
    change badge ∈ (rota.pool.cancel task).roster ↔ (rota.refreshes.erase key).find? badge.2 = _
    rw [Pool.roster_cancel, List.mem_filter, decide_eq_true_eq, Table.find?_erase]
    constructor
    · rintro ⟨hbadge, htask⟩
      rw [htended.roster hopen] at hbadge
      have hother : badge.2 ≠ key := by
        intro hkey
        rw [hkey, hassigned] at hbadge
        exact htask (Option.some.inj hbadge).symm
      rwa [if_neg hother]
    · intro hfound
      by_cases hother : badge.2 = key
      · rw [if_pos hother] at hfound
        exact absurd hfound.symm (Option.some_ne_none badge.1)
      · rw [if_neg hother] at hfound
        have hbadge := (htended.roster hopen badge).2 hfound
        refine ⟨hbadge, fun htask => hother ?_⟩
        -- A task has one job only.
        have hdismissed := (htended.roster hopen (task, key)).2 hassigned
        exact congrArg Prod.snd (htended.orderly.badge_eq hbadge hdismissed htask)

/-- In a pool that is shut down nobody goes on. -/
theorem Tended.of_isShutdown (htended : rota.Tended) (horderly : pool.Orderly)
    (hshutdown : pool.isShutdown = true) (hnext : rota.pool.next ≤ pool.next) :
    { rota with pool }.Tended where
  orderly := horderly
  listened := htended.listened
  numbered key task hfound := Nat.lt_of_lt_of_le (htended.numbered key task hfound) hnext
  roster hopen := absurd (hopen.symm.trans hshutdown) Bool.false_ne_true

theorem Tended.shutdown (htended : rota.Tended) : { rota with pool := rota.pool.shutdown }.Tended :=
  htended.of_isShutdown htended.orderly.shutdown rfl (Nat.le_refl _)

/-- A key that somebody listens to has one task, and any other none. -/
theorem Tended.length_roster (htended : rota.Tended) (key : Key) :
    (rota.pool.roster.filter fun badge => badge.2 = key).length =
      if rota.listened key && !rota.pool.isShutdown then 1 else 0 := by
  cases hopen : rota.pool.isShutdown with
  | true =>
    rw [Pool.roster_eq_nil_of_isShutdown hopen, Bool.not_true, Bool.and_false]
    rfl
  | false =>
    rw [htended.listened, Bool.not_false, Bool.and_true, Table.contains]
    cases hassigned : rota.refreshes.find? key with
    | none =>
      have hnobody : ∀ badge ∈ rota.pool.roster, ¬ badge.2 = key := by
        rintro badge hbadge rfl
        rw [htended.roster hopen, hassigned] at hbadge
        exact nomatch hbadge
      rw [List.filter_eq_nil_iff.2 fun badge hbadge => by simp [hnobody badge hbadge]]
      rfl
    | some task =>
      have hsole : (rota.pool.roster.filter fun badge => badge.2 = key).Perm [(task, key)] := by
        refine (List.perm_ext_iff_of_nodup (htended.orderly.nodup_roster.filter _)
          (List.nodup_singleton _)).2 fun badge => ?_
        rw [List.mem_filter, htended.roster hopen, decide_eq_true_eq, List.mem_singleton]
        constructor
        · rintro ⟨hbadge, rfl⟩
          exact Prod.ext (Option.some.inj (hbadge.symm.trans hassigned)) rfl
        · rintro rfl
          exact ⟨hassigned, rfl⟩
      rw [hsole.length_eq]
      rfl

end Tended

end Rota

theorem Rota.tended_ofWorkers (interval : Millis) (name : String) (workers : Nat) :
    Tended ⟨interval, fun _ => false, .empty, .ofWorkers name workers⟩ where
  orderly := Pool.orderly_ofWorkers name workers
  listened _ := rfl
  numbered := nofun
  roster _ _ := ⟨fun hbadge => absurd hbadge List.not_mem_nil, nofun⟩

/-- Every turn keeps tasks and listeners together. -/
theorem Watch.Turn.tended {watch next : Watch} (hturn : watch.Turn next)
    (htended : watch.rota.Tended) : next.rota.Tended := by
  cases hturn with
  | rest => exact htended
  | wake task => exact htended.setPool (htended.orderly.continues_wake _ task)
  | skip pool hstart => exact htended.setPool (htended.orderly.continues_start? hstart)
  | start pool task flight hstart =>
    exact htended.setPool (htended.orderly.continues_start? hstart)
  | finish run => exact htended.setPool (htended.orderly.continues_finish _ run.task)
  | listen key hassigned => exact htended.listen hassigned.symm
  | assign key pool task hfree hschedule => exact htended.assign hfree hschedule
  | forget key hfree => exact htended.listen (by rw [Table.contains, hfree]; rfl)
  | dismiss key task hassigned => exact htended.dismiss hassigned
  | shutdown => exact htended.shutdown

/-- Tasks and listeners stay together, whatever turns are taken. -/
theorem Watch.tended_of_turns {watch next : Watch}
    (hturns : Relation.ReflTransGen Turn watch next) (htended : watch.rota.Tended) :
    next.rota.Tended := by
  induction hturns with
  | refl => exact htended
  | tail _ hturn ih => exact hturn.tended ih

/-! ## The rota of a watchlist -/

namespace Watchlist

variable {ρ ℓ : Type}

def rota (list : Watchlist ρ ℓ) : Rota where
  interval := list.interval
  listened := list.subscriptions.isSubscribed
  refreshes := list.refreshes
  pool := list.pool

def loops (list : Watchlist ρ ℓ) (key : Key) : List (Task Key) :=
  list.pool.tasks.filter fun task => task.job = key && !list.pool.isCancelled task.id

/-- The loops of a key are its tasks that go on. -/
theorem length_loops (list : Watchlist ρ ℓ) (key : Key) :
    (list.loops key).length = (list.pool.roster.filter fun badge => badge.2 = key).length := by
  rw [loops, Pool.roster, Pool.badges, List.filter_filter, List.filter_map, List.length_map]
  rfl

theorem isSubscribed_markAll (subscriptions : Subscriptions ℓ) (handles : List (Handle ℓ)) :
    (subscriptions.markAll handles).isSubscribed = subscriptions.isSubscribed := by
  funext key
  rw [Subscriptions.isSubscribed, Subscriptions.handlesOf_markAll]
  rfl

/-- A record that comes in is nothing to the rota. -/
theorem rota_absorb [Resource ρ] (list : Watchlist ρ ℓ) (record : ρ) :
    (list.absorb record).1.rota = list.rota := by
  rw [absorb_eq_reachesLatest, rota, isSubscribed_markAll]
  rfl

theorem rota_deliverInitial (list : Watchlist ρ ℓ) (handle : Handle ℓ) (record : ρ) :
    (list.deliverInitial handle record).1.rota = list.rota := by
  by_cases hreached : list.subscriptions.isReached handle = true
  · rw [deliverInitial, if_pos hreached]
  · rw [deliverInitial, if_neg hreached]
    exact congrArg (fun listened => { list.rota with listened })
      (isSubscribed_markAll list.subscriptions [handle])

section Listeners

variable [DecidableEq ℓ]

theorem isSubscribed_register (subscriptions : Subscriptions ℓ) (key : Key) (listener : ℓ) :
    (subscriptions.register key listener).1.isSubscribed =
      fun other => if other = key then true else subscriptions.isSubscribed other := by
  funext other
  have hmem := subscriptions.mem_handlesOf_register key listener
  by_cases hkey : other = key
  · rw [if_pos hkey, hkey, Subscriptions.isSubscribed, Bool.not_eq_true',
      List.isEmpty_eq_false_iff]
    exact List.ne_nil_of_mem hmem
  · rw [if_neg hkey]
    rcases subscriptions.register_cases key listener with ⟨hsame, -⟩ | ⟨-, -, -, hhandles⟩
    · rw [hsame]
    · rw [Subscriptions.isSubscribed, hhandles, if_neg hkey]
      rfl

/-- A listener that leaves is the last of a key, or somebody listens to it as before. -/
theorem isSubscribed_deregister (subscriptions : Subscriptions ℓ) (key : Key) (listener : ℓ) :
    ((subscriptions.deregister key listener).2.isLast = false ∧
      (subscriptions.deregister key listener).1.isSubscribed = subscriptions.isSubscribed) ∨
    ((subscriptions.deregister key listener).2.isLast = true ∧
      (subscriptions.deregister key listener).1.isSubscribed =
        fun other => if other = key then false else subscriptions.isSubscribed other) := by
  unfold Subscriptions.deregister
  cases hhandles : subscriptions.handles.find? key with
  | none => exact .inl ⟨rfl, rfl⟩
  | some handles =>
    simp only
    by_cases hnobody : (handles.filter fun handle => handle.listener ≠ listener).isEmpty = true
    · refine .inr ⟨by rw [if_pos hnobody], ?_⟩
      rw [if_pos hnobody]
      funext other
      simp only [Subscriptions.isSubscribed, Subscriptions.handlesOf, Table.find?_erase]
      by_cases hkey : other = key
      · rw [if_pos hkey, if_pos hkey]
        rfl
      · rw [if_neg hkey, if_neg hkey]
    · refine .inl ⟨by rw [if_neg hnobody], ?_⟩
      rw [if_neg hnobody]
      funext other
      simp only [Subscriptions.isSubscribed, Subscriptions.handlesOf, Table.find?_insert]
      by_cases hkey : other = key
      · have hhandled : handles.isEmpty = false := by
          cases handles with
          | nil => exact absurd rfl hnobody
          | cons => rfl
        rw [if_pos hkey, hkey, hhandles, Option.getD_some, Option.getD_some, hhandled,
          Bool.eq_false_iff.2 hnobody]
      · rw [if_neg hkey]

omit [DecidableEq ℓ] in
theorem rota_addRefresh? {list next : Watchlist ρ ℓ} {now : Nat} {key : Key}
    (h : list.addRefresh? now key = some next) :
    (list.rota.refreshes.contains key = true ∧ next.rota = list.rota) ∨
    ∃ pool task, list.rota.refreshes.contains key = false ∧
      list.rota.pool.schedule? now list.rota.interval list.rota.interval key = some (pool, task) ∧
      next.rota = list.rota.assign key pool task := by
  rw [addRefresh?] at h
  by_cases hassigned : list.refreshes.contains key = true
  · rw [if_pos hassigned] at h
    obtain rfl := Option.some.inj h
    exact .inl ⟨hassigned, rfl⟩
  · rw [if_neg hassigned] at h
    obtain ⟨⟨pool, task⟩, hschedule, hnext⟩ := Option.bind_eq_some_iff.1 h
    obtain rfl := Option.some.inj hnext
    exact .inr ⟨pool, task, Bool.eq_false_iff.2 hassigned, hschedule, rfl⟩

/-- A first listener gives its key a task, and any other finds one. -/
theorem rota_subscribe? {list next : Watchlist ρ ℓ} {now : Nat} {key : Key} {listener : ℓ}
    {handle : Handle ℓ} (h : list.subscribe? now key listener = some (next, handle)) :
    ∃ watched, list.addRefresh? now key = some watched ∧
      next.rota = watched.rota.listen key true := by
  obtain ⟨watched, hwatched, hnext⟩ := Option.bind_eq_some_iff.1 h
  refine ⟨watched, hwatched, ?_⟩
  have hregistered := isSubscribed_register watched.subscriptions key listener
  cases hregister : watched.subscriptions.register key listener with
  | mk subscriptions found =>
    rw [hregister] at hnext hregistered
    obtain ⟨rfl, -⟩ := Prod.mk.inj (Option.some.inj hnext)
    rw [rota, hregistered]
    rfl

/-- Only the last listener of a key takes the task with it. -/
theorem rota_unsubscribe (list : Watchlist ρ ℓ) (key : Key) (listener : ℓ) :
    (list.unsubscribe key listener).rota = list.rota ∨
    (list.rota.refreshes.find? key = none ∧
      (list.unsubscribe key listener).rota = list.rota.listen key false) ∨
    ∃ task, list.rota.refreshes.find? key = some task ∧
      (list.unsubscribe key listener).rota = (list.rota.dismiss key task).listen key false := by
  unfold unsubscribe
  rcases isSubscribed_deregister list.subscriptions key listener with
    ⟨hlast, hlistened⟩ | ⟨hlast, hlistened⟩
  · refine .inl ?_
    simp only [hlast, Bool.false_eq_true, if_false]
    rw [rota, hlistened]
    rfl
  · refine .inr ?_
    simp only [hlast, if_true]
    unfold removeRefresh
    simp only
    cases hassigned : list.refreshes.find? key with
    | none =>
      refine .inl ⟨hassigned, ?_⟩
      rw [rota, hlistened]
      rfl
    | some task =>
      refine .inr ⟨task, hassigned, ?_⟩
      rw [rota, hlistened]
      rfl

end Listeners

end Watchlist

end RegistrySession
