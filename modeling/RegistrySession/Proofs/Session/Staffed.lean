import Mathlib.Data.Fintype.EquivFin
import RegistrySession.Proofs.Pool.AtWork
import RegistrySession.Proofs.Session.Watching

/-!
# The pools of a session in small steps

A run of a session that waits for a reply is a run that waits in its pool.  What the session does,
short of a shutdown, is to each of its pools a row of acts in small steps: subscriptions schedule
and cancel, a run starts, gets on with a reply or comes to its end, and nothing else is a matter of
the pool.
-/

namespace RegistrySession

open Pool (AtWork)

def Owner.task? (name : PoolName) : Owner → Option Nat
  | .run other task => if other = name then some task else none
  | .call _ => none

theorem Owner.task?_run (name : PoolName) (task : Nat) :
    (Owner.run name task).task? name = some task :=
  if_pos rfl

theorem Owner.task?_eq_none {name : PoolName} {owner : Owner}
    (h : ∀ task, owner ≠ .run name task) : owner.task? name = none := by
  cases owner with
  | call id => rfl
  | run other task => exact if_neg fun hname : other = name => h task (hname ▸ rfl)

namespace Session

/-- The runs of a pool that wait for replies, each under the number of its flight. -/
def waits (session : Session) (name : PoolName) : List (Nat × Nat) :=
  session.flights.filterMap fun flight => (flight.owner.task? name).map (Prod.mk flight.id)

def atWork (session : Session) (name : PoolName) : AtWork name.Job where
  pool := session.pool name
  waits := session.waits name

/-- The pool comes from one state to the other by a row of acts. -/
def Works (name : PoolName) (session next : Session) : Prop :=
  (session.atWork name).Staffed → ∃ acts, (session.atWork name).Row acts (next.atWork name)

section Waits

variable {session next last : Session} {name : PoolName}

theorem Works.of_eq (h : next.atWork name = session.atWork name) : Works name session next :=
  fun _ => ⟨[], h ▸ .nil _⟩

theorem Works.trans (hfirst : Works name session next) (hsecond : Works name next last) :
    Works name session last := by
  intro hstaffed
  obtain ⟨earlier, hrow⟩ := hfirst hstaffed
  obtain ⟨later, hrest⟩ := hsecond (hstaffed.row hrow).1
  exact ⟨_, hrow.trans hrest⟩

/-- A flight of a run is what the run waits for. -/
theorem mem_waits {flight : Flight} (hflight : flight ∈ session.flights) {task : Nat}
    (howner : flight.owner = .run name task) : (flight.id, task) ∈ session.waits name := by
  refine List.mem_filterMap.2 ⟨flight, hflight, ?_⟩
  rw [howner, Owner.task?_run]
  rfl

/-- A run that waits, waits for a flight. -/
theorem exists_flight_of_mem_waits {wait : Nat × Nat} (hwait : wait ∈ session.waits name) :
    ∃ flight ∈ session.flights, flight.id = wait.1 ∧ flight.owner = .run name wait.2 := by
  obtain ⟨flight, hflight, hfound⟩ := List.mem_filterMap.1 hwait
  by_cases howner : ∃ task, flight.owner = .run name task
  · obtain ⟨task, howner⟩ := howner
    rw [howner, Owner.task?_run] at hfound
    obtain rfl := Option.some.inj hfound
    exact ⟨flight, hflight, rfl, howner⟩
  · rw [Owner.task?_eq_none fun task h => howner ⟨task, h⟩] at hfound
    exact absurd hfound.symm (Option.some_ne_none wait)

@[simp]
theorem waits_setPool (session : Session) {other : PoolName} (pool : Pool other.Job)
    (name : PoolName) : (session.setPool other pool).waits name = session.waits name := by
  cases other <;> rfl

theorem atWork_setPool_self (session : Session) (name : PoolName) (pool : Pool name.Job) :
    (session.setPool name pool).atWork name = ⟨pool, session.waits name⟩ := by
  rw [atWork, pool_setPool_self, waits_setPool]

theorem atWork_setPool_of_ne (session : Session) {other : PoolName} (h : name ≠ other)
    (pool : Pool other.Job) : (session.setPool other pool).atWork name = session.atWork name := by
  rw [atWork, session.pool_setPool_of_ne other h, waits_setPool, atWork]

theorem waits_send_of_ne (session : Session) {owner : Owner} (h : ∀ task, owner ≠ .run name task)
    (errand : Errand) (demand : Demand) :
    (session.send owner errand demand).waits name = session.waits name := by
  refine List.filterMap_append.trans ?_
  simp only [List.filterMap_cons, Owner.task?_eq_none h, Option.map_none, List.filterMap_nil,
    List.append_nil, waits]

theorem waits_send_run (session : Session) (name : PoolName) (task : Nat) (errand : Errand)
    (demand : Demand) :
    (session.send (.run name task) errand demand).waits name =
      session.waits name ++ [(session.nextFlight, task)] := by
  refine List.filterMap_append.trans ?_
  simp only [List.filterMap_cons, Owner.task?_run, Option.map_some, List.filterMap_nil, waits]

theorem waits_land (session : Session) (id : Nat) (arrival : Arrival) (name : PoolName) :
    (session.land id arrival).waits name =
      (session.waits name).filter fun wait => wait.1 ≠ id := by
  refine List.filterMap_filter.trans ?_
  rw [waits, List.filter_filterMap]
  refine List.filterMap_congr fun flight _ => ?_
  cases flight.owner.task? name with
  | none => simp
  | some task => simp [Option.filter]

/-- What a pool does without a word of runs is nothing to those who wait. -/
theorem setPool_works (session : Session) {other : PoolName} {pool : Pool other.Job}
    (hidles : (session.pool other).Idles pool) : Works name session (session.setPool other pool) := by
  by_cases hname : name = other
  · subst hname
    intro hstaffed
    rw [atWork_setPool_self]
    exact hstaffed.row_of_idles hidles
  · exact .of_eq (session.atWork_setPool_of_ne hname pool)

theorem setWatchlist_works (session : Session) {kind : Kind}
    {list : Watchlist kind.Record Listener}
    (hidles : (session.watchlist kind).pool.Idles list.pool) :
    Works name session (session.setWatchlist kind list) := by
  by_cases hname : name = .refresh kind
  · subst hname
    have hset : (session.setWatchlist kind list).atWork (.refresh kind) =
        ⟨list.pool, session.waits (.refresh kind)⟩ := by
      rw [atWork, pool, watchlist, Session.setWatchlist, PerKind.get_set_self]
      rfl
    intro hstaffed
    rw [hset]
    exact hstaffed.row_of_idles hidles
  · refine .of_eq ?_
    rw [atWork, session.pool_setWatchlist_of_ne name hname]
    rfl

/-- To a pool the runs of others are nothing. -/
theorem frame_idle (name : PoolName) :
    SteadyFrame (fun owner => ∀ task, owner ≠ .run name task) fun session next =>
      next.atWork name = session.atWork name where
  refl _ := rfl
  trans hfirst hsecond := hsecond.trans hfirst
  delivered _ _ _ := by cases name <;> rfl
  modifyLog _ _ _ := by cases name <;> rfl
  setWatchlist session kind list hrota := by
    by_cases hname : name = .refresh kind
    · subst hname
      have hpool : list.pool = (session.watchlist kind).pool := congrArg Rota.pool hrota
      rw [atWork, pool, watchlist, Session.setWatchlist, PerKind.get_set_self, hpool]
      rfl
    · rw [atWork, session.pool_setWatchlist_of_ne name hname]
      rfl
  send session owner howner errand demand := by
    rw [atWork, waits_send_of_ne session howner]
    cases name <;> rfl
  conclude session owner howner outcome := by
    cases owner with
    | call id => cases name <;> rfl
    | run other task =>
      rw [conclude, endRun_eq]
      exact session.atWork_setPool_of_ne (fun hname : name = other => howner task (hname ▸ rfl)) _

end Waits

/-! ## Runs -/

section Runs

variable {session last : Session} {name : PoolName}

theorem Works.of_ends {owner : Owner} (hends : Ends owner session last)
    (howner : ∀ task, owner ≠ .run name task) : Works name session last :=
  .of_eq (hends.frame (frame_idle name) howner)

/-- A run that gets on comes to its end, or it waits again under another number. -/
theorem Ends.exists_turn {middle : Session} {task flight : Nat}
    (hends : Ends (.run name task) middle last)
    (hmiddle : middle.atWork name =
      ⟨session.pool name, (session.waits name).filter fun wait => wait.1 ≠ flight⟩)
    (hwaits : (flight, task) ∈ session.waits name)
    (hopen : (session.pool name).isShutdown = false) :
    ∃ now act, (session.atWork name).Turn now act (last.atWork name) := by
  obtain ⟨before, hbefore, hlast⟩ := hends
  have hsame := (hbefore _ _ (frame_idle name)).trans hmiddle
  obtain ⟨hpool, hrest⟩ := AtWork.mk.inj hsame
  rcases hlast with ⟨outcome, rfl⟩ | ⟨errand, demand, rfl⟩
  · have hended : (before.conclude (.run name task) outcome).atWork name =
        ⟨(session.pool name).finish before.now task,
          (session.waits name).filter fun wait => wait.1 ≠ flight⟩ := by
      rw [Session.conclude, endRun_eq, atWork_setPool_self, hpool, hrest]
    rw [hended]
    exact ⟨before.now, _, .ends hwaits hopen⟩
  · have hsent : (before.send (.run name task) errand demand).atWork name =
        ⟨session.pool name, ((session.waits name).filter fun wait => wait.1 ≠ flight) ++
          [(before.nextFlight, task)]⟩ := by
      rw [atWork, waits_send_run, hrest, ← hpool]
      cases name <;> rfl
    rw [hsent]
    exact ⟨before.now, _, .resumes before.nextFlight hwaits hopen⟩

/-- A reply lets its run get on, or ends it. -/
theorem arrive_works (hnumbered : session.Numbered) (id : Nat) (arrival : Arrival)
    (hopen : ∀ flight, session.flight? id = some flight → ∀ task, flight.owner = .run name task →
      (session.pool name).isShutdown = false) : Works name session (session.arrive id arrival) := by
  unfold arrive
  cases hfound : session.flight? id with
  | none => exact .of_eq rfl
  | some flight =>
    have hflight := List.mem_of_find?_eq_some hfound
    have hid : flight.id = id := by simpa using List.find?_some hfound
    have hlanded : (session.land id arrival).atWork name =
        ⟨session.pool name, (session.waits name).filter fun wait => wait.1 ≠ id⟩ := by
      rw [atWork, waits_land]
      cases name <;> rfl
    have hends := (session.land id arrival).resume_ends flight
      (flight.request.demand.conclude arrival)
    by_cases howner : ∃ task, flight.owner = .run name task
    · obtain ⟨task, howner⟩ := howner
      have hwaits : (id, task) ∈ session.waits name := hid ▸ mem_waits hflight howner
      rw [howner] at hends
      obtain ⟨now, act, hturn⟩ :=
        hends.exists_turn hlanded hwaits (hopen flight hfound task howner)
      exact fun _ => ⟨[(now, act)], .cons now hturn (.nil _)⟩
    · have hother : ∀ task, flight.owner ≠ .run name task := fun task h => howner ⟨task, h⟩
      refine .of_eq ((hends.frame (frame_idle name) hother).trans (hlanded.trans ?_))
      -- nobody of this pool waits under the number of another's flight
      have hkept : ((session.waits name).filter fun wait => wait.1 ≠ id) = session.waits name := by
        refine List.filter_eq_self.2 fun wait hwait => decide_eq_true fun hsame => ?_
        obtain ⟨other, hmem, hnumber, hrun⟩ := exists_flight_of_mem_waits hwait
        obtain rfl := hnumbered.unique flight hflight other hmem
          (hnumber.trans (hsame.trans hid.symm))
        exact howner ⟨wait.2, hrun⟩
      rw [hkept]
      rfl

theorem wake_works (session : Session) (other : PoolName) (task : Nat) :
    Works name session (session.wake other task) := by
  rw [wake_eq]
  exact session.setPool_works (.wake _ session.now task)

/-- A run that starts comes to its end at once, or it waits before that. -/
theorem Ends.exists_row {middle : Session} {pool : Pool name.Job} {task : Task name.Job}
    (hends : Ends (.run name task.id) middle last)
    (hmiddle : middle.atWork name = ⟨pool, session.waits name⟩)
    (hstart : (session.pool name).start? = some (pool, some task)) :
    ∃ acts, (session.atWork name).Row acts (last.atWork name) := by
  obtain ⟨before, hbefore, hlast⟩ := hends
  obtain ⟨hpool, hrest⟩ := AtWork.mk.inj ((hbefore _ _ (frame_idle name)).trans hmiddle)
  rcases hlast with ⟨outcome, rfl⟩ | ⟨errand, demand, rfl⟩
  · obtain ⟨wait, hfresh⟩ := Infinite.exists_notMem_finset ((session.waits name).map Prod.fst).toFinset
    have hended : (before.conclude (.run name task.id) outcome).atWork name =
        ⟨pool.finish before.now task.id,
          ((session.waits name) ++ [(wait, task.id)]).filter fun other => other.1 ≠ wait⟩ := by
      have hkept : ((session.waits name).filter fun other => other.1 ≠ wait) = session.waits name :=
        List.filter_eq_self.2 fun other hother => decide_eq_true fun hsame =>
          hfresh (List.mem_toFinset.2 (List.mem_map.2 ⟨other, hother, hsame⟩))
      rw [Session.conclude, endRun_eq, atWork_setPool_self, hpool, hrest, List.filter_append, hkept]
      simp
    have hopen : pool.isShutdown = false := by
      obtain ⟨-, -, -, -, hgoesOn, rfl⟩ := Pool.start?_some_cases hstart
      exact Pool.isShutdown_of_not_cancelled hgoesOn
    rw [hended]
    exact ⟨_, .cons before.now (.starts wait hstart) (.cons before.now
      (.ends (List.mem_append_right _ (List.mem_singleton_self _)) hopen) (.nil _))⟩
  · have hsent : (before.send (.run name task.id) errand demand).atWork name =
        ⟨pool, session.waits name ++ [(before.nextFlight, task.id)]⟩ := by
      rw [atWork, waits_send_run, hrest, ← hpool]
      cases name <;> rfl
    rw [hsent]
    exact ⟨_, .cons before.now (.starts before.nextFlight hstart) (.nil _)⟩

/-- A worker that is free starts a run, which waits at once or is over. -/
theorem start_works (session : Session) (other : PoolName) :
    Works name session (session.start other) := by
  rcases session.start_cases other with ⟨-, heq⟩ | ⟨pool, hstart, heq⟩ | ⟨pool, task, hstart, heq⟩
  · rw [heq]
    exact .of_eq rfl
  · rw [heq]
    exact session.setPool_works (.start? hstart)
  · rw [heq]
    have hends := (session.setPool other pool).launch_ends other task
    by_cases hname : name = other
    · subst hname
      exact fun _ => hends.exists_row (session.atWork_setPool_self name pool) hstart
    · refine .trans (.of_eq (session.atWork_setPool_of_ne hname pool)) (.of_ends hends ?_)
      exact fun other h => hname (Owner.run.inj h).1.symm

end Runs

/-! ## Calls -/

section Calls

variable {session : Session} {name : PoolName}

theorem subscribe_works (id : Nat) (kind : Kind) (key : Key) (listener : Listener) :
    Works name session (session.subscribe (.call id) kind key listener) := by
  have hframe := frame_idle name
  have howner := Owner.call_ne_run id name
  unfold subscribe
  cases hsubscribe : (session.watchlist kind).subscribe? session.now key listener with
  | none => exact .of_eq (hframe.conclude session howner _)
  | some subscribed =>
    obtain ⟨list, handle⟩ := subscribed
    have hscheduled : Works name session (session.setWatchlist kind list) := by
      refine session.setWatchlist_works ?_
      obtain ⟨watched, hwatched, hrota⟩ := Watchlist.rota_subscribe? hsubscribe
      have hlist : list.pool = watched.pool := congrArg Rota.pool hrota
      rcases Watchlist.rota_addRefresh? hwatched with
        ⟨-, hsame⟩ | ⟨pool, task, -, hschedule, hassigned⟩
      · rw [hlist.trans (congrArg Rota.pool hsame)]
        exact .refl _
      · rw [hlist.trans (congrArg Rota.pool hassigned)]
        exact .schedule? hschedule
    refine hscheduled.trans (.of_eq ?_)
    simp only
    cases list.find? key with
    | some record => exact hframe.completeSubscription howner _ kind handle record
    | none => exact hframe.send _ howner _ _

theorem unsubscribe_works {kind : Kind} (htended : (session.watch kind).rota.Tended) (key : Key)
    (listener : Listener) : Works name session (session.unsubscribe kind key listener) := by
  refine session.setWatchlist_works ?_
  rcases (session.watchlist kind).rota_unsubscribe key listener with
    hsame | ⟨-, hforgotten⟩ | ⟨task, hassigned, hdismissed⟩
  · rw [show ((session.watchlist kind).unsubscribe key listener).pool = _ from
      congrArg Rota.pool hsame]
    exact .refl _
  · rw [show ((session.watchlist kind).unsubscribe key listener).pool = _ from
      congrArg Rota.pool hforgotten]
    exact .refl _
  · rw [show ((session.watchlist kind).unsubscribe key listener).pool = _ from
      congrArg Rota.pool hdismissed]
    exact .cancel (htended.numbered key task hassigned)

/-- All that a call does to a pool is to schedule and to cancel. -/
theorem perform_works (htended : ∀ kind, (session.watch kind).rota.Tended) (id : Nat) {call : Call}
    (hcall : call ≠ .shutdown) : Works name session (session.perform (.call id) call) := by
  have hframe := frame_idle name
  have howner := Owner.call_ne_run id name
  cases call with
  | getAgent | getMcp | releaseAgent | releaseMcp => exact .of_eq (hframe.send session howner _ _)
  | register kind registered registration =>
    exact .of_eq ((hframe.intentFrame howner).register session kind registered registration)
  | deregisterAgent registered endpoint =>
    exact .of_eq ((hframe.intentFrame howner).deregister session .agent registered endpoint)
  | deregisterMcp registered address port =>
    exact .of_eq ((hframe.intentFrame howner).deregister session .mcp registered _)
  | subscribe kind watched version listener => exact subscribe_works id kind _ listener
  | unsubscribe kind watched version listener =>
    exact (unsubscribe_works (htended kind) _ listener).trans
      (.of_eq (hframe.conclude _ howner _))
  | shutdown => exact absurd rfl hcall

/-- Whatever a session does short of a shutdown is a row of acts to each of its pools.  A run that a
reply comes for gets on, if its pool is open. -/
theorem step_works (hnumbered : session.Numbered)
    (htended : ∀ kind, (session.watch kind).rota.Tended) {move : Move}
    (hmove : ∀ id, move ≠ .call id .shutdown)
    (hopen : ∀ id, (∃ reply, move = .reply id reply) ∨ move = .expire id →
      ∀ flight, session.flight? id = some flight → ∀ task, flight.owner = .run name task →
        (session.pool name).isShutdown = false) :
    Works name session (session.step move) := by
  cases move with
  | call id call =>
    have hcall : call ≠ .shutdown := fun h => hmove id (h ▸ rfl)
    simp only [step, Session.call]
    cases session.check call with
    | ok => exact perform_works htended id hcall
    | error error => exact .of_eq ((frame_idle name).conclude session (Owner.call_ne_run id name) _)
  | reply id reply =>
    rcases session.reply_cases id reply with hsame | harrives
    · rw [step, hsame]
      exact .of_eq rfl
    · rw [step, harrives]
      exact arrive_works hnumbered id _ (hopen id (.inl ⟨reply, rfl⟩))
  | expire id =>
    rcases session.expire_cases id with hsame | harrives
    · rw [step, hsame]
      exact .of_eq rfl
    · rw [step, harrives]
      exact arrive_works hnumbered id _ (hopen id (.inr rfl))
  | receive =>
    rcases session.receive_cases with hsame | ⟨received, feed, -, -, htaken⟩
    · rw [step, hsame]
      exact .of_eq rfl
    · rw [step, htaken]
      exact .of_eq (by cases name <;> rfl)
  | wake other task => exact wake_works session other task
  | start other => exact start_works session other
  | elapse | setRunning | setSupport | announce | closeFeed | reorder =>
    exact .of_eq (by cases name <;> rfl)

end Calls

end Session

end RegistrySession
