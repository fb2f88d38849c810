import RegistrySession.Proofs.Session.Frame
import RegistrySession.Proofs.Session.Hearing
import RegistrySession.Proofs.Session.Progress

/-!
# Who is watched

A key is watched while somebody listens to it, however subscriptions come and go and whatever
becomes of the refreshes.  The listeners of a key, its entry among the refreshes and the tasks of
the pool move together, since everything that a session does is a turn of the watch of each kind,
or nothing to it.
-/

namespace RegistrySession

def Flight.run? (kind : Kind) (flight : Flight) : Option Run :=
  match flight.owner with
  | .run (.refresh other) task =>
    if other = kind then
      some
        { flight := flight.id
          task
          key := flight.request.demand.resourceKey
          deadline := flight.deadline }
    else none
  | _ => none

theorem Flight.run?_eq_some {kind : Kind} {flight : Flight} {task : Nat}
    (h : flight.owner = .run (.refresh kind) task) :
    flight.run? kind =
      some ⟨flight.id, task, flight.request.demand.resourceKey, flight.deadline⟩ := by
  rw [run?, h]
  exact if_pos rfl

theorem Flight.run?_eq_none {kind : Kind} {flight : Flight}
    (h : ∀ task, flight.owner ≠ .run (.refresh kind) task) : flight.run? kind = none := by
  unfold run?
  cases howner : flight.owner with
  | run pool task =>
    cases pool with
    | refresh other =>
      refine if_neg ?_
      rintro rfl
      exact h task howner
    | reconcile => rfl
  | call id => rfl

/-- A run has the number and the deadline of its flight. -/
theorem Flight.of_run? {kind : Kind} {flight : Flight} {run : Run}
    (h : flight.run? kind = some run) : run.flight = flight.id ∧ run.deadline = flight.deadline := by
  by_cases howner : ∃ task, flight.owner = .run (.refresh kind) task
  · obtain ⟨task, howner⟩ := howner
    rw [run?_eq_some howner] at h
    obtain rfl := Option.some.inj h
    exact ⟨rfl, rfl⟩
  · rw [run?_eq_none fun task htask => howner ⟨task, htask⟩] at h
    exact absurd h.symm (Option.some_ne_none run)

namespace Session

def refreshRuns (session : Session) (kind : Kind) : List Run :=
  session.flights.filterMap (Flight.run? kind)

def watch (session : Session) (kind : Kind) : Watch where
  now := session.now
  timeout := session.timeout
  rota := (session.watchlist kind).rota
  runs := session.refreshRuns kind

/-- Nothing happens to a watch but that some runs wait no longer. -/
def Rests (kind : Kind) (session next : Session) : Prop :=
  ∃ runs, runs.Sublist (session.watch kind).runs ∧
    next.watch kind = { session.watch kind with runs }

/-- A row of turns of a watch. -/
def Turns (kind : Kind) (session next : Session) : Prop :=
  Relation.ReflTransGen Watch.Turn (session.watch kind) (next.watch kind)

section Watch

variable {session next last : Session} {kind : Kind}

theorem Rests.turns (hrests : Rests kind session next) : Turns kind session next := by
  obtain ⟨runs, hruns, heq⟩ := hrests
  rw [Turns, heq]
  exact .single (.rest runs hruns)

theorem Turns.refl (kind : Kind) (session : Session) : Turns kind session session :=
  Relation.ReflTransGen.refl

theorem Turns.trans (hfirst : Turns kind session next) (hsecond : Turns kind next last) :
    Turns kind session last :=
  Relation.ReflTransGen.trans hfirst hsecond

theorem watch_setWatchlist_self (session : Session) (kind : Kind)
    (list : Watchlist kind.Record Listener) :
    (session.setWatchlist kind list).watch kind = { session.watch kind with rota := list.rota } := by
  rw [watch, watchlist, setWatchlist, PerKind.get_set_self]
  rfl

theorem watch_setWatchlist_of_ne (session : Session) {kind other : Kind} (h : other ≠ kind)
    (list : Watchlist kind.Record Listener) :
    (session.setWatchlist kind list).watch other = session.watch other := by
  rw [watch, watchlist, setWatchlist, PerKind.get_set_of_ne _ _ h]
  rfl

theorem Rests.of_eq (h : next.watch kind = session.watch kind) : Rests kind session next :=
  ⟨_, .refl _, h⟩

theorem refreshRuns_send (session : Session) (owner : Owner) (errand : Errand) (demand : Demand)
    (h : ∀ task, owner ≠ .run (.refresh kind) task) :
    (session.send owner errand demand).refreshRuns kind = session.refreshRuns kind := by
  have hnone : [Flight.mk session.nextFlight owner errand ⟨session.space, demand⟩
      (session.timeout.after session.now)].filterMap (Flight.run? kind) = [] := by
    rw [List.filterMap_cons, Flight.run?_eq_none h]
    rfl
  refine List.filterMap_append.trans ?_
  rw [hnone, List.append_nil]
  rfl

/-- Only the runs of the kind itself have to do with its watch. -/
theorem frame_rests (kind : Kind) :
    Frame (fun owner => ∀ task, owner ≠ .run (.refresh kind) task) (Rests kind) where
  refl _ := .of_eq rfl
  trans := by
    rintro session next last ⟨runs, hruns, hnext⟩ ⟨later, hlater, hlast⟩
    rw [hnext] at hlater hlast
    exact ⟨later, hlater.trans hruns, hlast⟩
  delivered _ _ _ := .of_eq rfl
  land session id arrival := ⟨_, List.filter_sublist.filterMap _, rfl⟩
  modifyLog _ _ _ := .of_eq rfl
  setWatchlist session other list hrota := by
    by_cases hkind : kind = other
    · subst hkind
      refine .of_eq ?_
      rw [watch_setWatchlist_self, hrota]
      rfl
    · exact .of_eq (session.watch_setWatchlist_of_ne hkind list)
  send session owner howner errand demand := by
    refine .of_eq ?_
    rw [watch, refreshRuns_send session owner errand demand howner]
    rfl
  conclude session owner howner outcome := by
    cases owner with
    | call id => exact .of_eq rfl
    | run pool task =>
      cases pool with
      | reconcile => exact .of_eq rfl
      | refresh other =>
        have hkind : kind ≠ other := fun h => howner task (h ▸ rfl)
        exact .of_eq (session.watch_setWatchlist_of_ne hkind _)

end Watch

/-! ## Turns of a watch -/

theorem call_ne (kind : Kind) (id : Nat) : ∀ task, Owner.call id ≠ .run (.refresh kind) task :=
  Owner.call_ne_run id (.refresh kind)

theorem pass_ne (kind : Kind) (pass : Nat) :
    ∀ task, Owner.run .reconcile pass ≠ .run (.refresh kind) task :=
  fun _ => nofun

section Turns

variable (session : Session) (kind : Kind)

theorem conclude_turns (id : Nat) (outcome : Outcome Answer) :
    Turns kind session (session.conclude (.call id) outcome) :=
  ((frame_rests kind).conclude session (call_ne kind id) outcome).turns

theorem setWatchlist_turns {other : Kind} {list : Watchlist other.Record Listener}
    (h : other = kind → Watch.Turn (session.watch other)
      { session.watch other with rota := list.rota }) :
    Turns kind session (session.setWatchlist other list) := by
  by_cases hkind : kind = other
  · subst hkind
    rw [Turns, watch_setWatchlist_self]
    exact .single (h rfl)
  · exact (Rests.of_eq (session.watch_setWatchlist_of_ne hkind list)).turns

/-- A subscription is a turn of the watch: it finds a task, or assigns one. -/
theorem subscribe_turns (id : Nat) (other : Kind) (key : Key) (listener : Listener) :
    Turns kind session (session.subscribe (.call id) other key listener) := by
  have hregistered {list : Watchlist other.Record Listener} {handle : Handle Listener}
      (hsubscribe : (session.watchlist other).subscribe? session.now key listener =
        some (list, handle)) : Turns kind session (session.setWatchlist other list) := by
    obtain ⟨watched, hwatched, hrota⟩ := Watchlist.rota_subscribe? hsubscribe
    refine session.setWatchlist_turns kind fun _ => ?_
    rw [hrota]
    rcases Watchlist.rota_addRefresh? hwatched with
      ⟨hassigned, hsame⟩ | ⟨pool, task, hfree, hschedule, hscheduled⟩
    · rw [hsame]
      exact .listen key hassigned
    · rw [hscheduled]
      exact .assign key pool task hfree hschedule
  rcases session.subscribe_cases (.call id) key listener with
    ⟨-, heq⟩ | ⟨list, handle, hsubscribe, ⟨record, -, heq⟩ | ⟨-, heq⟩⟩
  · rw [heq]
    exact session.conclude_turns kind id _
  · rw [heq]
    exact (hregistered hsubscribe).trans
      ((frame_rests kind).completeSubscription (call_ne kind id) _ other handle record).turns
  · rw [heq]
    exact (hregistered hsubscribe).trans ((frame_rests kind).send _ (call_ne kind id) _ _).turns

theorem unsubscribe_turns (other : Kind) (key : Key) (listener : Listener) :
    Turns kind session (session.unsubscribe other key listener) := by
  refine session.setWatchlist_turns kind fun _ => ?_
  rcases (session.watchlist other).rota_unsubscribe key listener with
    hsame | ⟨hfree, hforgotten⟩ | ⟨task, hassigned, hdismissed⟩
  · rw [hsame]
    exact .rest _ (.refl _)
  · rw [hforgotten]
    exact .forget key hfree
  · rw [hdismissed]
    exact .dismiss key task hassigned

/-- A pool that is shut down cuts its runs off. -/
theorem refreshRuns_cutOff : (session.cutOff (.refresh kind)).refreshRuns kind = [] := by
  refine List.filterMap_eq_nil_iff.2 fun flight hflight => ?_
  refine Flight.run?_eq_none fun task howner => ?_
  have hkept := (List.mem_filter.1 hflight).2
  rw [howner] at hkept
  exact of_decide_eq_true hkept rfl

theorem stopRefreshes_turns (other : Kind) : Turns kind session (session.stopRefreshes other) := by
  by_cases hkind : kind = other
  · subst hkind
    have hwatch : (session.stopRefreshes kind).watch kind =
        { (session.watch kind).setPool (session.watch kind).rota.pool.shutdown with runs := [] } := by
      have hstopped := session.watch_setWatchlist_self kind
        { session.watchlist kind with pool := (session.watchlist kind).pool.shutdown }
      rw [watch, Watch.mk.injEq] at hstopped
      obtain ⟨-, -, hrota, -⟩ := hstopped
      rw [watch, stopRefreshes, refreshRuns_cutOff]
      exact congrArg (fun rota => { session.watch kind with rota, runs := [] }) hrota
    rw [Turns, hwatch]
    exact .single .shutdown
  · have hother := Rests.of_eq (session.watch_setWatchlist_of_ne hkind
      { session.watchlist other with pool := (session.watchlist other).pool.shutdown })
    exact hother.turns.trans (Rests.turns ⟨_, List.filter_sublist.filterMap _, rfl⟩)

/-- A shutdown ends all tasks at once. -/
theorem shutdown_turns : Turns kind session session.shutdown := by
  rcases session.shutdown_cases with ⟨-, heq⟩ | ⟨-, heq⟩
  · rw [heq]
    exact .refl kind session
  · rw [heq]
    have hmarked : Turns kind session { session with isShutdown := true } :=
      (Rests.of_eq rfl).turns
    refine ((hmarked.trans (stopRefreshes_turns _ kind .agent)).trans
      (stopRefreshes_turns _ kind .mcp)).trans (Rests.turns ?_)
    exact ⟨_, List.filter_sublist.filterMap _, rfl⟩

theorem perform_turns (id : Nat) (call : Call) :
    Turns kind session (session.perform (.call id) call) := by
  have hframe := frame_rests kind
  have howner := call_ne kind id
  cases call with
  | getAgent | getMcp | releaseAgent | releaseMcp =>
    exact (hframe.send session howner _ _).turns
  | register other name registration => exact ((hframe.intentFrame howner).register session other name _).turns
  | deregisterAgent name endpoint => exact ((hframe.intentFrame howner).deregister session .agent name _).turns
  | deregisterMcp name address port => exact ((hframe.intentFrame howner).deregister session .mcp name _).turns
  | subscribe other name version listener => exact session.subscribe_turns kind id other _ listener
  | unsubscribe other name version listener =>
    exact (session.unsubscribe_turns kind other _ listener).trans (conclude_turns _ kind id _)
  | shutdown => exact (session.shutdown_turns kind).trans (conclude_turns _ kind id _)

theorem wake_turns (pool : PoolName) (task : Nat) : Turns kind session (session.wake pool task) := by
  cases pool with
  | refresh other => exact session.setWatchlist_turns kind fun _ => .wake task
  | reconcile => exact (Rests.of_eq rfl).turns

/-- A refresh that starts waits for its reply. -/
theorem watch_send_run (task : Nat) (errand : Errand) (demand : Demand) :
    (session.send (.run (.refresh kind) task) errand demand).watch kind =
      { session.watch kind with
        runs := session.refreshRuns kind ++
          [⟨session.nextFlight, task, demand.resourceKey, session.timeout.after session.now⟩] } := by
  have hsome : [Flight.mk session.nextFlight (.run (.refresh kind) task) errand
      ⟨session.space, demand⟩ (session.timeout.after session.now)].filterMap (Flight.run? kind) =
      [⟨session.nextFlight, task, demand.resourceKey, session.timeout.after session.now⟩] := by
    rw [List.filterMap_cons, Flight.run?_eq_some rfl]
    rfl
  have hruns := (@List.filterMap_append _ _ session.flights _ (Flight.run? kind)).trans
    (congrArg (session.refreshRuns kind ++ ·) hsome)
  exact congrArg (fun runs => { session.watch kind with runs }) hruns

theorem startRefresh_turns (kind : Kind) :
    Turns kind session (session.start (.refresh kind)) := by
  have hwatch (pool : Pool Key) :
      (session.setPool (.refresh kind) pool).watch kind = (session.watch kind).setPool pool :=
    session.watch_setWatchlist_self kind { session.watchlist kind with pool }
  rcases session.start_cases (.refresh kind) with
    ⟨-, heq⟩ | ⟨pool, hstart, heq⟩ | ⟨(pool : Pool Key), (task : Task Key), hstart, heq⟩
  · rw [heq]
    exact .refl kind session
  · rw [heq, Turns]
    exact .single ((hwatch pool).symm ▸ .skip pool hstart)
  · have hlaunched : ((session.setPool (.refresh kind) pool).launch (.refresh kind) task).watch kind =
        { (session.watch kind).setPool pool with
          runs := session.refreshRuns kind ++ [⟨session.nextFlight, task.id, task.job,
            session.timeout.after session.now⟩] } := by
      refine ((session.setPool (.refresh kind) pool).watch_send_run kind task.id _ _).trans ?_
      rw [hwatch, Demand.resourceKey_query]
      rfl
    rw [heq, Turns, hlaunched]
    exact .single (.start pool task session.nextFlight hstart)

/-- What another pool does is nothing to the refreshes of a kind. -/
theorem setPool_rests {name : PoolName} (hname : name ≠ .refresh kind) (pool : Pool name.Job) :
    Rests kind session (session.setPool name pool) := by
  cases name with
  | refresh other =>
    have hkind : kind ≠ other := fun hkind => hname (hkind ▸ rfl)
    exact .of_eq (session.watch_setWatchlist_of_ne hkind { session.watchlist other with pool })
  | reconcile => exact .of_eq rfl

theorem launch_rests {name : PoolName} (hname : name ≠ .refresh kind) (task : Task name.Job) :
    Rests kind session (session.launch name task) :=
  (session.launch_ends name task).frame (frame_rests kind).toSteadyFrame
    fun _ howner => hname (Owner.run.inj howner).1

theorem start_turns (name : PoolName) : Turns kind session (session.start name) := by
  by_cases hname : name = .refresh kind
  · subst hname
    exact session.startRefresh_turns kind
  rcases session.start_cases name with ⟨-, heq⟩ | ⟨pool, -, heq⟩ | ⟨pool, task, -, heq⟩
  · rw [heq]
    exact .refl kind session
  · rw [heq]
    exact (session.setPool_rests kind hname pool).turns
  · rw [heq]
    exact ((frame_rests kind).trans (session.setPool_rests kind hname pool)
      (launch_rests _ kind hname task)).turns

end Turns

/-! ## Replies -/

section Replies

variable {session : Session} {kind : Kind}

theorem refreshRuns_land (session : Session) (kind : Kind) (id : Nat) (arrival : Arrival) :
    (session.land id arrival).refreshRuns kind =
      (session.refreshRuns kind).filter fun run => run.flight ≠ id := by
  rw [refreshRuns, refreshRuns, List.filter_filterMap]
  refine (List.filterMap_filter).trans (List.filterMap_congr fun flight _ => ?_)
  cases hrun : flight.run? kind with
  | none => simp
  | some run => simp [(Flight.of_run? hrun).1, Option.filter]

theorem watch_endRun (session : Session) (kind : Kind) (task : Nat) :
    (session.endRun (.refresh kind) task).watch kind =
      (session.watch kind).setPool
        ((session.watch kind).rota.pool.finish (session.watch kind).now task) := by
  rw [endRun, watch_setWatchlist_self]
  rfl

theorem land_run_turns (hsound : session.Sound) {flight : Flight} (hflight : flight ∈ session.flights)
    {task : Nat} (howner : flight.owner = .run (.refresh kind) task) (arrival : Arrival)
    (outcome : Outcome Answer) :
    Turns kind session ((session.land flight.id arrival).resume flight outcome) := by
  have hnotPass : ∀ pass, flight.owner ≠ .run .reconcile pass := by
    intro pass hpass
    exact pass_ne kind pass task (hpass.symm.trans howner)
  obtain ⟨before, result, heq, -, hbefore⟩ :=
    (session.land flight.id arrival).resume_eq_conclude outcome
      (hsound.errand_ne_reconcile hflight hnotPass)
  obtain ⟨runs, hruns, hrests⟩ := hbefore _ _ (frame_rests kind).toSteadyFrame
  have hmem : ⟨flight.id, task, flight.request.demand.resourceKey, flight.deadline⟩ ∈
      (session.watch kind).runs :=
    List.mem_filterMap.2 ⟨flight, hflight, Flight.run?_eq_some howner⟩
  rw [watch, refreshRuns_land] at hruns
  have hfinished := (before.watch_endRun kind task).trans
    (congrArg (fun watch => watch.setPool (watch.rota.pool.finish watch.now task)) hrests)
  rw [heq, howner, Turns]
  refine .tail (.single (.finish _ hmem)) ?_
  rw [conclude, hfinished]
  exact .rest runs hruns

/-- A reply that comes for a refresh ends its run. -/
theorem arrive_turns (hsound : session.Sound) (id : Nat) (arrival : Arrival) :
    Turns kind session (session.arrive id arrival) := by
  unfold arrive
  cases hflight : session.flight? id with
  | none => exact .refl kind session
  | some flight =>
    have hid : flight.id = id := by simpa using List.find?_some hflight
    subst hid
    simp only
    by_cases howner : ∃ task, flight.owner = .run (.refresh kind) task
    · obtain ⟨task, howner⟩ := howner
      exact land_run_turns hsound (List.mem_of_find?_eq_some hflight) howner arrival _
    · have hframe := frame_rests kind
      exact (hframe.trans (hframe.land session flight.id arrival)
        (hframe.resume _ (fun task h => howner ⟨task, h⟩) _)).turns

end Replies

/-! ## Runs -/

section Accesses

variable {session : Session}

/-- Everything but the passing of time is a row of turns. -/
theorem step_turns (hsound : session.Sound) (kind : Kind) {move : Move}
    (hmove : ∀ span, move ≠ .elapse span) : Turns kind session (session.step move) := by
  cases move with
  | call id call =>
    rcases session.call_cases id call with ⟨-, heq⟩ | ⟨error, -, heq⟩
    · rw [step, heq]
      exact session.perform_turns kind id call
    · rw [step, heq]
      exact session.conclude_turns kind id _
  | reply id reply =>
    rcases session.reply_cases id reply with hsame | harrives
    · rw [step, hsame]
      exact .refl kind session
    · rw [step, harrives]
      exact arrive_turns hsound id _
  | expire id =>
    rcases session.expire_cases id with hsame | harrives
    · rw [step, hsame]
      exact .refl kind session
    · rw [step, harrives]
      exact arrive_turns hsound id _
  | receive =>
    rcases session.receive_cases with heq | ⟨received, feed, -, -, heq⟩
    · rw [step, heq]
      exact .refl kind session
    · rw [step, heq]
      exact (Rests.of_eq rfl).turns
  | wake pool task => exact session.wake_turns kind pool task
  | start pool => exact session.start_turns kind pool
  | elapse span => exact absurd rfl (hmove span)
  | setRunning | setSupport | announce | closeFeed | reorder => exact (Rests.of_eq rfl).turns

theorem access_turns (hsound : session.Sound) (kind : Kind) {access : Access}
    (haccess : ∀ span, access ≠ .move (.elapse span)) :
    Turns kind session (session.access access) := by
  cases access with
  | move move => exact step_turns hsound kind fun span h => haccess span (congrArg Access.move h)
  | subscribe call other key listener => exact session.subscribe_turns kind call other key listener
  | unsubscribe other key listener => exact session.unsubscribe_turns kind other key listener
  | refresh call other key => exact ((frame_rests kind).send session (call_ne kind call) _ _).turns

theorem Sound.send (hsound : session.Sound) {owner : Owner} {errand : Errand} {demand : Demand}
    (hfits : errand.Fits owner demand) : (session.send owner errand demand).Sound where
  withdrawable := hsound.withdrawable
  fits := by
    intro flight hflight
    rcases List.mem_append.1 hflight with hold | hnew
    · exact hsound.fits flight hold
    · obtain rfl := List.mem_singleton.1 hnew
      exact hfits

theorem Sound.subscribe (hsound : session.Sound) (owner : Owner) (kind : Kind) (key : Key)
    (listener : Listener) : (session.subscribe owner kind key listener).Sound := by
  rcases session.subscribe_cases owner key listener with
    ⟨-, heq⟩ | ⟨list, handle, -, ⟨record, -, heq⟩ | ⟨-, heq⟩⟩
  · rw [heq]
    exact (Aside.conclude session owner _).sound hsound
  · rw [heq]
    exact (Aside.completeSubscription _ owner kind handle record).sound
      ((Aside.setWatchlist session kind list).sound hsound)
  · rw [heq]
    exact ((Aside.setWatchlist session kind list).sound hsound).send trivial

theorem Sound.access (hsound : session.Sound) (access : Access) : (session.access access).Sound := by
  cases access with
  | move move => exact (hsound.step_progress move).sound hsound
  | subscribe call kind key listener => exact hsound.subscribe (.call call) kind key listener
  | unsubscribe kind key listener => exact (Aside.setWatchlist session kind _).sound hsound
  | refresh call kind key => exact hsound.send trivial

theorem Sound.follow (hsound : session.Sound) (accesses : List Access) :
    (session.follow accesses).Sound := by
  induction accesses using List.reverseRecOn with
  | nil => exact hsound
  | append_singleton accesses access ih =>
    rw [follow_snoc]
    exact ih.access access

theorem access_tended (hsound : session.Sound) {kind : Kind}
    (htended : (session.watch kind).rota.Tended) (access : Access) :
    ((session.access access).watch kind).rota.Tended := by
  by_cases helapse : ∃ span, access = .move (.elapse span)
  · obtain ⟨span, rfl⟩ := helapse
    exact htended
  · exact Watch.tended_of_turns (access_turns hsound kind fun span h => helapse ⟨span, h⟩) htended

theorem tended_ofConfig (config : Config) (link : Link) (feed : Feed) (kind : Kind) :
    ((ofConfig config link feed).watch kind).rota.Tended := by
  cases kind with
  | agent => exact Rota.tended_ofWorkers _ _ _
  | mcp => exact Rota.tended_ofWorkers _ _ _

/-- Whatever is done, a key has a task just while somebody listens on it. -/
theorem tended_follow (config : Config) (link : Link) (feed : Feed) (accesses : List Access)
    (kind : Kind) :
    (((ofConfig config link feed).follow accesses).watch kind).rota.Tended := by
  induction accesses using List.reverseRecOn with
  | nil => exact tended_ofConfig config link feed kind
  | append_singleton accesses access ih =>
    rw [follow_snoc]
    exact access_tended ((sound_ofConfig config link feed).follow accesses) ih access

/-- A key is among the refreshes just if somebody listens to it, and before the shutdown one task
refreshes it then, and none otherwise. -/
theorem watched_while_listened (config : Config) (link : Link) (feed : Feed)
    (accesses : List Access) (kind : Kind) (key : Key) :
    let list := ((ofConfig config link feed).follow accesses).watchlist kind
    list.subscriptions.isSubscribed key = list.isRefreshing key ∧
      (list.loops key).length =
        if list.subscriptions.isSubscribed key && !list.pool.isShutdown then 1 else 0 := by
  intro list
  have htended := tended_follow config link feed accesses kind
  refine ⟨htended.listened key, ?_⟩
  rw [list.length_loops]
  exact htended.length_roster key

/-- To leave while the first fetch waits leaves nothing watched. -/
example :
    let key : Key := ⟨"planner", none⟩
    let listener : Listener := { label := "listener" }
    let list := ((ofConfig {} {} (.ofCapacity 16)).follow
      [.subscribe 0 .agent key listener, .unsubscribe .agent key listener]).watchlist .agent
    list.isRefreshing key = false ∧ (list.loops key).length = 0 := by
  decide +kernel

end Accesses

end Session

end RegistrySession
