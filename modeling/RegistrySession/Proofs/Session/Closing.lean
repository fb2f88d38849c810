import RegistrySession.Proofs.Session.Staffed

/-!
# A session that shuts down step by step

A shutdown marks the session and its pools, and everybody finds out at the next turn: a task that
sleeps or waits for a worker leaves, and a run is cut off where it waits, be it that a reply comes or
not.  Until then tasks linger and flights of runs are left, and the watcher may still take events off
the feed.  The call returns as soon as no task is left, or after a minute.  In a shutdown at once all
tasks take their turns one after another.
-/

namespace RegistrySession

open Pool (AtWork)

/-- How long a shutdown waits for tasks to leave. -/
def Millis.minute : Nat := 60000

namespace Session

/-- The session is shut down, and so are its pools, but nobody knows yet. -/
def close (session : Session) : Session :=
  { session with
    isShutdown := true
    watchlists := .ofFn fun kind =>
      { session.watchlist kind with pool := (session.watchlist kind).pool.close }
    reconciler := session.reconciler.close }

/-- Nobody waits any more for what a run asked for. -/
def abandon (session : Session) (name : PoolName) (task : Nat) : Session :=
  { session with flights := session.flights.filter fun flight => flight.owner ≠ .run name task }

/-- A task of a pool that is shut down takes its turn and leaves.  A run is cut off where it waits. -/
def notice (session : Session) (name : PoolName) (task : Nat) : Session :=
  if (session.pool name).isShutdown then
    (session.setPool name ((session.pool name).notice task).1).abandon name task
  else session

/-- The run that waits for a flight, if its pool is shut down. -/
def straggler? (session : Session) (id : Nat) : Option (PoolName × Nat) :=
  (session.flight? id).bind fun flight =>
    match flight.owner with
    | .run name task => if (session.pool name).isShutdown then some (name, task) else none
    | .call _ => none

/-- A run looks whether its pool is shut down before it gets on. -/
def poll (session : Session) (id : Nat) (move : Move) : Session :=
  match session.straggler? id with
  | some (name, task) => session.notice name task
  | none => session.step move

def isDeserted (session : Session) : Bool :=
  (Kind.all.all fun kind => (session.watchlist kind).pool.tasks.isEmpty) &&
    session.reconciler.tasks.isEmpty

/-- A session with the shutdowns that wait for tasks to leave, each with the moment up to which it
waits. -/
structure Closing where
  session : Session
  joining : List (Nat × Nat) := []

namespace Closing

inductive Act
  | move (move : Move)
  /-- A task takes its turn. -/
  | notice (pool : PoolName) (task : Nat)
  /-- So does the watcher of the feed. -/
  | unwatch
  /-- A shutdown returns. -/
  | join (call : Nat)

/-- A second shutdown has nothing to wait for. -/
def shutdown (closing : Closing) (id : Nat) : Closing :=
  if closing.session.isShutdown then
    { closing with session := closing.session.note (.finished id (.done .nothing)) }
  else
    { session := closing.session.close
      joining := closing.joining ++ [(id, closing.session.now + Millis.minute)] }

/-- A shutdown waits no longer. -/
def isOver (closing : Closing) (id : Nat) : Bool :=
  closing.joining.any fun waiting =>
    waiting.1 = id && (closing.session.isDeserted || waiting.2 ≤ closing.session.now)

def join (closing : Closing) (id : Nat) : Closing :=
  if closing.isOver id then
    { session := closing.session.note (.finished id (.done .nothing))
      joining := closing.joining.filter fun waiting => waiting.1 ≠ id }
  else closing

def unwatch (session : Session) : Session :=
  { session with isWatching := session.isWatching && !session.isShutdown }

def act (closing : Closing) : Act → Closing
  | .move (.call id .shutdown) => closing.shutdown id
  | .move (.reply id reply) =>
    { closing with session := closing.session.poll id (.reply id reply) }
  | .move (.expire id) => { closing with session := closing.session.poll id (.expire id) }
  | .move move => { closing with session := closing.session.step move }
  | .notice pool task => { closing with session := closing.session.notice pool task }
  | .unwatch => { closing with session := unwatch closing.session }
  | .join id => closing.join id

def follow (closing : Closing) (acts : List Act) : Closing :=
  acts.foldl act closing

def ofConfig (config : Config) (link : Link) (feed : Feed) : Closing where
  session := Session.ofConfig config link feed

theorem follow_append (closing : Closing) (earlier later : List Act) :
    closing.follow (earlier ++ later) = (closing.follow earlier).follow later :=
  List.foldl_append

theorem follow_snoc (closing : Closing) (acts : List Act) (act : Act) :
    closing.follow (acts ++ [act]) = (closing.follow acts).act act :=
  closing.follow_append acts [act]

end Closing

/-! ## What a turn does -/

section Turns

variable {session : Session} {name : PoolName} {task : Nat}

@[simp]
theorem pool_close (session : Session) (name : PoolName) :
    session.close.pool name = (session.pool name).close := by
  cases name with
  | refresh kind =>
    exact congrArg Watchlist.pool (PerKind.get_ofFn
      (fun kind => { session.watchlist kind with pool := (session.watchlist kind).pool.close }) kind)
  | reconcile => rfl

/-- Whoever looks after a kind finds the pool closed, and the rest as it was. -/
theorem rota_close (session : Session) (kind : Kind) :
    (session.close.watch kind).rota =
      { (session.watch kind).rota with pool := (session.watchlist kind).pool.close } := by
  have hlist : session.close.watchlist kind =
      { session.watchlist kind with pool := (session.watchlist kind).pool.close } :=
    PerKind.get_ofFn _ kind
  rw [watch, hlist]
  rfl

theorem rota_setPool (session : Session) (name : PoolName) (pool : Pool name.Job) (kind : Kind) :
    ((session.setPool name pool).watch kind).rota =
      { (session.watch kind).rota with
        pool := (session.setPool name pool).pool (.refresh kind) } := by
  by_cases hname : .refresh kind = name
  · subst hname
    rw [pool_setPool_self, setPool, watch_setWatchlist_self]
    rfl
  · rw [session.pool_setPool_of_ne name hname]
    cases name with
    | refresh other =>
      have hkind : kind ≠ other := fun hkind => hname (hkind ▸ rfl)
      rw [setPool, watch_setWatchlist_of_ne session hkind]
      rfl
    | reconcile => rfl

theorem atWork_close (session : Session) (name : PoolName) :
    session.close.atWork name = { session.atWork name with pool := (session.pool name).close } := by
  rw [atWork, pool_close]
  rfl

theorem pool_abandon (session : Session) (name : PoolName) (task : Nat) (other : PoolName) :
    (session.abandon name task).pool other = session.pool other := by
  cases other <;> rfl

theorem waits_abandon_self (session : Session) (name : PoolName) (task : Nat) :
    (session.abandon name task).waits name =
      (session.waits name).filter fun wait => wait.2 ≠ task := by
  refine List.filterMap_filter.trans ?_
  rw [waits, List.filter_filterMap]
  refine List.filterMap_congr fun flight _ => ?_
  by_cases howner : ∃ other, flight.owner = .run name other
  · obtain ⟨other, howner⟩ := howner
    rw [howner, Owner.task?_run]
    by_cases hother : other = task
    · simp [hother, Option.filter]
    · have hrun : Owner.run name other ≠ .run name task := fun h => hother (Owner.run.inj h).2
      simp [hother, hrun, Option.filter]
  · have hother : ∀ task, flight.owner ≠ .run name task := fun task h => howner ⟨task, h⟩
    simp [Owner.task?_eq_none hother]

theorem waits_abandon_of_ne (session : Session) {name other : PoolName} (h : other ≠ name)
    (task : Nat) : (session.abandon name task).waits other = session.waits other := by
  refine List.filterMap_filter.trans (List.filterMap_congr fun flight _ => ?_)
  by_cases howner : flight.owner = .run name task
  · simp [howner, Owner.task?, Ne.symm h]
  · simp [howner]

/-- A turn in a pool that is shut down is one in small steps. -/
theorem notice_works (session : Session) (name other : PoolName) (task : Nat) :
    Works other session (session.notice name task) := by
  cases hclosed : (session.pool name).isShutdown with
  | false =>
    rw [notice, hclosed]
    exact .of_eq rfl
  | true =>
    have hnotice : session.notice name task =
        (session.setPool name ((session.pool name).notice task).1).abandon name task := by
      rw [notice, hclosed]
      rfl
    rw [hnotice]
    by_cases hname : other = name
    · subst hname
      have hatWork : ((session.setPool other ((session.pool other).notice task).1).abandon other
          task).atWork other =
          ⟨((session.pool other).notice task).1,
            (session.waits other).filter fun wait => wait.2 ≠ task⟩ := by
        rw [atWork, pool_abandon, pool_setPool_self, waits_abandon_self, waits_setPool]
      intro _
      rw [hatWork]
      exact ⟨[(session.now, .notice task)], .cons session.now (.isCut task hclosed) (.nil _)⟩
    · refine .of_eq ?_
      rw [atWork, pool_abandon, session.pool_setPool_of_ne name hname,
        waits_abandon_of_ne _ hname, waits_setPool, atWork]

end Turns

/-! ## What holds in every state -/

/-- Whoever waits is in the middle of a run, and the session is shut down just if its pools are. -/
structure InOrder (session : Session) : Prop where
  sound : session.Sound
  numbered : session.Numbered
  tended : ∀ kind, (session.watch kind).rota.Tended
  staffed : ∀ name, (session.atWork name).Staffed
  closes : ∀ name, (session.pool name).isShutdown = session.isShutdown

theorem frame_isShutdown :
    WideFrame (fun _ => True) fun session next => next.isShutdown = session.isShutdown where
  refl _ := rfl
  trans hfirst hsecond := hsecond.trans hfirst
  delivered _ _ _ := rfl
  land _ _ _ := rfl
  modifyLog _ _ _ := rfl
  setWatchlist _ _ _ _ := rfl
  setAnyWatchlist _ _ _ := rfl
  setReconciler _ _ := rfl
  send _ _ _ _ _ := rfl
  conclude session owner _ outcome := by
    cases owner with
    | call id => rfl
    | run pool task => cases pool <;> rfl

section InOrder

variable {session next : Session}

/-- Nothing but its call shuts a session down. -/
theorem isShutdown_step (session : Session) {move : Move}
    (hmove : ∀ id, move ≠ .call id .shutdown) :
    (session.step move).isShutdown = session.isShutdown := by
  have hframe := frame_isShutdown
  cases move with
  | call id call =>
    have hcall : call ≠ .shutdown := fun h => hmove id (h ▸ rfl)
    simp only [step, Session.call]
    cases session.check call with
    | ok => exact hframe.perform trivial session hcall
    | error => rfl
  | reply id reply => exact hframe.reply session id reply fun _ _ => trivial
  | expire id => exact hframe.expire session id fun _ _ => trivial
  | wake pool task => exact hframe.wake session pool task
  | start pool => exact hframe.start session pool fun _ => trivial
  | receive =>
    rcases session.receive_cases with hsame | ⟨received, feed, -, -, htaken⟩
    · rw [step, hsame]
    · rw [step, htaken]
      rfl
  | elapse | setRunning | setSupport | announce | closeFeed | reorder => rfl

theorem inOrder_ofConfig (config : Config) (link : Link) (feed : Feed) :
    (ofConfig config link feed).InOrder where
  sound := sound_ofConfig config link feed
  numbered := numbered_ofConfig config link feed
  tended := tended_ofConfig config link feed
  staffed name := by
    refine ⟨?_, List.nodup_nil, fun wait hwait => absurd hwait List.not_mem_nil⟩
    let delay : Millis := config.redoDelay.toNat
    cases name with
    | refresh kind =>
      cases kind with
      | agent => exact ⟨"agent_card_refresh", config.refreshWorkers.toNat, [], rfl⟩
      | mcp => exact ⟨"mcp_server_refresh", config.refreshWorkers.toNat, [], rfl⟩
    | reconcile =>
      exact ⟨"redo", config.redoWorkers.toNat, [(0, .schedule delay delay ())], rfl⟩
  closes name := by
    cases name with
    | refresh kind => cases kind <;> rfl
    | reconcile => rfl

/-- What the invariant does not speak of may change. -/
theorem InOrder.of_eq (hinOrder : session.InOrder) (haside : session.Aside next)
    (hrota : ∀ kind, (next.watch kind).rota = (session.watch kind).rota)
    (hatWork : ∀ name, next.atWork name = session.atWork name)
    (hisShutdown : next.isShutdown = session.isShutdown) : next.InOrder where
  sound := haside.sound hinOrder.sound
  numbered := hinOrder.numbered.of_subset haside.flights haside.nextFlight
  tended kind := hrota kind ▸ hinOrder.tended kind
  staffed name := hatWork name ▸ hinOrder.staffed name
  closes name := by
    have hpool : next.pool name = session.pool name := congrArg AtWork.pool (hatWork name)
    rw [hpool, hisShutdown]
    exact hinOrder.closes name

theorem InOrder.step (hinOrder : session.InOrder) {move : Move}
    (hmove : ∀ id, move ≠ .call id .shutdown)
    (hopen : ∀ id, (∃ reply, move = .reply id reply) ∨ move = .expire id →
      ∀ flight, session.flight? id = some flight → ∀ name task, flight.owner = .run name task →
        (session.pool name).isShutdown = false) : (session.step move).InOrder := by
  have hrow (name : PoolName) := step_works hinOrder.numbered hinOrder.tended hmove
    (fun id hid flight hfound => hopen id hid flight hfound name) (hinOrder.staffed name)
  have hprogress := hinOrder.sound.step_progress move
  constructor
  case sound => exact hprogress.sound hinOrder.sound
  case numbered => exact hprogress.numbered hinOrder.numbered
  case tended =>
    intro kind
    by_cases helapse : ∃ span, move = .elapse span
    · obtain ⟨span, rfl⟩ := helapse
      exact hinOrder.tended kind
    · exact Watch.tended_of_turns
        (step_turns hinOrder.sound kind fun span h => helapse ⟨span, h⟩) (hinOrder.tended kind)
  case staffed =>
    intro name
    obtain ⟨acts, hacts⟩ := hrow name
    exact ((hinOrder.staffed name).row hacts).1
  case closes =>
    intro name
    obtain ⟨acts, hacts⟩ := hrow name
    have hpool := (hinOrder.staffed name).isShutdown_row hacts
    rw [session.isShutdown_step hmove, ← hinOrder.closes name]
    exact hpool

/-- Shutting down may begin at any time. -/
theorem InOrder.close (hinOrder : session.InOrder) : session.close.InOrder where
  sound := ⟨hinOrder.sound.fits, hinOrder.sound.withdrawable⟩
  numbered := ⟨hinOrder.numbered.fresh, hinOrder.numbered.unique⟩
  tended kind := by
    rw [rota_close]
    exact (hinOrder.tended kind).of_isShutdown (hinOrder.tended kind).orderly.close rfl
      (Nat.le_refl _)
  staffed name := by
    rw [atWork_close]
    exact (hinOrder.staffed name).close
  closes name := by
    rw [pool_close]
    rfl

/-- As long as its pool is open, a task that looks whether to go on goes on. -/
theorem notice_of_open {name : PoolName} (hopen : (session.pool name).isShutdown = false)
    (task : Nat) : session.notice name task = session := by
  rw [Session.notice, hopen]
  rfl

theorem notice_of_closed {name : PoolName} (hclosed : (session.pool name).isShutdown = true)
    (task : Nat) : session.notice name task =
      (session.setPool name ((session.pool name).notice task).1).abandon name task := by
  rw [Session.notice, hclosed]
  rfl

theorem aside_notice (session : Session) (name : PoolName) (task : Nat) :
    session.Aside (session.notice name task) := by
  cases hclosed : (session.pool name).isShutdown with
  | false =>
    rw [notice_of_open hclosed]
    exact .refl session
  | true =>
    rw [notice_of_closed hclosed]
    cases name <;> exact .of_eq rfl List.filter_sublist.subset rfl rfl rfl

theorem isShutdown_notice (session : Session) (name : PoolName) (task : Nat) :
    (session.notice name task).isShutdown = session.isShutdown := by
  cases hclosed : (session.pool name).isShutdown with
  | false => rw [notice_of_open hclosed]
  | true =>
    rw [notice_of_closed hclosed]
    cases name <;> rfl

theorem InOrder.notice (hinOrder : session.InOrder) (name : PoolName) (task : Nat) :
    (session.notice name task).InOrder := by
  cases hclosed : (session.pool name).isShutdown with
  | false =>
    rw [notice_of_open hclosed]
    exact hinOrder
  | true =>
    have haside := session.aside_notice name task
    have hpools (other : PoolName) : (session.pool other).isShutdown = true :=
      (hinOrder.closes other).trans ((hinOrder.closes name).symm.trans hclosed)
    have hrow (other : PoolName) := session.notice_works name other task (hinOrder.staffed other)
    have hstaffed (other : PoolName) : ((session.notice name task).atWork other).Staffed := by
      obtain ⟨acts, hacts⟩ := hrow other
      exact ((hinOrder.staffed other).row hacts).1
    have hstays (other : PoolName) : ((session.notice name task).pool other).isShutdown = true := by
      obtain ⟨acts, hacts⟩ := hrow other
      exact ((hinOrder.staffed other).isShutdown_row hacts).trans (hpools other)
    constructor
    case sound => exact haside.sound hinOrder.sound
    case numbered => exact hinOrder.numbered.of_subset haside.flights haside.nextFlight
    case tended =>
      intro kind
      obtain ⟨acts, hacts⟩ := hrow (.refresh kind)
      have hnext := (hinOrder.staffed (.refresh kind)).next_le_row hacts
      have hrota : ((session.notice name task).watch kind).rota =
          { (session.watch kind).rota with
            pool := (session.notice name task).pool (.refresh kind) } := by
        rw [notice_of_closed hclosed]
        exact session.rota_setPool name _ kind
      rw [hrota]
      exact (hinOrder.tended kind).of_isShutdown (hstaffed (.refresh kind)).reachable.orderly
        (hstays (.refresh kind)) hnext
    case staffed => exact hstaffed
    case closes =>
      intro other
      rw [isShutdown_notice, hstays other, ← hinOrder.closes other, hpools other]

end InOrder

/-! ## Acts -/

namespace Closing

/-- What an act does to the session.  A run that gets on with a reply does so in a pool that is
open. -/
inductive Deed (session : Session) : Act → Session → Prop
  | rest (act : Act) : Deed session act session
  | step (move : Move) (hmove : ∀ id, move ≠ .call id .shutdown)
      (hopen : ∀ id, (∃ reply, move = .reply id reply) ∨ move = .expire id →
        ∀ flight, session.flight? id = some flight → ∀ name task, flight.owner = .run name task →
          (session.pool name).isShutdown = false) :
      Deed session (.move move) (session.step move)
  | close (id : Nat) (hrunning : session.isShutdown = false) :
      Deed session (.move (.call id .shutdown)) session.close
  | notice (act : Act) (name : PoolName) (task : Nat) :
      Deed session act (session.notice name task)
  | note (act : Act) (id : Nat) : Deed session act (session.note (.finished id (.done .nothing)))
  | unwatch : Deed session .unwatch (Closing.unwatch session)

/-- A wait that is nobody's in a pool that is shut down may end. -/
theorem straggler?_eq_none {session : Session} {id : Nat} (h : session.straggler? id = none)
    {flight : Flight} (hfound : session.flight? id = some flight) {name : PoolName} {task : Nat}
    (howner : flight.owner = .run name task) : (session.pool name).isShutdown = false := by
  cases hclosed : (session.pool name).isShutdown with
  | false => rfl
  | true =>
    rw [straggler?, hfound] at h
    simp [howner, hclosed] at h

/-- A run whose pool is shut down is not let get on. -/
theorem deed_poll (session : Session) {id : Nat} {move : Move}
    (hmove : (∃ reply, move = .reply id reply) ∨ move = .expire id) :
    Deed session (.move move) (session.poll id move) := by
  unfold poll
  cases hstraggler : session.straggler? id with
  | some run => exact .notice _ run.1 run.2
  | none =>
    refine .step move ?_ fun other hother flight hfound name task howner => ?_
    · rintro call rfl
      rcases hmove with ⟨reply, h⟩ | h <;> exact Move.noConfusion h
    · have hid : other = id := by
        rcases hmove with ⟨reply, rfl⟩ | rfl
        · rcases hother with ⟨reply, h⟩ | h
          · exact (Move.reply.inj h).1.symm
          · exact Move.noConfusion h
        · rcases hother with ⟨reply, h⟩ | h
          · exact Move.noConfusion h
          · exact (Move.expire.inj h).symm
      subst hid
      exact straggler?_eq_none hstraggler hfound howner

/-- Every act of a session that is shutting down comes to one of these. -/
theorem deed_act (closing : Closing) (act : Act) :
    Deed closing.session act (closing.act act).session := by
  have hstep (move : Move) (hmove : ∀ id, move ≠ .call id .shutdown)
      (hreply : ∀ id reply, move ≠ .reply id reply) (hexpire : ∀ id, move ≠ .expire id) :
      Deed closing.session (.move move) (closing.session.step move) := by
    refine .step move hmove fun id hid => ?_
    rcases hid with ⟨reply, h⟩ | h
    · exact absurd h (hreply id reply)
    · exact absurd h (hexpire id)
  cases act with
  | move move =>
    cases move with
    | call id call =>
      cases call with
      | shutdown =>
        cases hrunning : closing.session.isShutdown with
        | false =>
          simp only [Closing.act, shutdown, hrunning, Bool.false_eq_true, if_false]
          exact .close id hrunning
        | true =>
          simp only [Closing.act, shutdown, hrunning, if_true]
          exact .note _ id
      | _ =>
        exact hstep _ (fun _ h => Call.noConfusion (Move.call.inj h).2)
          (fun _ _ => Move.noConfusion) fun _ => Move.noConfusion
    | reply id reply => exact deed_poll closing.session (.inl ⟨reply, rfl⟩)
    | expire id => exact deed_poll closing.session (.inr rfl)
    | _ =>
      exact hstep _ (fun _ => Move.noConfusion) (fun _ _ => Move.noConfusion)
        fun _ => Move.noConfusion
  | notice name task => exact .notice _ name task
  | unwatch => exact .unwatch
  | join id =>
    cases hover : closing.isOver id with
    | false =>
      simp only [Closing.act, join, hover, Bool.false_eq_true, if_false]
      exact .rest _
    | true =>
      simp only [Closing.act, join, hover, if_true]
      exact .note _ id

end Closing

section InOrder

variable {session next : Session} {act : Closing.Act}

theorem InOrder.deed (hinOrder : session.InOrder) (hdeed : Closing.Deed session act next) :
    next.InOrder := by
  cases hdeed with
  | rest => exact hinOrder
  | step move hmove hopen => exact hinOrder.step hmove hopen
  | close => exact hinOrder.close
  | notice _ name task => exact hinOrder.notice name task
  | note _ id =>
    exact hinOrder.of_eq (.note session rfl rfl) (fun _ => rfl) (fun name => by cases name <;> rfl) rfl
  | unwatch =>
    exact hinOrder.of_eq (.of_eq rfl (fun _ h => h) rfl rfl rfl) (fun _ => rfl)
      (fun name => by cases name <;> rfl) rfl

/-- Whatever is done before or during a shutdown, the session stays in order. -/
theorem InOrder.follow {closing : Closing} (hinOrder : closing.session.InOrder)
    (acts : List Closing.Act) : (closing.follow acts).session.InOrder := by
  induction acts using List.reverseRecOn with
  | nil => exact hinOrder
  | append_singleton acts act ih =>
    rw [Closing.follow_snoc]
    exact ih.deed ((closing.follow acts).deed_act act)

end InOrder

end Session

end RegistrySession
