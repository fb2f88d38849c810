import RegistrySession.Proofs.Session.Shutdown

/-!
# Shutting down at once

A session that shuts down at once is a session that shuts down step by step, with every task taking
its turn before anything else happens.  So whatever a session does when it shuts down at once is among
the things that it may do when its tasks find out one by one.
-/

namespace RegistrySession

namespace Session

/-- Shuts a pool down at once, and all its runs are cut off. -/
def stop (session : Session) (name : PoolName) : Session :=
  (session.setPool name (session.pool name).shutdown).cutOff name

/-- Tasks of a pool take their turns, one after another. -/
def noticeAll (session : Session) (name : PoolName) (tasks : List Nat) : Session :=
  tasks.foldl (fun session task => session.notice name task) session

def clear (session : Session) (name : PoolName) : Session :=
  session.noticeAll name ((session.pool name).tasks.map Task.id)

section Turns

variable {session : Session} {name : PoolName}

/-- To take turns one after another is to take them all in the pool. -/
theorem noticeAll_eq (hclosed : (session.pool name).isShutdown = true) (tasks : List Nat) :
    session.noticeAll name tasks =
      { session.setPool name
          ((session.pool name).after (tasks.map fun task => (0, .notice task))) with
        flights := session.flights.filter fun flight =>
          ∀ task ∈ tasks, flight.owner ≠ .run name task } := by
  induction tasks generalizing session with
  | nil =>
    have hflights : (session.flights.filter fun flight =>
        ∀ task ∈ ([] : List Nat), flight.owner ≠ .run name task) = session.flights :=
      List.filter_eq_self.2 fun _ _ => decide_eq_true fun _ htask => absurd htask List.not_mem_nil
    rw [hflights]
    cases name with
    | refresh kind => cases kind <;> rfl
    | reconcile => rfl
  | cons task rest ih =>
    have hpool : ((session.setPool name ((session.pool name).notice task).1).abandon name
        task).pool name = ((session.pool name).notice task).1 := by
      rw [pool_abandon, pool_setPool_self]
    have hstays : ((session.pool name).notice task).1.isShutdown = true :=
      (Pool.deed_enact _ 0 (.notice task)).marked.isShutdown hclosed
    have hflights : ((session.abandon name task).flights.filter fun flight =>
        ∀ task ∈ rest, flight.owner ≠ .run name task) =
        session.flights.filter fun flight =>
          ∀ other ∈ task :: rest, flight.owner ≠ .run name other := by
      rw [abandon, List.filter_filter]
      refine List.filter_congr fun flight _ => ?_
      simp only [List.forall_mem_cons, Bool.decide_and, Bool.and_comm]
    change ((session.notice name task).noticeAll name rest) = _
    rw [notice_of_closed hclosed, ih (hpool.symm ▸ hstays), hpool, ← hflights]
    cases name with
    | refresh kind => cases kind <;> rfl
    | reconcile => rfl

/-- A pool that is shut down is left by all as soon as all have had their turn. -/
theorem clear_eq (hinOrder : session.InOrder) (hclosed : (session.pool name).isShutdown = true) :
    session.clear name = session.stop name := by
  have hstaffed := hinOrder.staffed name
  have hpool : (session.pool name).after
      (((session.pool name).tasks.map Task.id).map fun task => (0, .notice task)) =
        (session.pool name).shutdown := by
    have hshutdown := hstaffed.reachable.orderly.shutdown_eq hstaffed.reachable.lined 0
    rw [atWork, Pool.close_of_isShutdown hclosed] at hshutdown
    rw [List.map_map, hshutdown]
    rfl
  have hflights : (session.flights.filter fun flight =>
      ∀ task ∈ (session.pool name).tasks.map Task.id, flight.owner ≠ .run name task) =
      (session.cutOff name).flights := by
    refine List.filter_congr fun flight hflight => ?_
    cases howner : flight.owner with
    | call id => simp
    | run other task =>
      by_cases hname : other = name
      · subst hname
        obtain ⟨found, hfound, -⟩ :=
          Pool.isRunning_iff_exists.1 (hstaffed.running _ (mem_waits hflight howner))
        obtain ⟨hmem, hid⟩ := Pool.mem_tasks_of_task? hfound
        have htask : task ∈ (session.pool other).tasks.map Task.id := List.mem_map.2 ⟨found, hmem, hid⟩
        simp only [ne_eq, not_true, decide_false, decide_eq_false_iff_not]
        exact fun hnone => hnone task htask rfl
      · simp [hname]
  rw [clear, noticeAll_eq hclosed, hpool, hflights]
  cases name <;> rfl

theorem InOrder.noticeAll (hinOrder : session.InOrder) (name : PoolName) (tasks : List Nat) :
    (session.noticeAll name tasks).InOrder := by
  induction tasks generalizing session with
  | nil => exact hinOrder
  | cons task rest ih => exact ih (hinOrder.notice name task)

theorem isShutdown_noticeAll (session : Session) (name : PoolName) (tasks : List Nat) :
    (session.noticeAll name tasks).isShutdown = session.isShutdown := by
  induction tasks generalizing session with
  | nil => rfl
  | cons task rest ih => exact (ih _).trans (session.isShutdown_notice name task)

theorem step_shutdown (session : Session) (id : Nat) :
    session.step (.call id .shutdown) =
      session.shutdown.note (.finished id (.done .nothing)) :=
  rfl

theorem shutdown_of_isShutdown (hshutdown : session.isShutdown = true) :
    session.shutdown = session :=
  if_pos hshutdown

/-- Shutting down goes through the pools, one after the other. -/
theorem shutdown_of_running (hrunning : session.isShutdown = false) :
    session.shutdown =
      ((session.close.stop (.refresh .agent)).stop (.refresh .mcp)).stop .reconcile := by
  have hstop : session.shutdown = ((({ session with isShutdown := true } : Session).stop
      (.refresh .agent)).stop (.refresh .mcp)).stop .reconcile := by
    simp only [Session.shutdown, hrunning, Bool.false_eq_true, if_false]
    rfl
  rw [hstop]
  simp only [stop, setPool, cutOff, pool, watchlist, setWatchlist, close, PerKind.set, PerKind.get,
    PerKind.ofFn, Pool.shutdown, Pool.close]

/-- To shut down at once is to begin with it and to let all tasks take their turns. -/
theorem InOrder.shutdown_eq (hinOrder : session.InOrder) (hrunning : session.isShutdown = false) :
    session.shutdown =
      ((session.close.clear (.refresh .agent)).clear (.refresh .mcp)).clear .reconcile := by
  have hclear {session : Session} (hinOrder : session.InOrder) (hshut : session.isShutdown = true)
      (name : PoolName) : session.clear name = session.stop name ∧
        (session.clear name).InOrder ∧ (session.clear name).isShutdown = true :=
    ⟨clear_eq hinOrder ((hinOrder.closes name).trans hshut), hinOrder.noticeAll name _,
      (isShutdown_noticeAll session name _).trans hshut⟩
  obtain ⟨hagent, hfirst, hshut⟩ := hclear hinOrder.close rfl (.refresh .agent)
  obtain ⟨hmcp, hsecond, hstill⟩ := hclear hfirst hshut (.refresh .mcp)
  obtain ⟨hreconcile, -, -⟩ := hclear hsecond hstill .reconcile
  rw [hreconcile, hmcp, hagent, shutdown_of_running hrunning]

end Turns

/-! ## Runs that shut down at once -/

/-- Once the session is shut down, no run waits for anything. -/
def Vacated (session : Session) : Prop :=
  session.isShutdown = true → ∀ flight ∈ session.flights, ∃ id, flight.owner = .call id

section Runs

variable {session : Session}

theorem mem_stop {name : PoolName} {flight : Flight} :
    flight ∈ (session.stop name).flights ↔
      flight ∈ session.flights ∧ ∀ task, flight.owner ≠ .run name task := by
  have hflights : (session.stop name).flights = (session.cutOff name).flights := by
    cases name <;> rfl
  rw [hflights, cutOff, List.mem_filter]
  refine and_congr_right fun _ => ?_
  cases flight.owner with
  | call id => simp
  | run other task => simp

/-- In a session that is shut down no run comes to wait again. -/
theorem InOrder.vacated_step (hinOrder : session.InOrder) (hvacated : session.Vacated)
    (move : Move) : (session.step move).Vacated := by
  intro hlast flight hflight
  by_cases hmove : ∃ id, move = .call id .shutdown
  · obtain ⟨id, rfl⟩ := hmove
    cases hrunning : session.isShutdown with
    | true =>
      rw [step_shutdown, shutdown_of_isShutdown hrunning] at hflight
      exact hvacated hrunning flight hflight
    | false =>
      rw [step_shutdown, shutdown_of_running hrunning, note, mem_stop, mem_stop,
        mem_stop] at hflight
      obtain ⟨⟨⟨-, hagent⟩, hmcp⟩, hreconcile⟩ := hflight
      cases howner : flight.owner with
      | call id => exact ⟨id, rfl⟩
      | run name task =>
        cases name with
        | refresh kind =>
          cases kind with
          | agent => exact absurd howner (hagent task)
          | mcp => exact absurd howner (hmcp task)
        | reconcile => exact absurd howner (hreconcile task)
  · have hother : ∀ id, move ≠ .call id .shutdown := fun id h => hmove ⟨id, h⟩
    have hshutdown : session.isShutdown = true := (session.isShutdown_step hother).symm.trans hlast
    have hopen (id : Nat) (hid : (∃ reply, move = .reply id reply) ∨ move = .expire id)
        (found : Flight) (hfound : session.flight? id = some found) (name : PoolName) (task : Nat)
        (howner : found.owner = .run name task) : (session.pool name).isShutdown = false := by
      obtain ⟨call, hcall⟩ := hvacated hshutdown found (List.mem_of_find?_eq_some hfound)
      exact absurd (hcall.symm.trans howner) (Owner.call_ne_run call name task)
    exact hvacated hshutdown flight ((hushed_step hinOrder hshutdown hopen).flights hflight)

/-- Nobody has to be told of a shutdown. -/
theorem InOrder.straggler?_eq_none (hinOrder : session.InOrder) (hvacated : session.Vacated)
    (id : Nat) : session.straggler? id = none := by
  cases hfound : session.flight? id with
  | none => rw [straggler?, hfound, Option.bind_none]
  | some flight =>
    rw [straggler?, hfound, Option.bind_some]
    cases howner : flight.owner with
    | call call => rfl
    | run name task =>
      cases hshutdown : session.isShutdown with
      | true =>
        obtain ⟨call, hcall⟩ := hvacated hshutdown flight (List.mem_of_find?_eq_some hfound)
        exact absurd (hcall.symm.trans howner) (Owner.call_ne_run call name task)
      | false => exact if_neg ((hinOrder.closes name).trans hshutdown ▸ Bool.false_ne_true)

theorem exists_follow_clear (closing : Closing) (name : PoolName) :
    ∃ acts, closing.follow acts = { closing with session := closing.session.clear name } := by
  have hfollow (closing : Closing) (tasks : List Nat) :
      closing.follow (tasks.map (.notice name)) =
        { closing with session := closing.session.noticeAll name tasks } := by
    induction tasks generalizing closing with
    | nil => rfl
    | cons task rest ih => exact ih (closing.act (.notice name task))
  exact ⟨_, hfollow closing _⟩

/-- Who shuts down at once leaves nobody behind. -/
theorem isDeserted_shutdown (hrunning : session.isShutdown = false) :
    session.shutdown.isDeserted = true := by
  rw [shutdown_of_running hrunning]
  rfl

/-- The call returns right away if every task takes its turn right away. -/
theorem InOrder.exists_follow_shutdown {closing : Closing} (hinOrder : closing.session.InOrder)
    (hrunning : closing.session.isShutdown = false) (id : Nat) :
    ∃ acts, (closing.follow acts).session = closing.session.step (.call id .shutdown) := by
  let waiting := closing.joining ++ [(id, closing.session.now + Millis.minute)]
  obtain ⟨agent, hagent⟩ :=
    exists_follow_clear ⟨closing.session.close, waiting⟩ (.refresh .agent)
  obtain ⟨mcp, hmcp⟩ :=
    exists_follow_clear ⟨closing.session.close.clear (.refresh .agent), waiting⟩ (.refresh .mcp)
  obtain ⟨reconcile, hreconcile⟩ := exists_follow_clear
    ⟨(closing.session.close.clear (.refresh .agent)).clear (.refresh .mcp), waiting⟩ .reconcile
  have hshutdown : closing.act (.move (.call id .shutdown)) = ⟨closing.session.close, waiting⟩ := by
    simp only [Closing.act, Closing.shutdown, hrunning, Bool.false_eq_true, if_false, waiting]
  have hcleared : closing.follow
      (.move (.call id .shutdown) :: (agent ++ (mcp ++ reconcile))) =
        ⟨closing.session.shutdown, waiting⟩ := by
    change (closing.act (.move (.call id .shutdown))).follow _ = _
    rw [hshutdown, Closing.follow_append, Closing.follow_append, hagent, hmcp, hreconcile,
      hinOrder.shutdown_eq hrunning]
  have hover : (⟨closing.session.shutdown, waiting⟩ : Closing).isOver id = true := by
    simp [Closing.isOver, waiting, isDeserted_shutdown hrunning]
  refine ⟨.move (.call id .shutdown) :: (agent ++ (mcp ++ reconcile)) ++ [.join id], ?_⟩
  rw [Closing.follow_snoc, hcleared]
  exact congrArg Closing.session (if_pos hover)

/-- What one move does, with the call of a shutdown at once, is done by acts in a row. -/
theorem InOrder.exists_follow_step {closing : Closing} (hinOrder : closing.session.InOrder)
    (hvacated : closing.session.Vacated) (move : Move) :
    ∃ acts, (closing.follow acts).session = closing.session.step move := by
  have hpoll (id : Nat) (move : Move) : closing.session.poll id move = closing.session.step move := by
    rw [poll, hinOrder.straggler?_eq_none hvacated]
  by_cases hmove : ∃ id, move = .call id .shutdown
  · obtain ⟨id, rfl⟩ := hmove
    cases hrunning : closing.session.isShutdown with
    | false => exact hinOrder.exists_follow_shutdown hrunning id
    | true =>
      have hact : closing.act (.move (.call id .shutdown)) =
          { closing with session := closing.session.note (.finished id (.done .nothing)) } :=
        if_pos hrunning
      refine ⟨[.move (.call id .shutdown)], (congrArg Closing.session hact).trans ?_⟩
      rw [step_shutdown, shutdown_of_isShutdown hrunning]
  · refine ⟨[.move move], ?_⟩
    cases move with
    | reply id reply => exact hpoll id _
    | expire id => exact hpoll id _
    | call id call =>
      cases call with
      | shutdown => exact absurd ⟨id, rfl⟩ hmove
      | _ => rfl
    | _ => rfl

end Runs

/-- A session whose shutdowns take place at once does nothing that it may not do step by step. -/
theorem exists_follow_eq_run (config : Config) (link : Link) (feed : Feed) (moves : List Move) :
    ∃ acts, ((Closing.ofConfig config link feed).follow acts).session =
      (ofConfig config link feed).run moves := by
  let opened := Closing.ofConfig config link feed
  have hstart : opened.session.InOrder := inOrder_ofConfig config link feed
  have hboth : (∃ acts, ((Closing.ofConfig config link feed).follow acts).session =
      (ofConfig config link feed).run moves) ∧ ((ofConfig config link feed).run moves).Vacated := by
    induction moves using List.reverseRecOn with
    | nil => exact ⟨⟨[], rfl⟩, fun h => Bool.noConfusion h⟩
    | append_singleton moves move ih =>
      obtain ⟨⟨acts, hacts⟩, hvacated⟩ := ih
      have hinOrder : (opened.follow acts).session.InOrder := hstart.follow acts
      obtain ⟨more, hmore⟩ := hinOrder.exists_follow_step (hacts ▸ hvacated) move
      rw [run_snoc, ← hacts]
      refine ⟨⟨acts ++ more, ?_⟩, hinOrder.vacated_step (hacts ▸ hvacated) move⟩
      rw [Closing.follow_append]
      exact hmore
  exact hboth.1

end Session

end RegistrySession
