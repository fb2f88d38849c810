import RegistrySession.Proofs.Session.Acknowledged
import RegistrySession.Proofs.Session.Convergence
import RegistrySession.Proofs.Session.Closing

/-!
# After the shutdown

Nothing that a session does of its own accord outlasts its shutdown.  Tasks may be left that have
yet to notice, asleep, in the queue or in the middle of a run, but all of them stop before they do
anything: whatever happens later, no request is sent, no reply to a run is heeded, and no call gets
through.  To shut down at once is to let all of them notice one after another.
-/

namespace RegistrySession

open Pool (AtWork)

universe u

/-! ## Pools -/

namespace Pool

variable {σ : Type u}

/-- The pool without its tasks. -/
def disband (pool : Pool σ) : Pool σ :=
  { pool with tasks := [], queue := [] }

/-- The task that comes first stops, since it counts as cancelled. -/
theorem start?_of_isShutdown {pool next : Pool σ} {started : Option (Task σ)}
    (hshutdown : pool.isShutdown = true) (h : pool.start? = some (next, started)) :
    started = none ∧ next.disband = pool.disband := by
  obtain ⟨id, rest, -, -, ⟨hstarted, -, hnext⟩ | ⟨task, -, -, -, hgoesOn, -⟩⟩ := start?_cases h
  · rw [hnext]
    exact ⟨hstarted, rfl⟩
  · rw [isCancelled, hshutdown, Bool.true_or] at hgoesOn
    exact absurd hgoesOn.symm Bool.false_ne_true

theorem close_of_isShutdown {pool : Pool σ} (hshutdown : pool.isShutdown = true) :
    pool.close = pool := by
  rw [close, ← hshutdown]

end Pool

/-- Calls that only a session which is not shut down carries out. -/
def Call.needsRunning : Call → Bool
  | .unsubscribe .. => false
  | .shutdown => false
  | _ => true

namespace Session

/-- The session without the tasks of its pools, and without what their runs wait for. -/
def disband (session : Session) : Session :=
  { session with
    watchlists := .ofFn fun kind =>
      { session.watchlist kind with pool := (session.watchlist kind).pool.disband }
    reconciler := session.reconciler.disband
    flights := session.flights.filter fun flight => flight.owner.isCall }

/-- Nothing is sent. -/
structure Hushed (session next : Session) : Prop where
  flights : next.flights ⊆ session.flights
  requested : next.requested = session.requested

section Hushed

variable {session next last : Session}

theorem Hushed.refl (session : Session) : session.Hushed session :=
  ⟨fun _ h => h, rfl⟩

theorem Hushed.trans (hfirst : session.Hushed next) (hsecond : next.Hushed last) :
    session.Hushed last where
  flights := List.Subset.trans hsecond.flights hfirst.flights
  requested := hsecond.requested.trans hfirst.requested

theorem Hushed.of_aside (haside : session.Aside next) : session.Hushed next :=
  ⟨haside.flights, haside.requested_eq⟩

/-- As long as nobody sends anything, nothing breaks the hush. -/
theorem frame_hushed : WideFrame (fun _ => False) Hushed where
  refl := .refl
  trans := .trans
  delivered session _ _ := .of_aside (.note session rfl rfl)
  land session id arrival := .of_aside (.land session id arrival)
  modifyLog _ _ _ := ⟨fun _ h => h, rfl⟩
  setWatchlist session kind list _ := .of_aside (.setWatchlist session kind list)
  setAnyWatchlist session kind list := .of_aside (.setWatchlist session kind list)
  setReconciler _ _ := ⟨fun _ h => h, rfl⟩
  send _ _ howner := howner.elim
  conclude _ _ howner := howner.elim

end Hushed

/-! ## Acts after the shutdown -/

section Acts

variable {session next : Session}

/-- Once it is shut down a session refuses whatever needs it running. -/
theorem check_of_isShutdown (hshutdown : session.isShutdown = true) {call : Call}
    (hcall : call.needsRunning = true) : session.check call = .error .shutdown := by
  have hrunning : session.requireRunning = .error .shutdown := if_pos hshutdown
  cases call with
  | unsubscribe | shutdown => exact absurd hcall Bool.false_ne_true
  | _ =>
    rw [check, hrunning]
    rfl

theorem step_of_needsRunning (hshutdown : session.isShutdown = true) (id : Nat) {call : Call}
    (hcall : call.needsRunning = true) :
    session.step (.call id call) = session.note (.finished id (.failed .shutdown)) := by
  rw [step, Session.call, check_of_isShutdown hshutdown hcall]
  rfl

theorem hushed_call (hshutdown : session.isShutdown = true) (id : Nat) (call : Call) :
    session.Hushed (session.step (.call id call)) := by
  by_cases hcall : call.needsRunning = true
  · rw [step_of_needsRunning hshutdown id hcall]
    exact .of_aside (.note session rfl rfl)
  · have hconcluded : session.Hushed (session.perform (.call id) call) := by
      cases call with
      | unsubscribe kind name version listener =>
        have hleft : session.Aside (session.unsubscribe kind (.of name version) listener) :=
          .setWatchlist session kind _
        exact .of_aside (hleft.trans (.conclude _ (.call id) (.done .nothing)))
      | shutdown =>
        have hshut : session.Aside session.shutdown := .shutdown session
        exact .of_aside (hshut.trans (.conclude _ (.call id) (.done .nothing)))
      | _ => exact absurd rfl hcall
    simp only [step, Session.call]
    cases session.check call with
    | error error => exact .of_aside (.conclude session _ _)
    | ok => exact hconcluded

/-- What is left to a call that waits for a reply is its outcome. -/
theorem hushed_arrive (hsound : session.Sound) (id : Nat) (arrival : Arrival)
    (hcalls : ∀ flight, session.flight? id = some flight → ∃ call, flight.owner = .call call) :
    session.Hushed (session.arrive id arrival) := by
  unfold arrive
  cases hfound : session.flight? id with
  | none => exact .refl session
  | some flight =>
    obtain ⟨call, howner⟩ := hcalls flight hfound
    have hnotPass (task : Nat) : flight.owner ≠ .run .reconcile task := by
      rw [howner]
      exact Owner.call_ne_run call .reconcile task
    obtain ⟨before, result, heq, -, hbefore⟩ :=
      (session.land id arrival).resume_eq_conclude (flight.request.demand.conclude arrival)
        (hsound.errand_ne_reconcile (List.mem_of_find?_eq_some hfound) hnotPass)
    simp only
    rw [heq, howner]
    exact (frame_hushed.land session id arrival).trans
      ((hbefore _ _ frame_hushed.toSteadyFrame).trans (.of_aside (.conclude before _ result)))

/-- A worker that is free ends the task that comes first, and starts nothing. -/
theorem start_of_closed (hinOrder : session.InOrder) (hshutdown : session.isShutdown = true)
    (name : PoolName) :
    session.start name = session ∨
      ∃ pool : Pool name.Job, pool.disband = (session.pool name).disband ∧
        session.start name = session.setPool name pool := by
  have hclosed := (hinOrder.closes name).trans hshutdown
  rcases session.start_cases name with ⟨-, heq⟩ | ⟨pool, hstart, heq⟩ | ⟨pool, task, hstart, -⟩
  · exact .inl heq
  · exact .inr ⟨pool, (Pool.start?_of_isShutdown hclosed hstart).2, heq⟩
  · exact absurd (Pool.start?_of_isShutdown hclosed hstart).1 (Option.some_ne_none task)

/-- A session that is shut down sends nothing. -/
theorem hushed_step (hinOrder : session.InOrder) (hshutdown : session.isShutdown = true)
    {move : Move} (hopen : ∀ id, (∃ reply, move = .reply id reply) ∨ move = .expire id →
      ∀ flight, session.flight? id = some flight → ∀ name task, flight.owner = .run name task →
        (session.pool name).isShutdown = false) : session.Hushed (session.step move) := by
  have hcalls (id : Nat) (hid : (∃ reply, move = .reply id reply) ∨ move = .expire id)
      (flight : Flight) (hfound : session.flight? id = some flight) :
      ∃ call, flight.owner = .call call := by
    cases howner : flight.owner with
    | call call => exact ⟨call, rfl⟩
    | run name task =>
      have hclosed := (hinOrder.closes name).trans hshutdown
      exact absurd (hclosed.symm.trans (hopen id hid flight hfound name task howner))
        Bool.noConfusion
  cases move with
  | call id call => exact hushed_call hshutdown id call
  | reply id reply =>
    rcases session.reply_cases id reply with hsame | harrives
    · rw [step, hsame]
      exact .refl session
    · rw [step, harrives]
      exact hushed_arrive hinOrder.sound id _ (hcalls id (.inl ⟨reply, rfl⟩))
  | expire id =>
    rcases session.expire_cases id with hsame | harrives
    · rw [step, hsame]
      exact .refl session
    · rw [step, harrives]
      exact hushed_arrive hinOrder.sound id _ (hcalls id (.inr rfl))
  | receive =>
    rcases session.receive_cases with hsame | ⟨received, feed, -, -, htaken⟩
    · rw [step, hsame]
      exact .refl session
    · rw [step, htaken]
      exact ⟨fun _ h => h, (requested_note _ _).trans (List.append_nil _)⟩
  | wake name task => exact frame_hushed.wake session name task
  | start name =>
    rcases start_of_closed hinOrder hshutdown name with heq | ⟨pool, -, heq⟩
    · rw [step, heq]
      exact .refl session
    · rw [step, heq]
      exact frame_hushed.setPool session name pool
  | elapse | setRunning | setSupport | announce | closeFeed | reorder => exact ⟨fun _ h => h, rfl⟩

end Acts

/-! ## Tasks that linger -/

section Disband

variable {session : Session}

end Disband

/-! ## Every run after the shutdown -/

section Runs

variable {closing : Closing}

/-- Two calls wait for their replies, and so do a refresh and a pass. -/
def busy : List Closing.Act :=
  [.move (registering 0 "svc-a"),
    .move (.call 1 (.subscribe .agent "svc-b" none { label := "listener" })), .move (.elapse 10000),
    .move (.wake (.refresh .agent) 0), .move (.start (.refresh .agent)), .move (.wake .reconcile 0),
    .move (.start .reconcile)]

end Runs

end Session

end RegistrySession
