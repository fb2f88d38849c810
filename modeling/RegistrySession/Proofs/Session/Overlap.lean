import RegistrySession.Proofs.Session.Renewal
import RegistrySession.Proofs.Watchlist.Spacing

/-!
# Whether refreshes overlap

A task that is cancelled lets its run finish, so a key that is subscribed again may be fetched by two
runs at the same time.  A single worker keeps this from happening.  Otherwise an interval longer than
the timeout does, if requests are given up in time, and so are the waits for new credentials.
-/

namespace RegistrySession

def Config.refreshInterval (config : Config) : Kind → Millis
  | .agent => config.agentRefreshInterval.toNat
  | .mcp => config.mcpRefreshInterval.toNat

namespace Session

namespace Renewal

/-- No wait for a reply goes on past its deadline. -/
def isPunctual (renewal : Renewal) : Bool :=
  renewal.session.flights.all fun flight =>
    renewal.isDenied flight.id || renewal.session.now ≤ flight.deadline

/-- Nor does one for credentials. -/
def isPrompt (renewal : Renewal) : Bool :=
  renewal.session.flights.all fun flight => renewal.session.now ≤ flight.deadline

theorem punctual_of_isPrompt {renewal : Renewal} (h : renewal.isPrompt = true) (kind : Kind) :
    ∀ run ∈ (renewal.session.watch kind).runs, (renewal.session.watch kind).now ≤ run.deadline := by
  intro run hrun
  obtain ⟨flight, hflight, hfound⟩ := List.mem_filterMap.1 hrun
  rw [(Flight.of_run? hfound).2]
  exact of_decide_eq_true (List.all_eq_true.1 h flight hflight)

def ofConfig (config : Config) (link : Link) (feed : Feed) : Renewal where
  session := Session.ofConfig config link feed

theorem sound_ofConfig (config : Config) (link : Link) (feed : Feed) :
    (ofConfig config link feed).Sound :=
  ⟨Session.sound_ofConfig config link feed, fun _ hdenial => absurd hdenial List.not_mem_nil⟩

section Invariants

variable (config : Config) (link : Link) (feed : Feed) (acts : List Act) (kind : Kind)

/-- Every refresh that waits is a run of its task. -/
theorem manned_follow :
    (((ofConfig config link feed).follow acts).session.watch kind).Manned ∧
      (((ofConfig config link feed).follow acts).session.watch kind).settings =
        (config.effectiveTimeout, config.refreshInterval kind,
          max config.refreshWorkers.toNat 1) := by
  induction acts using List.reverseRecOn with
  | nil =>
    refine ⟨⟨tended_ofConfig config link feed kind, List.nodup_nil, ?_⟩, ?_⟩
    · exact fun run hrun => absurd hrun List.not_mem_nil
    · cases kind <;> rfl
  | append_singleton acts act ih =>
    obtain ⟨hmanned, hsettings⟩ := ih
    rw [follow_snoc]
    by_cases helapse : ∃ span, act = .access (.move (.elapse span))
    · obtain ⟨span, rfl⟩ := helapse
      exact ⟨⟨hmanned.tended, hmanned.tasks, hmanned.crew⟩, hsettings⟩
    · have hturns := act_turns ((sound_ofConfig config link feed).follow acts) kind
        fun span h => helapse ⟨span, h⟩
      obtain ⟨hnext, hsame⟩ := Watch.manned_of_turns hturns hmanned
      exact ⟨hnext, hsame.trans hsettings⟩

theorem spaced_follow (hprompt : (ofConfig config link feed).always isPrompt acts = true)
    (hgivenUp : config.effectiveTimeout.after 0 < (config.refreshInterval kind).after 0) :
    (((ofConfig config link feed).follow acts).session.watch kind).Spaced := by
  induction acts using List.reverseRecOn with
  | nil =>
    have hnobody : ∀ run, run ∉ ((ofConfig config link feed).session.watch kind).runs :=
      fun _ => List.not_mem_nil
    exact ⟨fun run hrun => absurd hrun (hnobody run), fun run hrun => absurd hrun (hnobody run),
      List.nodup_nil, fun run hrun => absurd hrun (hnobody run)⟩
  | append_singleton acts act ih =>
    rw [always_snoc, Bool.and_eq_true] at hprompt
    obtain ⟨hbefore, hdue⟩ := hprompt
    have hspaced := ih hbefore
    obtain ⟨hmanned, hsettings⟩ := manned_follow config link feed acts kind
    have hwatch := punctual_of_isPrompt hdue kind
    rw [follow_snoc] at hwatch ⊢
    by_cases helapse : ∃ span, act = .access (.move (.elapse span))
    · obtain ⟨span, rfl⟩ := helapse
      exact hspaced.elapse hwatch
    · have hturns := act_turns ((sound_ofConfig config link feed).follow acts) kind
        fun span h => helapse ⟨span, h⟩
      obtain ⟨htimeout, hrest⟩ := Prod.mk.inj hsettings
      obtain ⟨hinterval, -⟩ := Prod.mk.inj hrest
      refine Watch.spaced_of_turns hturns hmanned hspaced ?_
      rwa [htimeout, hinterval]

/-- A single worker carries out one run at a time. -/
theorem nodup_keys_of_single (hsingle : config.refreshWorkers.toNat ≤ 1) :
    ((((ofConfig config link feed).follow acts).session.refreshRuns kind).map Run.key).Nodup := by
  obtain ⟨hmanned, hsettings⟩ := manned_follow config link feed acts kind
  have hworkers := congrArg (fun settings => settings.2.2) hsettings
  have hlength := hmanned.length_runs_le
  simp only [Watch.settings, Nat.max_eq_right hsingle] at hworkers
  rw [hworkers] at hlength
  change (((((ofConfig config link feed).follow acts).session.watch kind).runs).map Run.key).Nodup
  cases hruns : (((ofConfig config link feed).follow acts).session.watch kind).runs with
  | nil => exact List.nodup_nil
  | cons run rest =>
    rw [hruns, List.length_cons] at hlength
    obtain rfl := List.length_eq_zero_iff.1 (Nat.le_zero.1 (Nat.le_of_succ_le_succ hlength))
    exact List.nodup_singleton _

end Invariants

/-! ## When runs meet -/

/-- Two runs of one key: the first is still under way when the listener leaves and comes back, and
again when the task of the second subscription first wakes up. -/
def resubscribing (kind : Kind) (key : Key) (interval : Millis) (meanwhile : List Act) : List Act :=
  let listener : Listener := { label := "listener" }
  [.access (.subscribe 0 kind key listener), .access (.move (.reply 0 .breakdown)),
    .access (.move (.elapse interval)), .access (.move (.wake (.refresh kind) 0)),
    .access (.move (.start (.refresh kind)))] ++ meanwhile ++
  [.access (.unsubscribe kind key listener), .access (.subscribe 1 kind key listener),
    .access (.move (.reply 2 .breakdown)), .access (.move (.elapse interval)),
    .access (.move (.wake (.refresh kind) 1)), .access (.move (.start (.refresh kind)))]

/-- The first run is denied permission. -/
def denying : List Act :=
  [.access (.move (.reply 1 (.response (.failed .noRight "expired"))))]

theorem exists_watchlist_ofConfig (config : Config) (link : Link) (feed : Feed) (kind : Kind) :
    ∃ name, (Session.ofConfig config link feed).watchlists.get kind =
      .ofPool (.ofWorkers name config.refreshWorkers.toNat) (config.refreshInterval kind) := by
  cases kind
  · exact ⟨_, rfl⟩
  · exact ⟨_, rfl⟩

section Overlap

variable (config : Config) (link : Link) (feed : Feed) (kind : Kind) (key : Key)

/-- With a second worker two runs of a key meet though no wait for a reply goes on past its deadline,
since the first run waits for credentials.  Where the timeout is no shorter than the interval, they
meet though no wait does. -/
theorem overlap_resubscribing (hworkers : 1 < config.refreshWorkers.toNat) :
    let interval := (config.refreshInterval kind).after 0
    let denied := resubscribing kind key interval denying
    let waiting := resubscribing kind key interval []
    let runs := fun acts => ((ofConfig config link feed).follow acts).session.refreshRuns kind
    ((ofConfig config link feed).always isPunctual denied = true ∧
      (runs denied).map Run.key = [key, key]) ∧
    (interval ≤ config.effectiveTimeout.after 0 →
      (ofConfig config link feed).always isPrompt waiting = true ∧
        (runs waiting).map Run.key = [key, key]) := by
  obtain ⟨name, hlist⟩ := exists_watchlist_ofConfig config link feed kind
  have hstaffed : ¬ max config.refreshWorkers.toNat 1 = 0 := by omega
  have hfree : ¬ max config.refreshWorkers.toNat 1 - 1 = 0 := by omega
  have hflights : (Session.ofConfig config link feed).flights = [] := rfl
  have hnow : (Session.ofConfig config link feed).now = 0 := rfl
  have htimeout : (Session.ofConfig config link feed).timeout = config.effectiveTimeout := rfl
  have hnext : (Session.ofConfig config link feed).nextFlight = 0 := rfl
  rw [ofConfig]
  generalize Session.ofConfig config link feed = session at *
  simp only [Millis.after, Nat.zero_add]
  generalize hinterval : min (config.refreshInterval kind) Millis.longest = interval at *
  generalize hgivenUp : min config.effectiveTimeout Millis.longest = timeout at *
  -- the acts are carried out one after another on a session of which just these fields count
  simp [*, always, isPunctual, isPrompt, resubscribing, denying, follow, Renewal.act, isDenied,
    reply?, isHeldBack, Arrival.deniesPermission, access, subscribe, Watchlist.subscribe?,
    Watchlist.addRefresh?, Watchlist.ofPool, Watchlist.find?, watchlist, setWatchlist,
    Pool.schedule?, Pool.ofWorkers, Table.contains, Subscriptions.register, Subscriptions.handle?,
    Subscriptions.handlesOf, Subscriptions.empty, step, reply, send, note, flight?, arrive, land,
    resume, Demand.conclude, Arrival.settle, conclude, wake, start, Pool.wake, Pool.task?,
    Pool.isDue, Pool.setPhase, Pool.start?, Pool.freeWorkers, Pool.running, Pool.isCancelled,
    Session.unsubscribe, Watchlist.unsubscribe, Subscriptions.deregister, Watchlist.removeRefresh,
    Pool.cancel, refreshRuns, Flight.run?, Millis.after]

end Overlap

end Renewal

/-- A task has one run at most, and so does a key among the tasks that go on.  All runs of a key are
one at most, where every reply is given up in time, just if there is a single worker; where the waits
for credentials are as short, also if a request is given up before the interval is over. -/
theorem refreshes_apart_iff (config : Config) (kind : Kind) :
    (∀ link feed acts,
      let session := ((Renewal.ofConfig config link feed).follow acts).session
      let runs := session.refreshRuns kind
      let goesOn := fun run : Run => !(session.watchlist kind).pool.isCancelled run.task
      (runs.map Run.task).Nodup ∧ ((runs.filter goesOn).map Run.key).Nodup) ∧
    ((∀ link feed acts, (Renewal.ofConfig config link feed).always Renewal.isPunctual acts = true →
        ((((Renewal.ofConfig config link feed).follow acts).session.refreshRuns kind).map
          Run.key).Nodup) ↔
      config.refreshWorkers.toNat ≤ 1) ∧
    ((∀ link feed acts, (Renewal.ofConfig config link feed).always Renewal.isPrompt acts = true →
        ((((Renewal.ofConfig config link feed).follow acts).session.refreshRuns kind).map
          Run.key).Nodup) ↔
      config.refreshWorkers.toNat ≤ 1 ∨
        config.effectiveTimeout.after 0 < (config.refreshInterval kind).after 0) := by
  have hmeet (hworkers : 1 < config.refreshWorkers.toNat) :=
    Renewal.overlap_resubscribing config {} (.ofCapacity 1) kind ⟨"weather", none⟩ hworkers
  refine ⟨fun link feed acts => ?_, ⟨fun hapart => ?_, fun hsingle link feed acts _ => ?_⟩,
    fun hapart => ?_, ?_⟩
  · have hmanned := (Renewal.manned_follow config link feed acts kind).1
    exact ⟨hmanned.tasks, hmanned.nodup_keys⟩
  · by_contra hworkers
    obtain ⟨⟨hpunctual, hkeys⟩, -⟩ := hmeet (Nat.not_le.1 hworkers)
    have hnodup := hapart {} (.ofCapacity 1) _ hpunctual
    rw [hkeys] at hnodup
    exact List.not_nodup_pair _ hnodup
  · exact Renewal.nodup_keys_of_single config link feed acts kind hsingle
  · by_contra hneither
    rw [not_or, Nat.not_le, Nat.not_lt] at hneither
    obtain ⟨hworkers, hslow⟩ := hneither
    obtain ⟨hprompt, hkeys⟩ := (hmeet hworkers).2 hslow
    have hnodup := hapart {} (.ofCapacity 1) _ hprompt
    rw [hkeys] at hnodup
    exact List.not_nodup_pair _ hnodup
  · rintro (hsingle | hgivenUp) link feed acts hprompt
    · exact Renewal.nodup_keys_of_single config link feed acts kind hsingle
    · exact (Renewal.spaced_follow config link feed acts kind hprompt hgivenUp).distinct

/-- Two workers, and a request that may take longer than the interval. -/
theorem not_forall_refreshes_apart :
    ¬ ∀ (config : Config) (link : Link) (feed : Feed) (acts : List Renewal.Act) (kind : Kind),
      (Renewal.ofConfig config link feed).always Renewal.isPrompt acts = true →
        ((((Renewal.ofConfig config link feed).follow acts).session.refreshRuns kind).map
          Run.key).Nodup := by
  intro hapart
  obtain ⟨hprompt, hkeys⟩ := (Renewal.overlap_resubscribing
    { refreshWorkers := 2, requestTimeout := some 20000 } {} (.ofCapacity 1) .mcp ⟨"weather", none⟩
    (by decide)).2 (by decide)
  have hnodup := hapart _ _ _ _ .mcp hprompt
  rw [hkeys] at hnodup
  exact List.not_nodup_pair _ hnodup

end Session

end RegistrySession
