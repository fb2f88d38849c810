import RegistrySession.Proofs.Session.Refusal

/-!
# Whether a failed call is made good

A call that registers or deregisters leaves its intent in the log before it pushes anything, and the
reconciler goes on with the intent if the push fails.  The error tells the application so, but for
one: a push that the server answers with a missing resource counts as final, although the intent
stands as after any other failure.
-/

namespace RegistrySession

open Intent (Operation)

namespace Session

variable {session : Session} {id : Nat} {call : Call} {kind : Kind}
  {operation : Operation kind.Registration}

/-! ## What a call records -/

theorem log_conclude_call (session : Session) (id : Nat) (outcome : Outcome Answer) (kind : Kind) :
    (session.conclude (.call id) outcome).log kind = session.log kind := rfl

/-- A registration leaves its intent, online or offline. -/
theorem log_register (session : Session) (id : Nat) (kind : Kind) (name : String)
    (registration : kind.Registration) :
    (session.register (.call id) kind name registration).log kind =
      (session.log kind).apply (.intendRegister name registration) := by
  rcases session.register_cases (.call id) name registration with ⟨-, heq⟩ | ⟨-, heq⟩
  · rw [heq, log_send]
    exact log_modifyLog_self ..
  · rw [heq, log_conclude_call]
    exact log_modifyLog_self ..

/-- A deregistration leaves its intent if there is anything to deregister. -/
theorem log_deregister (session : Session) (id : Nat) (kind : Kind) (name : String)
    (endpoint : kind.Endpoint) :
    (session.deregister (.call id) kind name endpoint).log kind =
      (session.log kind).apply (.intendDeregister name) := by
  rw [← log_modifyLog_self session kind fun log => log.apply (.intendDeregister name)]
  cases hentry : (session.log kind).find? name with
  | none =>
    rw [session.deregister_of_absent _ endpoint hentry, log_conclude_call,
      modifyLog_intendDeregister_of_absent hentry]
  | some entry =>
    rcases session.deregister_cases_of_find? (.call id) endpoint hentry with ⟨-, heq⟩ | ⟨-, heq⟩
    · rw [heq, log_send]
      rfl
    · rw [heq, log_conclude_call]
      rfl

/-- A call that is carried out records its intent, whatever becomes of the push. -/
theorem log_perform (hkind : call.intent? kind = some operation) :
    (session.perform (.call id) call).log kind = (session.log kind).apply operation := by
  cases call with
  | register other name registration =>
    obtain rfl : other = kind := by
      cases other <;> cases kind <;> first | rfl | exact absurd hkind (Option.some_ne_none _).symm
    rw [Call.intent?_register] at hkind
    obtain rfl := Option.some.inj hkind
    exact session.log_register id other name registration
  | deregisterAgent name endpoint =>
    cases kind with
    | mcp => exact absurd hkind (Option.some_ne_none _).symm
    | agent =>
      obtain rfl := Option.some.inj hkind
      exact session.log_deregister id .agent name endpoint
  | deregisterMcp name address port =>
    cases kind with
    | agent => exact absurd hkind (Option.some_ne_none _).symm
    | mcp =>
      obtain rfl := Option.some.inj hkind
      exact session.log_deregister id .mcp name _
  | _ => cases kind <;> exact absurd hkind (Option.some_ne_none _).symm

theorem log_of_intent? (hkind : call.intent? kind = some operation)
    (hintent : session.intent? kind (.call id call) = some operation) :
    (session.step (.call id call)).log kind = (session.log kind).apply operation := by
  cases hcheck : session.check call with
  | error error =>
    rw [intent?, hcheck] at hintent
    exact absurd hintent (Option.some_ne_none _).symm
  | ok _ =>
    rw [step, Session.call, hcheck]
    exact log_perform hkind

/-! ## The errors of one call -/

/-- No request of a call is on its way. -/
def IsIdle (session : Session) (id : Nat) : Prop :=
  ∀ flight ∈ session.flights, flight.owner ≠ .call id

/-- Nothing is said to a call before it is made, nor when it waits for nothing. -/
theorem errors_run_of_isIdle (hsound : session.Sound) (hidle : session.IsIdle id)
    {moves : List Move} (hmoves : ∀ call, .call id call ∉ moves) :
    (session.run moves).errors id = session.errors id ∧ (session.run moves).IsIdle id := by
  induction moves using List.reverseRecOn with
  | nil => exact ⟨rfl, hidle⟩
  | append_singleton moves move ih =>
    obtain ⟨herrors, hbefore⟩ := ih fun call h => hmoves call (List.mem_append_left _ h)
    have hword := (hsound.run moves).word_step move id
    rw [run_snoc]
    generalize (session.run moves).step move = next at *
    have hothers : ∀ call, move ≠ .call id call :=
      fun call h => hmoves call (List.mem_append_right _ (List.mem_singleton.2 h.symm))
    cases hword with
    | silent hspares =>
      refine ⟨hspares.errors.trans herrors, fun flight hflight => ?_⟩
      rcases hspares.flights flight hflight with hold | hother
      · exact hbefore flight hold
      · exact hother
    | refused call error hmove hrefusal hintent => exact absurd hmove (hothers call)
    | accepted call hmove hcheck herrors => exact absurd hmove (hothers call)
    | answered flight hflight howner hflights herrors =>
      exact absurd howner (hbefore flight hflight)

/-- A call that was not refused is given none of the errors of a refusal later on. -/
theorem isRefusal_of_mem_errors_run (hsound : session.Sound)
    (hstart : ∀ error ∈ session.errors id, error.isRefusal = false)
    {moves : List Move} (hmoves : ∀ call, .call id call ∉ moves) :
    ∀ error ∈ (session.run moves).errors id, error.isRefusal = false := by
  induction moves using List.reverseRecOn with
  | nil => exact hstart
  | append_singleton moves move ih =>
    have hbefore := ih fun call h => hmoves call (List.mem_append_left _ h)
    have hword := (hsound.run moves).word_step move id
    rw [run_snoc]
    generalize (session.run moves).step move = next at *
    have hothers : ∀ call, move ≠ .call id call :=
      fun call h => hmoves call (List.mem_append_right _ (List.mem_singleton.2 h.symm))
    cases hword with
    | silent hspares => rwa [hspares.errors]
    | refused call error hmove hrefusal hintent => exact absurd hmove (hothers call)
    | accepted call hmove hcheck herrors => exact absurd hmove (hothers call)
    | answered flight hflight howner hflights herrors =>
      rcases herrors with hsame | ⟨failure, hnew, hfailure⟩
      · rwa [hsame]
      · rw [hnew]
        intro error hmem
        rcases List.mem_cons.1 hmem with rfl | hold
        · exact hfailure
        · exact hbefore error hold

/-- A call that records its intent is not given an error at once. -/
theorem errors_step_of_intent? (hidle : session.IsIdle id)
    (hintent : session.intent? kind (.call id call) = some operation) :
    (session.step (.call id call)).errors id = session.errors id := by
  have hword : session.Word (.call id call) id (session.step (.call id call)) :=
    session.word_call call
  generalize session.step (.call id call) = next at *
  cases hword with
  | silent hspares => exact hspares.errors
  | accepted other hmove hcheck herrors => exact herrors
  | answered flight hflight howner hflights herrors => exact absurd howner (hidle flight hflight)
  | refused other error hmove hrefusal hnone =>
    rw [hnone] at hintent
    exact absurd hintent (Option.some_ne_none _).symm

/-- Of a call that registers or deregisters, and fails at once or with the answer to its push, the
intent is recorded just if the error is retryable or tells of a missing resource.  With any other
error nothing is done but to note it. -/
theorem failed_intent_recorded_iff (config : Config) (link : Link) (feed : Feed)
    (earlier : List Move) (id : Nat) (call : Call) (later : List Move) (kind : Kind)
    (operation : Operation kind.Registration) (error : Error)
    (hkind : call.intent? kind = some operation)
    (hid : ∀ other, .call id other ∉ earlier ++ later)
    (hfailed : error ∈
      ((ofConfig config link feed).run (earlier ++ .call id call :: later)).errors id) :
    let session := (ofConfig config link feed).run earlier
    let called := session.step (.call id call)
    ((error.isRetryable || error.isNotFound) = true ↔
      session.intent? kind (.call id call) = some operation) ∧
    ((error.isRetryable || error.isNotFound) = true →
      called.log kind = (session.log kind).apply operation) ∧
    ((error.isRetryable || error.isNotFound) = false →
      called = session.note (.finished id (.failed error))) := by
  intro session called
  have hstart : (ofConfig config link feed).Sound := sound_ofConfig config link feed
  have hsound : session.Sound := hstart.run earlier
  have hcalled : called.Sound := (hsound.step_progress _).sound hsound
  obtain ⟨hnone, hidle⟩ : session.errors id = [] ∧ session.IsIdle id :=
    errors_run_of_isIdle hstart (fun flight hflight => absurd hflight List.not_mem_nil)
      fun other h => hid other (List.mem_append_left _ h)
  have hlater : ∀ other, .call id other ∉ later :=
    fun other h => hid other (List.mem_append_right _ h)
  have hrun : error ∈ (called.run later).errors id := by rwa [run_append] at hfailed
  have hkept : (error.isRetryable || error.isNotFound) = !error.isRefusal := by
    rw [error.isRefusal_eq_not, Bool.not_not]
  -- A call that passes its checks is never refused later, and one that does not hears no more.
  cases hcheck : session.check call with
  | ok _ =>
    have hintent : session.intent? kind (.call id call) = some operation := by
      rw [intent?_of_check hcheck, hkind]
    have hfine : ∀ failure ∈ called.errors id, failure.isRefusal = false := by
      intro failure hfailure
      rw [errors_step_of_intent? hidle hintent, hnone] at hfailure
      exact absurd hfailure List.not_mem_nil
    rw [hkept, isRefusal_of_mem_errors_run hcalled hfine hlater error hrun]
    exact ⟨⟨fun _ => hintent, fun _ => rfl⟩, fun _ => log_of_intent? hkind hintent,
      fun h => absurd h.symm Bool.false_ne_true⟩
  | error given =>
    have hintent : session.intent? kind (.call id call) = none := by rw [intent?, hcheck]
    have hnote : called = session.note (.finished id (.failed given)) := by
      change session.call id call = _
      rw [Session.call, hcheck]
      rfl
    have hgiven : error = given := by
      have hwaits : called.IsIdle id := by
        rw [hnote]
        exact hidle
      rw [(errors_run_of_isIdle hcalled hwaits hlater).1, hnote, errors_refused, hnone] at hrun
      exact List.mem_singleton.1 hrun
    rw [hkept, hgiven, Refuses.check session call given hcheck, hintent]
    exact ⟨⟨fun h => absurd h Bool.false_ne_true, fun h => absurd h (Option.some_ne_none _).symm⟩,
      fun h => absurd h Bool.false_ne_true, fun _ => hnote⟩

/-- A push that the server answers with a missing resource. -/
def missing : List Move :=
  [.reply 0 (.response (.failed .notFound "gone"))]

/-- The intent of a push that is answered so is recorded. -/
theorem failed_intent_recorded_iff_missing :
    let call : Call := .register .agent "svc-a" (Agent.Registration.single sampleEndpoint)
    let operation : Operation Agent.Registration :=
      .intendRegister "svc-a" (Agent.Registration.single sampleEndpoint)
    call.intent? .agent = some operation ∧ (∀ other, .call 0 other ∉ [] ++ missing) ∧
      .notFound (.latest "svc-a") ∈ ((opened true).run ([] ++ .call 0 call :: missing)).errors 0 ∧
      (opened true).intent? .agent (.call 0 call) = some operation := by
  intro call operation
  have hid : ∀ other, .call 0 other ∉ [] ++ missing := by simp [missing]
  have hfailed : .notFound (.latest "svc-a") ∈
      ((opened true).run ([] ++ .call 0 call :: missing)).errors 0 := by decide +kernel
  exact ⟨rfl, hid, hfailed, (failed_intent_recorded_iff {} { isRunning := true } (.ofCapacity 16)
    [] 0 call missing .agent operation _ rfl hid hfailed).1.1 rfl⟩

/-- So an error that is not retryable may leave an intent that is retried. -/
theorem not_forall_retryable_iff_recorded :
    ¬ ∀ (config : Config) (link : Link) (feed : Feed) (earlier : List Move) (id : Nat)
      (call : Call) (later : List Move) (kind : Kind) (operation : Operation kind.Registration)
      (error : Error), call.intent? kind = some operation →
      (∀ other, .call id other ∉ earlier ++ later) →
      error ∈ ((ofConfig config link feed).run (earlier ++ .call id call :: later)).errors id →
      (error.isRetryable = true ↔
        ((ofConfig config link feed).run earlier).intent? kind (.call id call) =
          some operation) := by
  intro hall
  have hretryable := (hall {} { isRunning := true } (.ofCapacity 16) [] 0
    (.register .agent "svc-a" (Agent.Registration.single sampleEndpoint)) missing .agent
    (.intendRegister "svc-a" (Agent.Registration.single sampleEndpoint))
    (.notFound (.latest "svc-a")) rfl (by simp [missing]) (by decide +kernel)).2
    (by decide +kernel)
  exact Bool.false_ne_true hretryable

end Session

end RegistrySession
