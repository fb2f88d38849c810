import RegistrySession.Wire

/-!
# What comes of a reply

Which responses are meant for a demand, said apart from how it sorts them, and what the first reply
in time, or the want of one, makes of the outcome.
-/

namespace RegistrySession

/-! ## Responses -/

namespace Demand

/-- The responses that are meant for a demand, with what it takes from each. -/
inductive Yields : Demand → Response → Answer → Prop
  | card (key : Key) (registrationType : Option String) (record : Kind.agent.Record) :
      Yields (.queryAgent key registrationType) (.record .agent record) (.record .agent record)
  | server (key : Key) (record : Kind.mcp.Record) :
      Yields (.queryMcp key) (.record .mcp record) (.record .mcp record)
  | cardReleased (card : Agent.Card) (registrationType : String) (setAsLatest : Bool)
      (id : String) :
      Yields (.releaseAgent card registrationType setAsLatest) (.released id) .nothing
  | cardAcknowledged (card : Agent.Card) (registrationType : String) (setAsLatest : Bool) :
      Yields (.releaseAgent card registrationType setAsLatest) .acknowledged .nothing
  | serverReleased (summary : Mcp.Summary) (toolSpec : Option Mcp.ToolSpec)
      (route : Option Mcp.Route) (id : String) :
      Yields (.releaseMcp summary toolSpec route) (.released id) (.identifier id)
  | registered (kind : Kind) (name : String) (registration : kind.Registration) :
      Yields (.register kind name registration) .acknowledged .nothing
  | withdrawn (kind : Kind) (name : String) (endpoint : kind.Endpoint) :
      Yields (.withdraw kind name endpoint) .acknowledged .nothing

variable {demand : Demand} {response : Response} {answer : Answer}

/-- Whatever a demand yields is accepted. -/
theorem accept_of_yields (hyields : demand.Yields response answer) :
    demand.accept response = .ok answer := by
  cases hyields <;> rfl

/-- Whatever is not meant for a demand it reports as unexpected. -/
theorem accept_of_not_yields (hnone : ∀ answer, ¬ demand.Yields response answer) :
    demand.accept response =
      .error (.remote (.unexpectedResponse demand.form response.form)) := by
  cases demand with
  | queryAgent key registrationType =>
    cases response with
    | record kind record =>
      cases kind with
      | agent => exact absurd (.card key registrationType record) (hnone _)
      | mcp => rfl
    | released | acknowledged | failed => rfl
  | queryMcp key =>
    cases response with
    | record kind record =>
      cases kind with
      | agent => rfl
      | mcp => exact absurd (.server key record) (hnone _)
    | released | acknowledged | failed => rfl
  | releaseAgent card registrationType setAsLatest =>
    cases response with
    | released id => exact absurd (.cardReleased _ _ _ id) (hnone _)
    | acknowledged => exact absurd (.cardAcknowledged _ _ _) (hnone _)
    | record kind record => cases kind <;> rfl
    | failed => rfl
  | releaseMcp summary toolSpec route =>
    cases response with
    | released id => exact absurd (.serverReleased _ _ _ id) (hnone _)
    | record kind record => cases kind <;> rfl
    | acknowledged | failed => rfl
  | register kind name registration =>
    cases response with
    | acknowledged => exact absurd (.registered _ _ _) (hnone _)
    | record other record => cases other <;> rfl
    | released | failed => rfl
  | withdraw kind name endpoint =>
    cases response with
    | acknowledged => exact absurd (.withdrawn _ _ _) (hnone _)
    | record other record => cases other <;> rfl
    | released | failed => rfl

/-- No demand makes anything of a failed answer. -/
theorem not_yields_failed (code : ErrorCode) (reason : String) :
    ¬ demand.Yields (.failed code reason) answer := by
  intro hyields
  cases hyields

/-! ## The outcome -/

theorem settle_response (hsound : ∀ code reason, response ≠ .failed code reason) :
    (Arrival.reply (.response response)).settle demand = .done response := by
  cases response with
  | failed code reason => exact absurd rfl (hsound code reason)
  | record | released | acknowledged => rfl

/-- A reply that is meant for a demand concludes it. -/
theorem conclude_of_yields (hyields : demand.Yields response answer) :
    demand.conclude (.reply (.response response)) = .done answer := by
  have hsettle : (Arrival.reply (.response response)).settle demand = .done response :=
    settle_response fun code reason h => not_yields_failed code reason (h ▸ hyields)
  rw [conclude, hsettle]
  simp only [accept_of_yields hyields, Outcome.ofExcept]

/-- What a response comes to that is not meant for the demand. Only where the server finds no such
resource, it is reported missing. -/
theorem conclude_of_not_yields (hnone : ∀ answer, ¬ demand.Yields response answer) :
    (∃ reason, response = .failed .notFound reason ∧
      demand.conclude (.reply (.response response)) = .failed (.notFound demand.resourceKey)) ∨
    (∀ reason, response ≠ .failed .notFound reason) ∧
      ∃ error, demand.conclude (.reply (.response response)) = .failed (.remote error) := by
  by_cases hfailed : ∃ code reason, response = .failed code reason
  · obtain ⟨code, reason, rfl⟩ := hfailed
    cases code with
    | notFound => exact .inl ⟨reason, rfl, rfl⟩
    | noRight | invalidParam | serverError | other => exact .inr ⟨fun _ h => by simp at h, _, rfl⟩
  · have hsettle : (Arrival.reply (.response response)).settle demand = .done response :=
      settle_response fun code reason h => hfailed ⟨code, reason, h⟩
    refine .inr ⟨fun reason h => hfailed ⟨_, reason, h⟩,
      .unexpectedResponse demand.form response.form, ?_⟩
    rw [conclude, hsettle]
    simp only [accept_of_not_yields hnone, Outcome.ofExcept]

/-- Without a response there is nothing but a failure of the request itself, or a breakdown. -/
theorem conclude_cases (demand : Demand) (arrival : Arrival) :
    (∃ response, arrival = .reply (.response response)) ∨
      (∃ error, demand.conclude arrival = .failed (.remote error)) ∨
      demand.conclude arrival = .panicked := by
  cases arrival with
  | expired span => exact .inr (.inl ⟨_, rfl⟩)
  | reply reply =>
    cases reply with
    | response response => exact .inl ⟨response, rfl⟩
    | failure error => exact .inr (.inl ⟨error, rfl⟩)
    | breakdown => exact .inr (.inr rfl)

/-- A demand goes well by a response that is meant for it and by nothing else. -/
theorem conclude_eq_done_iff {arrival : Arrival} :
    demand.conclude arrival = .done answer ↔
      ∃ response, arrival = .reply (.response response) ∧ demand.Yields response answer := by
  constructor
  · intro hdone
    rcases demand.conclude_cases arrival with ⟨response, rfl⟩ | ⟨error, hfailed⟩ | hpanicked
    · by_cases hyields : ∃ found, demand.Yields response found
      · obtain ⟨found, hyields⟩ := hyields
        obtain rfl : found = answer :=
          Outcome.done.inj ((conclude_of_yields hyields).symm.trans hdone)
        exact ⟨response, rfl, hyields⟩
      · have hnone : ∀ found, ¬ demand.Yields response found := fun _ h => hyields ⟨_, h⟩
        rcases conclude_of_not_yields hnone with ⟨reason, -, hfailed⟩ | ⟨-, error, hfailed⟩
        · exact absurd (hdone.symm.trans hfailed) (by simp)
        · exact absurd (hdone.symm.trans hfailed) (by simp)
    · exact absurd (hdone.symm.trans hfailed) (by simp)
    · exact absurd (hdone.symm.trans hpanicked) (by simp)
  · rintro ⟨response, rfl, hyields⟩
    exact conclude_of_yields hyields

/-- Only a server that does not find the resource makes it missing, and its name is the one that
was asked for. -/
theorem conclude_eq_notFound_iff {arrival : Arrival} {key : Key} :
    demand.conclude arrival = .failed (.notFound key) ↔
      key = demand.resourceKey ∧
        ∃ reason, arrival = .reply (.response (.failed .notFound reason)) := by
  constructor
  · intro hmissing
    rcases demand.conclude_cases arrival with ⟨response, rfl⟩ | ⟨error, hfailed⟩ | hpanicked
    · have hnone : ∀ answer, ¬ demand.Yields response answer := fun answer hyields =>
        absurd (hmissing.symm.trans (conclude_of_yields hyields)) (by simp)
      rcases conclude_of_not_yields hnone with ⟨reason, rfl, hfailed⟩ | ⟨-, error, hfailed⟩
      · have hsame := hmissing.symm.trans hfailed
        exact ⟨by simpa using hsame, reason, rfl⟩
      · exact absurd (hmissing.symm.trans hfailed) (by simp)
    · exact absurd (hmissing.symm.trans hfailed) (by simp)
    · exact absurd (hmissing.symm.trans hpanicked) (by simp)
  · rintro ⟨rfl, reason, rfl⟩
    rfl

/-- What the outcome of a demand owes to the first reply in time, if there was one. -/
structure Settles (demand : Demand) (timeout : Millis) (reply? : Option Reply)
    (outcome : Outcome Answer) : Prop where
  done : ∀ answer, outcome = .done answer ↔
    ∃ response, reply? = some (.response response) ∧ demand.Yields response answer
  unexpected : ∀ response, reply? = some (.response response) →
    (∀ answer, ¬ demand.Yields response answer) → ∃ error, outcome = .failed error
  failed : ∀ code reason, reply? = some (.response (.failed code reason)) →
    ∃ error, outcome = .failed error
  notFound : ∀ key, outcome = .failed (.notFound key) ↔
    key = demand.resourceKey ∧ ∃ reason, reply? = some (.response (.failed .notFound reason))
  failure : ∀ error, reply? = some (.failure error) → outcome = .failed (.remote error)
  expired : reply? = none → outcome = .failed (.remote (.timeout timeout))

end Demand

/-- How a wait ends with the first reply in time, or without one. -/
def Arrival.ofReply? (timeout : Millis) : Option Reply → Arrival
  | some first => .reply first
  | none => .expired timeout

theorem Arrival.ofReply?_eq_reply_iff {timeout : Millis} {reply? : Option Reply} {given : Reply} :
    ofReply? timeout reply? = .reply given ↔ reply? = some given := by
  cases reply? with
  | none => simp [ofReply?]
  | some first => simp [ofReply?]

/-- Every demand settles with the first reply in time, or without one. -/
theorem Demand.settles_conclude (demand : Demand) (timeout : Millis) (reply? : Option Reply) :
    demand.Settles timeout reply? (demand.conclude (.ofReply? timeout reply?)) := by
  have hunexpected : ∀ response, reply? = some (.response response) →
      (∀ answer, ¬ demand.Yields response answer) →
        ∃ error, demand.conclude (.ofReply? timeout reply?) = .failed error := by
    rintro response rfl hnone
    rcases conclude_of_not_yields hnone with ⟨reason, -, hfailed⟩ | ⟨-, error, hfailed⟩
    · exact ⟨_, hfailed⟩
    · exact ⟨_, hfailed⟩
  constructor
  case done =>
    intro answer
    simp only [conclude_eq_done_iff, Arrival.ofReply?_eq_reply_iff]
  case unexpected => exact hunexpected
  case failed =>
    intro code reason hreply
    exact hunexpected _ hreply fun answer => not_yields_failed code reason
  case notFound =>
    intro key
    simp only [conclude_eq_notFound_iff, Arrival.ofReply?_eq_reply_iff]
  case failure =>
    rintro error rfl
    rfl
  case expired =>
    rintro rfl
    rfl

end RegistrySession
