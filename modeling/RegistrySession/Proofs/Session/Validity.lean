import RegistrySession.Proofs.Session.Origin

/-!
# Only valid requests

What a call registers or withdraws is checked when the call is made.  Requests are put together in
other places too: a pass repeats the registration of an entry or withdraws the endpoint that stands
for it, and the withdrawal of an MCP server borrows the version of the registration in the log.  All
of this goes back to a call that passed its check.
-/

namespace RegistrySession

/-! ## What a check establishes -/

theorem requireText_eq_ok_iff {subject : Subject} {content : String} :
    requireText subject content = .ok () ↔ Text.isBlank content = false := by
  rw [requireText]
  cases Text.isBlank content with
  | true => simp
  | false => simp

theorem requirePort_eq_ok_iff {port : UInt16} : requirePort port = .ok () ↔ port ≠ 0 := by
  rw [requirePort]
  by_cases hport : port = 0
  · simp [hport]
  · simp [hport]

/-- One requirement after another is met just if both are. -/
theorem bind_eq_ok_iff {first second : Except Error Unit} :
    (first >>= fun _ => second) = .ok () ↔ first = .ok () ∧ second = .ok () := by
  constructor
  · intro h
    obtain ⟨_, hfirst, hsecond⟩ := exists_of_bind_eq_ok h
    exact ⟨hfirst, hsecond⟩
  · rintro ⟨rfl, rfl⟩
    rfl

namespace Agent

structure Endpoint.IsValid (endpoint : Endpoint) : Prop where
  address : Text.isBlank endpoint.address = false
  port : endpoint.port ≠ 0
  version : Text.isBlank endpoint.version = false

theorem Endpoint.validate_eq_ok_iff {endpoint : Endpoint} :
    endpoint.validate = .ok () ↔ endpoint.IsValid := by
  rw [validate, bind_eq_ok_iff, bind_eq_ok_iff, requireText_eq_ok_iff, requirePort_eq_ok_iff,
    requireText_eq_ok_iff]
  exact ⟨fun ⟨haddress, hport, hversion⟩ => ⟨haddress, hport, hversion⟩,
    fun h => ⟨h.address, h.port, h.version⟩⟩

namespace Registration

/-- There are endpoints, all of them valid and of one version. -/
structure IsValid (registration : Registration) : Prop where
  nonempty : registration.endpoints ≠ []
  endpoints : ∀ endpoint ∈ registration.endpoints, endpoint.IsValid
  version : ∀ endpoint ∈ registration.endpoints, ∀ other ∈ registration.endpoints,
    endpoint.version = other.version

theorem validateAgainst_eq_ok_iff {first : String} {endpoints : List Endpoint} :
    validateAgainst first endpoints = .ok () ↔
      ∀ endpoint ∈ endpoints, endpoint.IsValid ∧ endpoint.version = first := by
  induction endpoints with
  | nil => simp [validateAgainst]
  | cons endpoint rest ih =>
    rw [List.forall_mem_cons, ← ih, validateAgainst, bind_eq_ok_iff, Endpoint.validate_eq_ok_iff]
    by_cases hversion : endpoint.version = first
    · simp [hversion]
    · simp [hversion, bind, Except.bind]

theorem validate_eq_ok_iff {registration : Registration} :
    registration.validate = .ok () ↔ registration.IsValid := by
  rw [validate, primary?]
  cases hendpoints : registration.endpoints with
  | nil =>
    constructor
    · intro h
      cases h
    · exact fun h => absurd hendpoints h.nonempty
  | cons first rest =>
    rw [List.head?_cons, validateAgainst_eq_ok_iff, ← hendpoints]
    have hfirst : first ∈ registration.endpoints := by
      rw [hendpoints]
      exact List.mem_cons_self
    constructor
    · intro h
      constructor
      case nonempty => exact List.ne_nil_of_mem hfirst
      case endpoints => exact fun endpoint hendpoint => (h endpoint hendpoint).1
      case version =>
        intro endpoint hendpoint other hother
        rw [(h endpoint hendpoint).2, (h other hother).2]
    · intro h endpoint hendpoint
      exact ⟨h.endpoints endpoint hendpoint, h.version endpoint hendpoint first hfirst⟩

end Registration

end Agent

namespace Mcp

/-- The version may be absent, but not blank. -/
structure Endpoint.IsValid (endpoint : Endpoint) : Prop where
  address : Text.isBlank endpoint.address = false
  port : endpoint.port ≠ 0
  version : ∀ version, endpoint.version = some version → Text.isBlank version = false

theorem Endpoint.validate_eq_ok_iff {endpoint : Endpoint} :
    endpoint.validate = .ok () ↔ endpoint.IsValid := by
  rw [validate, bind_eq_ok_iff, bind_eq_ok_iff, requireText_eq_ok_iff, requirePort_eq_ok_iff]
  constructor
  · rintro ⟨haddress, hport, hversion⟩
    refine ⟨haddress, hport, fun version hgiven => ?_⟩
    rw [hgiven] at hversion
    exact requireText_eq_ok_iff.1 hversion
  · intro h
    refine ⟨h.address, h.port, ?_⟩
    cases hgiven : endpoint.version with
    | none => rfl
    | some version => exact requireText_eq_ok_iff.2 (h.version version hgiven)

end Mcp

namespace Kind

def IsValidEndpoint : (kind : Kind) → kind.Endpoint → Prop
  | .agent, endpoint => endpoint.IsValid
  | .mcp, endpoint => endpoint.IsValid

def IsValidRegistration : (kind : Kind) → kind.Registration → Prop
  | .agent, registration => registration.IsValid
  | .mcp, endpoint => endpoint.IsValid

theorem validate_eq_ok_iff {kind : Kind} {registration : kind.Registration} :
    kind.validate registration = .ok () ↔ kind.IsValidRegistration registration := by
  cases kind with
  | agent => exact Agent.Registration.validate_eq_ok_iff
  | mcp => exact Mcp.Endpoint.validate_eq_ok_iff

/-- The endpoint that withdraws a registration is one of those registered. -/
theorem IsValidRegistration.primary {kind : Kind} {registration : kind.Registration}
    {endpoint : kind.Endpoint} (hvalid : kind.IsValidRegistration registration)
    (hprimary : kind.primary? registration = some endpoint) : kind.IsValidEndpoint endpoint := by
  cases kind with
  | agent => exact hvalid.endpoints endpoint (List.mem_of_head? hprimary)
  | mcp =>
    obtain rfl := Option.some.inj hprimary
    exact hvalid

end Kind

/-- An endpoint request that names what it is about, with endpoints that are valid. -/
inductive Demand.IsValid : Demand → Prop
  | register {kind : Kind} {name : String} {registration : kind.Registration}
      (hname : Text.isBlank name = false) (hvalid : kind.IsValidRegistration registration) :
      IsValid (.register kind name registration)
  | withdraw {kind : Kind} {name : String} {endpoint : kind.Endpoint}
      (hname : Text.isBlank name = false) (hvalid : kind.IsValidEndpoint endpoint) :
      IsValid (.withdraw kind name endpoint)

namespace Session

variable {session : Session} {kind : Kind} {name : String} {move : Move} {flight : Flight}
  {config : Config} {link : Link} {feed : Feed}

/-! ## Requests -/

/-- What a call sends was checked with the call, also where the log lends it the version. -/
theorem isValid_of_push? {call : Call} {demand : Demand} (hcheck : session.check call = .ok ())
    (hpush : session.push? call = some demand) : demand.IsValid := by
  cases call with
  | register other target registration =>
    obtain rfl := Option.some.inj hpush
    obtain ⟨hname, hvalid, -⟩ := of_check hcheck
    exact .register (requireText_eq_ok_iff.1 hname) (Kind.validate_eq_ok_iff.1 hvalid)
  | deregisterAgent target endpoint =>
    obtain ⟨-, -, rfl⟩ := Option.map_eq_some_iff.1 hpush
    obtain ⟨hname, hvalid, -⟩ := of_check hcheck
    exact .withdraw (requireText_eq_ok_iff.1 hname) (Agent.Endpoint.validate_eq_ok_iff.1 hvalid)
  | deregisterMcp target address port =>
    obtain ⟨-, -, rfl⟩ := Option.map_eq_some_iff.1 hpush
    obtain ⟨hname, hvalid, -⟩ := of_check hcheck
    exact .withdraw (requireText_eq_ok_iff.1 hname) (Mcp.Endpoint.validate_eq_ok_iff.1 hvalid)
  | _ => exact absurd hpush (Option.some_ne_none _).symm

/-- Whatever stands in a log is valid. -/
theorem isValid_of_find? {moves : List Move} {entry : Intent.Entry kind.Registration}
    (hentry : (((ofConfig config link feed).run moves).log kind).find? name = some entry) :
    Text.isBlank name = false ∧ kind.IsValidRegistration entry.desired := by
  obtain ⟨earlier, id, later, -, hcheck⟩ := exists_registering hentry
  obtain ⟨hname, hvalid, -⟩ := of_check hcheck
  exact ⟨requireText_eq_ok_iff.1 hname, Kind.validate_eq_ok_iff.1 hvalid⟩

/-- Whoever pushes, what is pushed is valid. -/
theorem Pushes.isValid {moves : List Move}
    (hpushes : ((ofConfig config link feed).run moves).Pushes move flight) :
    flight.request.demand.IsValid := by
  cases hpushes with
  | called id call hmove howner hcheck honline hpush => exact isValid_of_push? hcheck hpush
  | passed task kind name entry howner hdemand hholds hpass =>
    obtain ⟨earlier, later, -, hlisted⟩ := hholds.exists_find?
    obtain ⟨hname, hvalid⟩ := isValid_of_find? hlisted
    rcases Intent.Entry.demand?_cases hdemand with
      ⟨-, hregister⟩ | ⟨-, endpoint, hprimary, hwithdraw⟩
    · rw [hregister]
      exact .register hname hvalid
    · rw [hwithdraw]
      exact .withdraw hname (hvalid.primary hprimary)

/-- Every endpoint request that a session sends is valid, whatever arguments its calls are given. -/
theorem endpoint_requests_valid (config : Config) (link : Link) (feed : Feed) (moves : List Move)
    (demand : Demand) (hsent : demand ∈ ((ofConfig config link feed).run moves).requested)
    (hendpoint : demand.isEndpointDemand = true) : demand.IsValid := by
  induction moves using List.reverseRecOn with
  | nil => exact absurd hsent List.not_mem_nil
  | append_singleton moves move ih =>
    have hstart := sound_ofConfig config link feed
    have hsound := hstart.run moves
    have hnumbered := (numbered_ofConfig config link feed).run hstart moves
    rw [run_snoc] at hsent
    rcases hsound.step_requested hnumbered move with ⟨hsame, -⟩ | ⟨flight, hsends, -, hrequested⟩
    · rw [hsame] at hsent
      exact ih hsent
    · rw [hrequested] at hsent
      rcases List.mem_append.1 hsent with hold | hnew
      · exact ih hold
      · rw [List.mem_singleton.1 hnew] at hendpoint ⊢
        exact (hsends.pushes hsound hendpoint).isValid

/-- A batch is registered and withdrawn without a connection, and a pass withdraws its first
endpoint.  A server is registered and withdrawn online. -/
def mixedRequests : List Move :=
  [.call 0 (.register .agent "svc-a" (.batch [sampleEndpoint, elsewhere])),
    .call 1 (.deregisterAgent "svc-a" elsewhere)] ++ goingOnline ++
    [.call 2 (.register .mcp "svc-b" ⟨"10.0.0.2", 9001, some "2.0"⟩),
      .call 3 (.deregisterMcp "svc-b" "10.0.0.3" 9002)]

/-- The withdrawal of the server has the version of its registration. -/
theorem endpoint_requests_valid_mixed :
    let withdrawn : Demand := .withdraw .agent "svc-a" sampleEndpoint
    let borrowed : Demand := .withdraw .mcp "svc-b" ⟨"10.0.0.3", 9002, some "2.0"⟩
    ((opened false).run mixedRequests).requested =
        [withdrawn, .register .mcp "svc-b" ⟨"10.0.0.2", 9001, some "2.0"⟩, borrowed] ∧
      withdrawn.IsValid ∧ borrowed.IsValid := by
  intro withdrawn borrowed
  have hrequested : ((opened false).run mixedRequests).requested =
      [withdrawn, .register .mcp "svc-b" ⟨"10.0.0.2", 9001, some "2.0"⟩, borrowed] := rfl
  have hvalid := endpoint_requests_valid {} { isRunning := false } (.ofCapacity 16) mixedRequests
  refine ⟨hrequested, hvalid withdrawn ?_ rfl, hvalid borrowed ?_ rfl⟩
  · exact hrequested ▸ List.mem_cons_self
  · exact hrequested ▸ List.mem_cons_of_mem _ (List.mem_cons_of_mem _ List.mem_cons_self)

end Session

end RegistrySession
