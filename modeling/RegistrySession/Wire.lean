import RegistrySession.Resource

/-!
# Requests and answers

What goes over the wire to the registry server and comes back, and how an answer settles the
request that it belongs to.
-/

namespace RegistrySession

/-- What a request asks for. -/
inductive Demand
  | queryAgent (key : Key) (registrationType : Option String)
  | queryMcp (key : Key)
  | releaseAgent (card : Agent.Card) (registrationType : String) (setAsLatest : Bool)
  | releaseMcp (summary : Mcp.Summary) (toolSpec : Option Mcp.ToolSpec) (route : Option Mcp.Route)
  | register (kind : Kind) (name : String) (registration : kind.Registration)
  | withdraw (kind : Kind) (name : String) (endpoint : kind.Endpoint)

namespace Demand

/-- The name of the form that the request takes. A batch of endpoints has one of its own. -/
def form : Demand → String
  | .queryAgent .. => "query_agent_card"
  | .queryMcp _ => "query_mcp_server"
  | .releaseAgent .. => "release_agent_card"
  | .releaseMcp .. => "release_mcp_server"
  | .register .agent _ (.batch _) => "batch_agent_endpoint"
  | .register .agent _ (.single _) => "agent_endpoint"
  | .withdraw .agent .. => "agent_endpoint"
  | .register .mcp .. => "mcp_server_endpoint"
  | .withdraw .mcp .. => "mcp_server_endpoint"

/-- The record that the request is about; it names a missing resource. -/
def resourceKey : Demand → Key
  | .queryAgent key _ => key
  | .queryMcp key => key
  | .releaseAgent card .. => .versioned card.name card.version
  | .releaseMcp summary .. => .versioned summary.name summary.version
  | .register _ name _ => .latest name
  | .withdraw _ name _ => .latest name

def kind : Demand → Kind
  | .queryAgent .. => .agent
  | .queryMcp _ => .mcp
  | .releaseAgent .. => .agent
  | .releaseMcp .. => .mcp
  | .register kind .. => kind
  | .withdraw kind .. => kind

def isEndpointDemand : Demand → Bool
  | .register .. => true
  | .withdraw .. => true
  | _ => false

/-- The request that fetches the record of a key. -/
def query : Kind → Key → Demand
  | .agent, key => .queryAgent key none
  | .mcp, key => .queryMcp key

end Demand

structure Request where
  space : String
  demand : Demand

inductive Response
  | record (kind : Kind) (record : kind.Record)
  | released (id : String)
  | acknowledged
  | failed (code : ErrorCode) (reason : String)

namespace Response

def form : Response → String
  | .record .agent _ => "agent_card"
  | .record .mcp _ => "mcp_server"
  | .released _ => "released"
  | .acknowledged => "endpoint_ack"
  | .failed .. => "failed"

end Response

/-- What the transport makes of a request. -/
inductive Reply
  | response (response : Response)
  /-- The transport itself fails. -/
  | failure (error : RemoteError)
  /-- The transport breaks down. -/
  | breakdown

/-- How the wait for a reply ends. -/
inductive Arrival
  | reply (reply : Reply)
  /-- Nothing came within the span. -/
  | expired (span : Millis)

namespace Arrival

/-- Failed answers become errors: a missing resource is named by the request's own key. -/
def settle (demand : Demand) : Arrival → Outcome Response
  | .reply (.response (.failed .notFound _)) => .failed (.notFound demand.resourceKey)
  | .reply (.response (.failed .noRight reason)) => .failed (.remote (.permissionDenied reason))
  | .reply (.response (.failed code reason)) => .failed (.remote (.server code reason))
  | .reply (.response sound) => .done sound
  | .reply (.failure error) => .failed (.remote error)
  | .reply .breakdown => .panicked
  | .expired span => .failed (.remote (.timeout span))

/-- The server confirms an endpoint request. -/
def acknowledgement : Arrival := .reply (.response .acknowledged)

/-- Whether the credentials have to be refreshed. -/
def deniesPermission : Arrival → Bool
  | .reply (.response (.failed .noRight _)) => true
  | _ => false

end Arrival

/-- What a request that went well brings. -/
inductive Answer
  | nothing
  | record (kind : Kind) (record : kind.Record)
  | identifier (id : String)

def Answer.record? (answer : Answer) (kind : Kind) : Option kind.Record :=
  match answer with
  | .record other found => if h : other = kind then some (h ▸ found) else none
  | _ => none

/-- What the demand makes of a response that is no failure. Each demand accepts the responses
meant for it and no others. -/
def Demand.accept (demand : Demand) (response : Response) : Except Error Answer :=
  match demand, response with
  | .queryAgent .., .record .agent record => .ok (.record .agent record)
  | .queryMcp _, .record .mcp record => .ok (.record .mcp record)
  | .releaseAgent .., .released _ => .ok .nothing
  | .releaseAgent .., .acknowledged => .ok .nothing
  | .releaseMcp .., .released id => .ok (.identifier id)
  | .register .., .acknowledged => .ok .nothing
  | .withdraw .., .acknowledged => .ok .nothing
  | demand, response => .error (.remote (.unexpectedResponse demand.form response.form))

/-- The outcome of a request: the arrival settled, and accepted by the demand. -/
def Demand.conclude (demand : Demand) (arrival : Arrival) : Outcome Answer :=
  match arrival.settle demand with
  | .done response => .ofExcept (demand.accept response)
  | .failed error => .failed error
  | .panicked => .panicked

/-- An endpoint request goes well by an acknowledgement and by nothing else. -/
theorem Demand.eq_acknowledgement_of_conclude {demand : Demand} {arrival : Arrival}
    {answer : Answer} (hendpoint : demand.isEndpointDemand = true)
    (hdone : demand.conclude arrival = .done answer) : arrival = .acknowledgement := by
  unfold Demand.conclude at hdone
  cases arrival with
  | expired span => simp [Arrival.settle] at hdone
  | reply reply =>
    cases reply with
    | failure error => simp [Arrival.settle] at hdone
    | breakdown => simp [Arrival.settle] at hdone
    | response response =>
      cases response with
      | acknowledged => rfl
      | failed code reason => cases code <;> simp [Arrival.settle] at hdone
      | record kind record =>
        cases demand <;> simp_all [isEndpointDemand, Arrival.settle, accept, Outcome.ofExcept]
      | released id =>
        cases demand <;> simp_all [isEndpointDemand, Arrival.settle, accept, Outcome.ofExcept]

end RegistrySession
