import RegistrySession.Agent.Codec
import RegistrySession.Mcp.Codec
import RegistrySession.Wire

/-!
# Written forms of requests

The codecs of what belongs to a kind, and the form in which a request is logged.
-/

namespace RegistrySession

open Json

namespace Kind

def recordCodec : (kind : Kind) → Codec kind.Record
  | .agent => Agent.Record.codec
  | .mcp => Mcp.Record.codec

def endpointCodec : (kind : Kind) → Codec kind.Endpoint
  | .agent => Agent.Endpoint.codec
  | .mcp => Mcp.Endpoint.codec

def registrationCodec : (kind : Kind) → Codec kind.Registration
  | .agent => Agent.Registration.codec
  | .mcp => Mcp.Endpoint.codec

end Kind

namespace Demand

/-- What a request does at a single endpoint. A batch does not say. -/
def operation? : Demand → Option String
  | .register .agent _ (.single _) => some "register"
  | .register .mcp .. => some "register"
  | .withdraw .. => some "deregister"
  | _ => none

def details (demand : Demand) : List (String × Json) :=
  let operation := ("operation", Json.ofOption .text demand.operation?)
  match demand with
  | .queryAgent key registrationType =>
    [("key", key.pair), ("registration_type", .ofOption .text registrationType)]
  | .queryMcp key => [("key", key.pair)]
  | .releaseAgent card registrationType setAsLatest =>
    [("card", (Agent.Card.codec.encode card).compact),
      ("registration_type", .text registrationType), ("set_as_latest", .bool setAsLatest)]
  | .releaseMcp summary toolSpec route =>
    [("server", Mcp.Summary.codec.encode summary),
      ("tool_spec", .ofOption Mcp.ToolSpec.codec.encode toolSpec),
      ("endpoint_spec", .ofOption Mcp.Route.codec.encode route)]
  | .register .agent name (.batch endpoints) =>
    [("name", .text name), ("endpoints", .array (endpoints.map Agent.Endpoint.codec.encode))]
  | .register .agent name (.single endpoint) =>
    [("name", .text name), operation, ("endpoint", Agent.Endpoint.codec.encode endpoint)]
  | .register .mcp name endpoint =>
    [("name", .text name), operation, ("endpoint", Mcp.Endpoint.codec.encode endpoint)]
  | .withdraw kind name endpoint =>
    [("name", .text name), operation, ("endpoint", kind.endpointCodec.encode endpoint)]

end Demand

/-- A request as it is logged, with its members in order of their names. -/
def Request.entry (request : Request) : Json :=
  let demand := request.demand
  Json.sorted <| .object <|
    [("kind", .text demand.form), ("namespace", .text request.space),
      ("resource_key", .text demand.resourceKey.display)] ++ demand.details

end RegistrySession
