import RegistrySession.Error

/-!
# Agents

What a registry says about an agent, and the endpoints at which its instances serve requests.
-/

namespace RegistrySession.Agent

def defaultTransport : String := "JSONRPC"

def defaultRegistrationType : String := "SERVICE"

structure Interface where
  url : String
  transport : String
  deriving DecidableEq, Inhabited

structure Provider where
  organization : String
  url : String
  deriving DecidableEq, Inhabited

structure Capabilities where
  streaming : Option Bool := none
  pushNotifications : Option Bool := none
  stateTransitionHistory : Option Bool := none
  deriving DecidableEq, Inhabited

structure Skill where
  id : String := ""
  name : String := ""
  description : String := ""
  tags : List String := []
  examples : List String := []
  deriving DecidableEq, Inhabited

structure Card where
  protocolVersion : String := ""
  name : String := ""
  description : String := ""
  version : String := ""
  iconUrl : Option String := none
  url : String := ""
  preferredTransport : Option String := none
  additionalInterfaces : Option (List Interface) := none
  provider : Option Provider := none
  documentationUrl : Option String := none
  capabilities : Option Capabilities := none
  skills : List Skill := []
  defaultInputModes : List String := []
  defaultOutputModes : List String := []
  deriving DecidableEq, Inhabited

def Card.validate (card : Card) : Except Error Unit := do
  requireText .agentName card.name
  requireText .agentVersion card.version
  requireText .agentProtocolVersion card.protocolVersion

/-- A card as the registry holds it. A missing mark of the latest version counts as set. -/
structure Record where
  card : Card := {}
  registrationType : Option String := none
  latestVersion : Option Bool := none
  deriving DecidableEq, Inhabited

/-- A location at which an instance of an agent serves requests. -/
structure Endpoint where
  transport : String := defaultTransport
  address : String
  port : UInt16
  path : String := ""
  supportTls : Bool := false
  version : String
  deriving DecidableEq, Inhabited

namespace Endpoint

def withPath (endpoint : Endpoint) (path : String) : Endpoint := { endpoint with path }

def withTransport (endpoint : Endpoint) (transport : String) : Endpoint :=
  { endpoint with transport }

def withTls (endpoint : Endpoint) (supportTls : Bool) : Endpoint := { endpoint with supportTls }

def validate (endpoint : Endpoint) : Except Error Unit := do
  requireText .endpointAddress endpoint.address
  requirePort endpoint.port
  requireText .endpointVersion endpoint.version

end Endpoint

/-- What an application wants registered for one agent: one endpoint, or a batch that replaces
whatever was registered before. -/
inductive Registration
  | single (endpoint : Endpoint)
  | batch (endpoints : List Endpoint)
  deriving DecidableEq, Inhabited

namespace Registration

def endpoints : Registration → List Endpoint
  | .single endpoint => [endpoint]
  | .batch endpoints => endpoints

/-- The endpoint that withdraws the registration; a batch is withdrawn as a whole. -/
def primary? (registration : Registration) : Option Endpoint :=
  registration.endpoints.head?

def version? (registration : Registration) : Option String :=
  registration.primary?.map Endpoint.version

/-- Each endpoint has to be valid and to have the version of the first. -/
def validateAgainst (first : String) : List Endpoint → Except Error Unit
  | [] => .ok ()
  | endpoint :: rest => do
    endpoint.validate
    if endpoint.version ≠ first then
      .error (.invalidIntent (.mixedVersions first endpoint.version))
    validateAgainst first rest

def validate (registration : Registration) : Except Error Unit :=
  match registration.primary? with
  | none => .error (.invalidIntent .emptyBatch)
  | some first => validateAgainst first.version registration.endpoints

end Registration

end RegistrySession.Agent
