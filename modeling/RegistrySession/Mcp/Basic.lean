import RegistrySession.Error
import RegistrySession.Json.Free

/-!
# MCP servers

What a registry says about a server of the Model Context Protocol, what a publisher states when
releasing one, and the backend instances registered for it.
-/

namespace RegistrySession.Mcp

structure Front where
  address : String
  port : UInt16
  path : String := ""
  deriving DecidableEq, Inhabited

structure Tool where
  name : String
  description : String := ""
  inputSchema : Json.Free := default
  deriving Inhabited

structure ToolSpec where
  tools : List Tool := []
  deriving Inhabited

/-- What a publisher states about a server when releasing it. -/
structure Summary where
  name : String := ""
  description : String := ""
  protocol : String := ""
  version : String := ""
  deriving DecidableEq, Inhabited

def Summary.validate (summary : Summary) : Except Error Unit := do
  requireText .serverName summary.name
  requireText .serverVersion summary.version

/-- How a released server is reached, for instance by `REF` or `DIRECT`. -/
structure Route where
  type : String := ""
  data : Json.TextMap := default
  deriving DecidableEq, Inhabited

/-- A server as the registry holds it. A missing mark of the latest version counts as set. -/
structure Record where
  id : String := ""
  name : String := ""
  description : String := ""
  protocol : String := ""
  version : String := ""
  frontEndpoints : Option (List Front) := none
  toolSpec : Option ToolSpec := none
  latestVersion : Option Bool := none
  deriving Inhabited

structure Endpoint where
  address : String
  port : UInt16
  version : Option String
  deriving DecidableEq, Inhabited

def Endpoint.validate (endpoint : Endpoint) : Except Error Unit := do
  requireText .endpointAddress endpoint.address
  requirePort endpoint.port
  match endpoint.version with
  | some version => requireText .endpointVersion version
  | none => .ok ()

end RegistrySession.Mcp
