import RegistrySession.Duration
import RegistrySession.Key
import RegistrySession.Kind

/-!
# Errors

Every way in which a call can fail, as a cause, and the wording of each. Only failures of a
request are retryable: they leave an intent in place, which the reconciler goes on driving.
-/

namespace RegistrySession

inductive ErrorCode
  | notFound
  | noRight
  | invalidParam
  | serverError
  | other (code : Int32)
  deriving DecidableEq, Inhabited

namespace ErrorCode

def ofCode (code : Int32) : ErrorCode :=
  if code = 404 then .notFound
  else if code = 403 then .noRight
  else if code = 400 then .invalidParam
  else if code = 500 then .serverError
  else .other code

def code : ErrorCode → Int32
  | .notFound => 404
  | .noRight => 403
  | .invalidParam => 400
  | .serverError => 500
  | .other code => code

def display (errorCode : ErrorCode) : String :=
  toString errorCode.code.toInt

end ErrorCode

inductive Subject
  | resourceName
  | agentName
  | agentVersion
  | agentProtocolVersion
  | serverName
  | serverVersion
  | endpointAddress
  | endpointVersion
  deriving DecidableEq

def Subject.display : Subject → String
  | .resourceName => "resource name"
  | .agentName => "agent name"
  | .agentVersion => "agent version"
  | .agentProtocolVersion => "agent protocol version"
  | .serverName => "mcp server name"
  | .serverVersion => "mcp server version"
  | .endpointAddress => "endpoint address"
  | .endpointVersion => "endpoint version"

inductive IntentFault
  | blank (subject : Subject)
  | portZero
  | emptyBatch
  | mixedVersions (first second : String)
  | other (reason : String)
  deriving DecidableEq

def IntentFault.message : IntentFault → String
  | .blank subject => subject.display ++ " can't be blank"
  | .portZero => "port must be in 1..=65535"
  | .emptyBatch => "batch registration needs at least one endpoint"
  | .mixedVersions first second =>
    "batch endpoints must share one version, found '" ++ first ++ "' and '" ++ second ++ "'"
  | .other reason => reason

/-- How a request fails other than by a missing resource. -/
inductive RemoteError
  | transport (reason : String)
  | timeout (span : Millis)
  | permissionDenied (reason : String)
  | server (code : ErrorCode) (reason : String)
  | unexpectedResponse (request response : String)
  deriving DecidableEq

def RemoteError.message : RemoteError → String
  | .transport reason => "transport error: " ++ reason
  | .timeout span => "request timed out after " ++ span.text
  | .permissionDenied reason => "permission denied: " ++ reason
  | .server code reason => "server error <code='" ++ code.display ++ "'>: " ++ reason
  | .unexpectedResponse request response =>
    "unexpected response to " ++ request ++ " request: " ++ response

inductive Error
  | notFound (key : Key)
  | invalidIntent (fault : IntentFault)
  | remote (error : RemoteError)
  | unsupported (kind : Kind)
  | shutdown
  deriving DecidableEq

namespace Error

def message : Error → String
  | .notFound key => "resource not found: " ++ key.display
  | .invalidIntent fault => "invalid intent: " ++ fault.message
  | .remote error => error.message
  | .unsupported kind => "server doesn't support capability: " ++ kind.capability
  | .shutdown => "client is shut down"

def isNotFound : Error → Bool
  | .notFound _ => true
  | _ => false

def isRetryable : Error → Bool
  | .remote _ => true
  | _ => false

end Error

/-- How an activity ends that may also break down. -/
inductive Outcome (α : Type)
  | done (value : α)
  | failed (error : Error)
  | panicked

def Outcome.ofExcept {α : Type} : Except Error α → Outcome α
  | .ok value => .done value
  | .error error => .failed error

/-! ## Requirements on intents -/

def requireText (subject : Subject) (content : String) : Except Error Unit :=
  if Text.isBlank content then .error (.invalidIntent (.blank subject)) else .ok ()

def requirePort (port : UInt16) : Except Error Unit :=
  if port = 0 then .error (.invalidIntent .portZero) else .ok ()

/-- A row of requirements is met only if its parts are. -/
theorem exists_of_bind_eq_ok {ε α β : Type} {action : Except ε α} {f : α → Except ε β} {result : β}
    (h : (action >>= f) = .ok result) : ∃ value, action = .ok value ∧ f value = .ok result := by
  cases action with
  | error error => exact absurd h (by simp [bind, Except.bind])
  | ok value => exact ⟨value, rfl, h⟩

end RegistrySession
