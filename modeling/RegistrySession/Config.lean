import RegistrySession.Duration
import RegistrySession.Json.Record
import RegistrySession.Text.Blank
import RegistrySession.Toml.Reader

/-!
# Settings of a client

Every setting has a default. Settings are read from a TOML document whose unknown entries are
passed over.
-/

namespace RegistrySession

structure Config where
  space : String := "public"
  /-- Without one the default timeout applies. -/
  requestTimeout : Option UInt64 := none
  agentRefreshInterval : UInt64 := 10000
  mcpRefreshInterval : UInt64 := 10000
  redoDelay : UInt64 := 3000
  refreshWorkers : UInt64 := 1
  redoWorkers : UInt64 := 1
  deriving DecidableEq, Inhabited

namespace Config

def effectiveSpace (config : Config) : String :=
  if Text.isBlank config.space then "public" else config.space

/-- How long a request may take where the settings do not say. -/
def defaultTimeout : Millis := 3000

def effectiveTimeout (config : Config) : Millis :=
  (config.requestTimeout.map UInt64.toNat).getD defaultTimeout

open Json in
/-- The written form of settings; an absent timeout is not written. -/
def codec : Codec Config :=
  .record
    (.cons (.defaulting "namespace" .string "public") <|
     .cons { Field.defaulting "request_timeout_ms" (.option .uint64) none with
       isHidden := Option.isNone } <|
     .cons (.defaulting "agent_card_refresh_interval_ms" .uint64 10000) <|
     .cons (.defaulting "mcp_server_refresh_interval_ms" .uint64 10000) <|
     .cons (.defaulting "redo_delay_ms" .uint64 3000) <|
     .cons (.defaulting "refresh_workers" .uint64 1) <|
     .cons (.defaulting "redo_workers" .uint64 1) .nil)
    (fun config =>
      (config.space, config.requestTimeout, config.agentRefreshInterval,
       config.mcpRefreshInterval, config.redoDelay, config.refreshWorkers, config.redoWorkers,
       ()))
    (fun (space, requestTimeout, agentRefreshInterval, mcpRefreshInterval, redoDelay,
        refreshWorkers, redoWorkers, ()) =>
      { space, requestTimeout, agentRefreshInterval, mcpRefreshInterval, redoDelay,
        refreshWorkers, redoWorkers })

/-! ## Settings files -/

/-- Why settings cannot be loaded. -/
inductive Fault
  /-- The path names a directory. -/
  | directory
  /-- The bytes of the file are no text. -/
  | encoding
  /-- The text gives no settings. -/
  | content
  deriving DecidableEq

def text? (entries : Toml.Entries) (key : String) (default : String) : Option String :=
  match entries.find? key with
  | none => some default
  | some (.leaf (.text value)) => some value
  | some _ => none

def natural? (entries : Toml.Entries) (key : String) : Option (Option UInt64) :=
  match entries.find? key with
  | none => some none
  | some (.leaf (.integer (.ofNat value))) => some (some (UInt64.ofNat value))
  | some _ => none

def parse? (content : String) : Option Config := do
  let entries ← Toml.read? content
  let space ← text? entries "namespace" "public"
  let requestTimeout ← natural? entries "request_timeout_ms"
  let agentRefreshInterval ← natural? entries "agent_card_refresh_interval_ms"
  let mcpRefreshInterval ← natural? entries "mcp_server_refresh_interval_ms"
  let redoDelay ← natural? entries "redo_delay_ms"
  let refreshWorkers ← natural? entries "refresh_workers"
  let redoWorkers ← natural? entries "redo_workers"
  return {
    space
    requestTimeout
    agentRefreshInterval := agentRefreshInterval.getD 10000
    mcpRefreshInterval := mcpRefreshInterval.getD 10000
    redoDelay := redoDelay.getD 3000
    refreshWorkers := refreshWorkers.getD 1
    redoWorkers := redoWorkers.getD 1 }

/-- What stands at the path of a settings file. -/
inductive File
  | absent
  | directory
  | bytes (content : ByteArray)

/-- Without a file every setting has its default. -/
def load : File → Except Fault Config
  | .absent => .ok {}
  | .directory => .error .directory
  | .bytes content =>
    match String.fromUTF8? content with
    | none => .error .encoding
    | some text =>
      match parse? text with
      | some config => .ok config
      | none => .error .content

end Config

def Config.readFailure (path reason : String) : String :=
  "failed to read config file <path='" ++ path ++ "'>: " ++ reason

end RegistrySession
