import RegistrySession.Session.State
import RegistrySession.Text.Quoted

/-!
# Diagnostic texts

One line on a part of a session for a log or an error report: the name of the part and its fields,
with two dots where fields are left out.
-/

namespace RegistrySession

namespace Diagnostics

def whole (name : String) (fields : List (String × String)) : String :=
  let fields := fields.map fun field => field.1 ++ ": " ++ field.2
  name ++ " \x7b " ++ ", ".intercalate fields ++ " \x7d"

/-- A part with some of its fields. -/
def excerpt (name : String) (fields : List (String × String)) : String :=
  let fields := fields.map fun field => field.1 ++ ": " ++ field.2
  name ++ " \x7b " ++ ", ".intercalate (fields ++ [".."]) ++ " \x7d"

def flag (value : Bool) : String :=
  if value then "true" else "false"

end Diagnostics

open Diagnostics

def Kind.recordName : Kind → String
  | .agent => "agent_card"
  | .mcp => "mcp_server"

def Pool.diagnosis {σ : Type} (pool : Pool σ) : String :=
  whole "Scheduler"
    [("name", Text.quoted pool.name), ("tasks", toString pool.activeTasks),
     ("is_shutdown", flag pool.isShutdown)]

def Subscriptions.diagnosis {ℓ : Type} (subscriptions : Subscriptions ℓ) : String :=
  whole "ChangeNotifier" [("keys", toString subscriptions.handles.size)]

def Subscriptions.diagnosisOf {ℓ : Type} (subscriptions : Subscriptions ℓ) (handle : Handle ℓ) :
    String :=
  excerpt "ListenerHandle" [("invoked", flag (subscriptions.isReached handle))]

def Watchlist.diagnosis {ρ ℓ : Type} (list : Watchlist ρ ℓ) (kind : Kind) : String :=
  excerpt "ReadCache"
    [("kind", Text.quoted kind.recordName), ("records", toString list.records.size),
     ("refresh_tasks", toString list.refreshes.size),
     ("refresh_interval", Millis.text list.interval)]

/-- The diagnosis of a session whose client has the identifier given. -/
def Session.diagnosis (session : Session) (identifier : String) : String :=
  excerpt "AiClient"
    [("client", excerpt "RemoteClient"
        [("id", identifier), ("namespace", Text.quoted session.space),
         ("request_timeout", Millis.text session.timeout)]),
     ("agent_cards", (session.watchlist .agent).diagnosis .agent),
     ("mcp_servers", (session.watchlist .mcp).diagnosis .mcp),
     ("is_shutdown", flag session.isShutdown)]

end RegistrySession
