import RegistrySession.Session.Move
import RegistrySession.Wire.Codec

/-!
# A scripted server

The other side of a session in a rehearsal: a server that holds records and answers by rules. It
notes each request when it comes in and settles then how long to take; what it answers without a
rule to say so, it looks up when the time is over.
-/

namespace RegistrySession.Rehearsal

/-- What the server does with the requests that a rule covers. -/
structure Rule where
  form : Option String := none
  name : Option String := none
  operation : Option String := none
  delay : Millis := 0
  /-- How often the rule applies, without a bound if not given. -/
  uses : Option Nat := none
  reply : Option Reply := none

structure Server where
  /-- In order of creation. -/
  rules : List Rule := []
  agents : Table Key Agent.Record := .empty
  mcps : Table Key Mcp.Record := .empty

def Rule.covers (rule : Rule) (demand : Demand) : Bool :=
  rule.uses ≠ some 0 &&
  rule.form.all (· = demand.form) &&
  rule.name.all (· = demand.resourceKey.name) &&
  rule.operation.all (some · = demand.operation?)

def Rule.use (rule : Rule) : Rule :=
  { rule with uses := rule.uses.map (· - 1) }

/-- Uses up the first rule that covers a demand. -/
def takeRule (demand : Demand) : List Rule → Option (Rule × List Rule)
  | [] => none
  | rule :: rest =>
    if rule.covers demand then some (rule, rule.use :: rest)
    else (takeRule demand rest).map fun (found, others) => (found, rule :: others)

namespace Server

def missing : Reply := .response (.failed .notFound "no such resource")

def usualReply (server : Server) : Demand → Reply
  | .queryAgent key _ =>
    match server.agents.find? key with
    | some record => .response (.record .agent record)
    | none => missing
  | .queryMcp key =>
    match server.mcps.find? key with
    | some record => .response (.record .mcp record)
    | none => missing
  | .releaseAgent card .. => .response (.released card.name)
  | .releaseMcp summary .. => .response (.released (summary.name ++ "-id"))
  | .register .. => .response .acknowledged
  | .withdraw .. => .response .acknowledged

def put (server : Server) (kind : Kind) (record : kind.Record) (keys : List Key) : Server :=
  match kind with
  | .agent => { server with agents := keys.foldl (·.insert · record) server.agents }
  | .mcp => { server with mcps := keys.foldl (·.insert · record) server.mcps }

def drop (server : Server) (keys : List Key) : Server :=
  { server with
    agents := keys.foldl Table.erase server.agents
    mcps := keys.foldl Table.erase server.mcps }

end Server

structure Pending where
  flight : Nat
  due : Nat
  demand : Demand
  /-- The reply, if it is settled already. -/
  reply : Option Reply

end RegistrySession.Rehearsal
