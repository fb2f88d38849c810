import RegistrySession.Rehearsal.Stage

/-!
# Scripts

What a rehearsal goes through, cue by cue: changes on the side of the server, spans of time, and
calls, which are waited for or left to go on in the background.
-/

namespace RegistrySession.Rehearsal

/-- A change of the server or of the connection to it. -/
inductive Change
  /-- The connection comes up, and the session is told. -/
  | connect
  /-- The connection goes down, and the session is told. -/
  | disconnect
  | setRunning (isRunning : Bool)
  | announce (events : List SessionEvent)
  | closeFeed
  | setSupport (kind : Kind) (support : Support)
  | put (kind : Kind) (record : kind.Record) (keys : List Key)
  | drop (keys : List Key)
  | addRule (rule : Rule)
  | clearRules

/-- What a script says to do next. -/
inductive Cue
  | change (change : Change)
  | advance (span : Millis)
  /-- Wait for a call in the background. -/
  | join (label : String)
  /-- Put the session into another state at once. -/
  | put (session : Session)
  /-- A call, given by what it does to the session under its number. -/
  | call (action : Session → Nat → Session)
  | background (label : String) (action : Session → Nat → Session)

namespace Stage

def change (stage : Stage) : Change → Stage
  | .connect => (stage.move (.setRunning true)).move (.announce .connected)
  | .disconnect => (stage.move (.setRunning false)).move (.announce .disconnected)
  | .setRunning isRunning => stage.move (.setRunning isRunning)
  | .announce events => events.foldl (fun stage event => stage.move (.announce event)) stage
  | .closeFeed => stage.move .closeFeed
  | .setSupport kind support => stage.move (.setSupport kind support)
  | .put kind record keys => stage.changeServer fun server => server.put kind record keys
  | .drop keys => stage.changeServer fun server => server.drop keys
  | .addRule rule =>
    stage.changeServer fun server => { server with rules := server.rules ++ [rule] }
  | .clearRules => stage.changeServer fun server => { server with rules := [] }

/-- Follows a cue and does what else is due then. Tells the number of the call that was waited
for, if the cue is one. Nothing if no call has the label to be joined. -/
def follow? (stage : Stage) : Cue → Option (Stage × Option Nat)
  | .change change => some ((stage.change change).settle, none)
  | .advance span => some (stage.advance span, none)
  | .join label =>
    (stage.background.find? fun other => other.1 = label).map fun other =>
      (stage.await other.2, none)
  | .put session => some ({ stage with session }.settle, none)
  | .call action =>
    let (stage, call) := stage.begin action
    some (stage.await call, some call)
  | .background label action => some (stage.beginBackground label action, none)

/-- The stage for a session as an application opens it, over the server and the connection of a
stage that was set up before. Events from before are not received. -/
def openSession (stage : Stage) (config : Config) : Stage :=
  let feed := stage.session.feed
  let fresh := { Feed.ofCapacity feed.capacity with isClosed := feed.isClosed }
  { stage with session := .ofConfig config stage.session.link fresh }.settle

end Stage

end RegistrySession.Rehearsal
