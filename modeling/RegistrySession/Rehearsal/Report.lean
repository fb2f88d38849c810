import RegistrySession.Rehearsal.Chronology
import RegistrySession.Rehearsal.Stage
import RegistrySession.Wire.Codec

/-!
# Reports

What a session did since it was last looked at. What falls on one moment is reported in an order
that does not depend on which part of the session came first.
-/

namespace RegistrySession.Rehearsal

structure Delivered where
  listener : String
  kind : Kind
  record : kind.Record

structure Report where
  /-- By time, then by the name of the resource, then by the text of the log entry. -/
  requests : List (Nat × Json)
  /-- By time, then by the name of the record. -/
  deliveries : List (Nat × Delivered)
  /-- The outcomes of the calls in the background, by time, then by their labels. -/
  finished : List (Nat × String × Outcome Answer)
  /-- The outcomes of all calls. -/
  outcomes : List (Nat × Outcome Answer)

def Report.outcome? (report : Report) (call : Nat) : Option (Outcome Answer) :=
  (report.outcomes.find? fun other => other.1 = call).map Prod.snd

namespace Stage

def requests (stage : Stage) : List (Nat × Json) :=
  let sent := stage.session.journal.reverse.filterMap fun (time, note) =>
    match note with
    | .sent _ _ request => some (time, request.demand.resourceKey.name, request.entry)
    | _ => none
  let sent := chronological (fun request => request.2.render) sent
  (chronological Prod.fst sent).map fun (time, _, entry) => (time, entry)

def deliveries (stage : Stage) : List (Nat × Delivered) :=
  let delivered := stage.session.journal.reverse.filterMap fun (time, note) =>
    match note with
    | .delivered kind delivery =>
      let listener := delivery.handle.listener.label
      some (time, ({ listener, kind, record := delivery.record } : Delivered))
    | _ => none
  chronological (fun delivered => Resource.name delivered.record) delivered

/-- The calls that ended, with the time of each, in the order in which they did. -/
def ended (stage : Stage) : List (Nat × Nat × Outcome Answer) :=
  stage.session.journal.reverse.filterMap fun (time, note) =>
    match note with
    | .finished call outcome => some (time, call, outcome)
    | _ => none

/-- Takes the report out of a stage, which starts afresh with the next. -/
def report (stage : Stage) : Stage × Report :=
  let ended := stage.ended
  let inBackground := ended.filterMap fun (time, call, outcome) =>
    (stage.background.find? fun other => other.2 = call).map fun other =>
      (time, other.1, outcome)
  ({ stage with session := { stage.session with journal := [] } },
    { requests := stage.requests
      deliveries := stage.deliveries
      finished := chronological Prod.fst inBackground
      outcomes := ended.map Prod.snd })

end Stage

end RegistrySession.Rehearsal
