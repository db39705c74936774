import Bistro.Store.Session
import Bistro.Config

/-!
# Bistro — recording activity

A step of the service records what it did as an entry of the activity log, written with the
step's other writes so that it stays only when they do. Every entry carries the service's
environment, application and host names; an entry without metadata records an empty object. An
audit entry has the level and the type `audit`.
-/

namespace Bistro

/-- What a step records about itself. -/
structure ActivityNote where
  level : String
  source : String
  action : String
  entity : String
  description : Option String := some ""
  entityId : Option String := none
  userId : Option String := none
  metadata : Json := .obj []
  requestId : Option String := none
  ipAddress : Option String := none
  kind : String := "activity"

/-- An audit note. -/
def ActivityNote.audit (source action entity description : String) : ActivityNote :=
  { level := "audit", source := source, action := action, entity := entity,
    description := some description, kind := "audit" }

/-- The entry of a note, with its id and time. -/
def ActivityNote.entry (n : ActivityNote) (id : String) (time : Stamp) : LogEntry :=
  { id := id, timestamp := time, level := n.level, source := n.source, userId := n.userId,
    ipAddress := n.ipAddress, action := n.action, entity := n.entity, entityId := n.entityId,
    description := n.description, metadata := if n.metadata.isFalsy then .obj [] else n.metadata,
    requestId := n.requestId, environment := Config.service.environment,
    application := Config.service.application, hostname := some Config.service.hostname,
    kind := n.kind }

/-- Record a note in the activity log. -/
def Txn.record (n : ActivityNote) : Txn LogEntry := do
  let e := n.entry (← Txn.freshId) (← Txn.rowTime)
  Txn.modifyStore fun s => { s with logs := s.logs ++ [e] }
  pure e

end Bistro
