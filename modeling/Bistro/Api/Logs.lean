import Bistro.Activity.Record
import Bistro.Access.Guard
import Bistro.Time.Reading
import Bistro.Store.Sorting
import Bistro.Http.Route

/-!
# Bistro — the activity log routes

Any client may add an entry to the activity log; the entry records the address the client is
seen from and the request id its `X-Request-ID` header gives. An entry's time is the one sent,
or the time of the request; a sent time keeps its zone in the answer but is stored as its wall
time.

Administrators read the log a page at a time, newest first, optionally of one level, entity or
source; an empty filter filters nothing. Entries of one time come newest first, except among the
entries of one entity, which come in the order they were made.
-/

namespace Bistro

namespace Api

/-- An entry of the log, showing `time` as its time. -/
def logJsonAt (e : LogEntry) (time : Json) : Json :=
  .obj [("id", .str e.id), ("timestamp", time), ("level", .str e.level), ("source", .str e.source),
    ("user_id", Json.ofOption e.userId), ("ip_address", Json.ofOption e.ipAddress),
    ("action", .str e.action), ("entity", .str e.entity), ("entity_id", Json.ofOption e.entityId),
    ("description", Json.ofOption e.description), ("metadata", e.metadata),
    ("request_id", Json.ofOption e.requestId), ("environment", .str e.environment),
    ("application", .str e.application), ("hostname", Json.ofOption e.hostname),
    ("type", .str e.kind)]

/-- An entry of the log as stored. -/
def logJson (e : LogEntry) : Json := logJsonAt e e.timestamp.json

/-- An entry sent by a client. -/
structure LogDraft where
  level : String
  source : String
  action : String
  entity : String
  environment : String
  application : String
  kind : String
  userId : Option String
  entityId : Option String
  description : Option String
  metadata : Option (List (String × Json))
  hostname : Option String
  timestamp : Option Stamp

/-- Check an entry sent by a client. -/
def LogDraft.validate (fs : List (String × Json)) : Validated LogDraft :=
  LogDraft.mk
    <$> Field.required fs "level" (Field.boundedText 1 (some 20))
    <*> Field.required fs "source" (Field.boundedText 1 (some 100))
    <*> Field.required fs "action" (Field.boundedText 1 (some 100))
    <*> Field.required fs "entity" (Field.boundedText 1 (some 50))
    <*> Field.required fs "environment" (Field.boundedText 1 (some 20))
    <*> Field.required fs "application" (Field.boundedText 1 (some 50))
    <*> Field.required fs "type" (Field.boundedText 1 (some 20))
    <*> Field.optional fs "user_id" Field.text
    <*> Field.optional fs "entity_id" Field.text
    <*> Field.optional fs "description" Field.text
    <*> Field.optional fs "metadata" Field.dict
    <*> Field.optional fs "hostname" Field.text
    <*> Field.optional fs "timestamp" Field.stamp

/-- Add an entry to the log. -/
def createLog (r : Request) (_ : List String) : Txn Response := do
  let body ← Input.payload r
  let d ← Input.accept (Input.model body LogDraft.validate)
  let now ← Txn.rowTime
  let sent := d.timestamp.getD now
  let e : LogEntry :=
    { id := ← Txn.freshId, timestamp := sent.wall, level := d.level, source := d.source,
      userId := d.userId, ipAddress := some Config.service.clientHost, action := d.action,
      entity := d.entity, entityId := d.entityId, description := d.description,
      metadata := .obj ((d.metadata.getD [])),
      requestId := (r.header? "X-Request-ID").filter (!·.isEmpty),
      environment := d.environment, application := d.application, hostname := d.hostname,
      kind := d.kind }
  Txn.modifyStore fun s => { s with logs := s.logs ++ [e] }
  Reply.created "Log created successfully" (logJsonAt e (.str sent.payloadText))

/-- Whether an optional filter lets a value through: an absent or empty filter lets all. -/
def passes (filter : Option String) (value : String) : Bool :=
  match filter with
  | some f => f.isEmpty || f == value
  | none => true

/-- A page of the log, newest first. -/
def listLogs (r : Request) (_ : List String) : Txn Response := do
  let _ ← Guard.admin r
  let (page, perPage, level, entity, source) ← Input.accept ((fun a b c d e => (a, b, c, d, e))
    <$> Input.pageParam r "page" none 1
    <*> Input.pageParam r "per_page" (some 200) 20
    <*> Input.query? r "level" Field.text
    <*> Input.query? r "entity" Field.text
    <*> Input.query? r "source" Field.text)
  let rows := (← Txn.store).logs.filter fun e =>
    passes level e.level && passes entity e.entity && passes source e.source
  let offset := (page - 1) * perPage
  Txn.fitsColumn offset
  let byEntity := match entity with
    | some f => !f.isEmpty
    | none => false
  let ordered := descendingBy (·.timestamp.ordinal) (if byEntity then rows else rows.reverse)
  let shown := (ordered.drop offset.toNat).take perPage.toNat
  Reply.page "Logs retrieved successfully" (.arr (shown.map logJson))
    page perPage rows.length

/-- The activity log routes. -/
def logRoutes : List Route :=
  [ Route.of "POST" "/api/v1/logs" createLog,
    Route.of "GET" "/api/v1/logs" listLogs ]

end Api

end Bistro
