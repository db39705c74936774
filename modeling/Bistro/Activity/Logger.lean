import Bistro.Activity.Call

/-!
# Bistro — activity entries

An activity logger stamps every entry with its environment, application and host, and hands it
to a sink. An entry records a level, the source area, an action on an entity, a description and
optional identities and metadata; absent metadata is an empty object and the type is `activity`
unless the call says otherwise. `info`, `warn` and `error` log at their own level; `audit` logs at
level `audit` with type `audit` unless another type is named.
-/

namespace Bistro

/-- The fixed stamp of a logger. -/
structure ActivityLogger where
  environment : Json
  application : Json
  hostname : Json

namespace ActivityLogger

/-- The parameters of the general logging call. -/
def logSignature : Signature :=
  { name := "AppLogger.log"
    positional := ["level", "source", "action", "entity", "description"]
    required := 4
    keywordOnly := ["entity_id", "user_id", "metadata", "request_id", "ip_address", "type"]
    collectsNames := false }

/-- The parameters of a call at a fixed level. -/
def levelSignature (method : String) : Signature :=
  { name := "AppLogger." ++ method
    positional := ["source", "action", "entity", "description"]
    required := 3
    keywordOnly := []
    collectsNames := true }

/-- The entry of a bound general call. -/
def entry (lg : ActivityLogger) (b : Binding) : Json :=
  let metadata := b.get "metadata" .null
  .obj [
    ("level", b.get "level" .null),
    ("source", b.get "source" .null),
    ("action", b.get "action" .null),
    ("entity", b.get "entity" .null),
    ("entity_id", b.get "entity_id" .null),
    ("user_id", b.get "user_id" .null),
    ("description", b.get "description" (.str "")),
    ("metadata", if metadata.isFalsy then .obj [] else metadata),
    ("request_id", b.get "request_id" .null),
    ("ip_address", b.get "ip_address" .null),
    ("environment", lg.environment),
    ("application", lg.application),
    ("hostname", lg.hostname),
    ("type", b.get "type" (.str "activity"))]

/-- The general call: bind and build the entry. -/
def log (lg : ActivityLogger) (args : List Json) (kwargs : List (String × Json)) : Except String Json :=
  (logSignature.bind args kwargs).map lg.entry

/-- A call at the level named by `method`, whose other names pass on to the general call. -/
def atLevel (lg : ActivityLogger) (method : String) (args : List Json) (kwargs : List (String × Json)) :
    Except String Json :=
  (levelSignature method |>.bind args kwargs).bind fun b =>
    let passed := ["source", "action", "entity", "description"].filterMap fun k =>
      (b.values.lookup k).map fun v => v
    let extra := if method = "audit" && !(b.collected.any (·.1 == "type")) then
      b.collected ++ [("type", .str "audit")] else b.collected
    lg.log (.str method :: passed) extra

/-- Why a logging call failed. -/
inductive CallFailure where
  /-- The logger has no such method. -/
  | noMethod (name : String)
  /-- The arguments do not fit the method. -/
  | badArguments (message : String)

/-- Run one named method of the logger. -/
def call (lg : ActivityLogger) (method : String) (args : List Json) (kwargs : List (String × Json)) :
    Except CallFailure Json :=
  let wrap (r : Except String Json) : Except CallFailure Json :=
    match r with
    | .ok j => .ok j
    | .error m => .error (.badArguments m)
  if method = "log" then wrap (lg.log args kwargs)
  else if ["info", "warn", "error", "audit"].contains method then wrap (lg.atLevel method args kwargs)
  else .error (.noMethod method)

end ActivityLogger

end Bistro
