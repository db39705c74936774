import Bistro.Json.Value
import Bistro.Time.Stamp

/-!
# Bistro — activity entries

An activity entry records who did what to which entity, when and from where; entries are only
ever added.
-/

namespace Bistro

/-- An entry of the activity log. -/
structure LogEntry where
  id : String
  timestamp : Stamp
  level : String
  source : String
  userId : Option String
  ipAddress : Option String
  action : String
  entity : String
  entityId : Option String
  description : Option String
  metadata : Json
  requestId : Option String
  environment : String
  application : String
  hostname : Option String
  kind : String
  deriving Repr

end Bistro
