import Bistro.Command.Rules
import Bistro.Command.Scenario
import Bistro.Command.Redact
import Bistro.Json.Reader
import Bistro.Json.Writer

/-!
# Bistro — command lines

A command is one JSON object per line naming its operation in `op`. The answer is one JSON
object: `result` with the value, or the failure's kind and message. Every answer is redacted
before it is written, so values that depend on chance or time never show.
-/

namespace Bistro

/-- Answer one command object. -/
def runCommand (fs : List (String × Json)) : Json :=
  let outcome : Except Failure Json :=
    match Rules.arg fs "op" with
    | .str "permission_name" => Rules.permissionName fs
    | .str "normalize_resource" => Rules.normalizeResourceCmd fs
    | .str "permission_bundle" => Rules.permissionBundleCmd fs
    | .str "role_defaults" => Rules.roleDefaultsCmd fs
    | .str "default_permissions" => Rules.defaultPermissionsCmd
    | .str "has_permission" => Rules.hasPermissionCmd fs
    | .str "to_money" => Rules.toMoneyCmd fs
    | .str "unit_price" => Rules.unitPriceCmd fs
    | .str "build_details" => Rules.buildDetailsCmd fs
    | .str "pagination" => Rules.paginationCmd fs
    | .str "error_info" => Rules.errorInfoCmd fs
    | .str "table_url" => Rules.tableUrlCmd fs
    | .str "normalize_endpoint" => Rules.normalizeEndpointCmd fs
    | .str "gate" => Rules.gateCmd fs
    | .str "app_logger" => Rules.appLoggerCmd fs
    | .str "api" =>
      match Rules.arg fs "steps" with
      | .arr steps => .ok (Scenario.run steps)
      | _ => .ok (Scenario.run [])
    | op => .error ⟨"UnknownOp", "unknown op: " ++ op.show, none⟩
  answerJson outcome

/-- Answer one line of input with one line of output. -/
def answerLine (line : String) : String :=
  let answer := match Json.parse line with
    | .ok (.obj fs) => runCommand fs
    | .ok _ => Failure.toJson ⟨"BadInput", "a command must be a JSON object", none⟩
    | .error e => Failure.toJson ⟨"BadInput", e.message ++ " (char " ++ toString e.offset ++ ")", none⟩
  (redactAnswer answer).render

end Bistro
