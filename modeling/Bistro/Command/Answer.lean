import Bistro.Json.Value
import Bistro.Payload.Validated
import Bistro.Number.Decimal

/-!
# Bistro — answers to commands

A command answers a result value or a failure. A failure names its kind, as the service's
clients know the kinds of error, and a message; a refusal of the web service adds its HTTP
status. A payload that fails validation lists its problems as `loc: msg` joined by `; `.
-/

namespace Bistro

/-- Why a command gave no result. -/
structure Failure where
  kind : String
  message : String
  status : Option Nat := none
  deriving Repr

namespace Failure

/-- A value that the rule refuses. -/
def valueError (msg : String) : Failure := ⟨"ValueError", msg, none⟩

/-- A value of the wrong kind for an operation. -/
def typeError (msg : String) : Failure := ⟨"TypeError", msg, none⟩

/-- An operation the value does not have. -/
def attributeError (msg : String) : Failure := ⟨"AttributeError", msg, none⟩

/-- A decimal operation without a result. -/
def decimal : DecimalSignal → Failure
  | .conversionSyntax => ⟨"InvalidOperation", "[<class 'decimal.ConversionSyntax'>]", none⟩
  | .invalidOperation => ⟨"InvalidOperation", "[<class 'decimal.InvalidOperation'>]", none⟩

/-- A refusal with an HTTP status. -/
def http (status : Nat) (detail : String) : Failure := ⟨"HTTPException", detail, some status⟩

/-- A payload that fails validation. -/
def invalid (errors : List FieldError) : Failure :=
  ⟨"ValidationError", "; ".intercalate (errors.map FieldError.text), none⟩

/-- The answer object of a failure. -/
def toJson (f : Failure) : Json :=
  .obj ([("error", .str f.kind), ("message", .str f.message)] ++
    match f.status with
    | some s => [("status", .int s)]
    | none => [])

end Failure

/-- The answer object of a command's outcome. -/
def answerJson : Except Failure Json → Json
  | .ok v => .obj [("result", v)]
  | .error f => f.toJson

/-- The type name of a value, as messages about wrong kinds of values spell it. -/
def Json.typeName : Json → String
  | .null => "NoneType"
  | .bool _ => "bool"
  | .int _ => "int"
  | .float _ => "float"
  | .str _ => "str"
  | .arr _ => "list"
  | .obj _ => "dict"

end Bistro
