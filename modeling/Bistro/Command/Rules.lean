import Bistro.Command.Answer
import Bistro.Access.Gate
import Bistro.Activity.Logger
import Bistro.Order.LinePayload
import Bistro.Order.CatalogPayload
import Bistro.Json.Display
import Bistro.Text.Url
import Bistro.Monitor.Endpoint
import Bistro.Json.Writer
import Bistro.Config

/-!
# Bistro — commands that apply one rule

Each command takes the members of a request object and applies one rule of the service to them:
the permission grammar and catalogue, money rounding, line pricing, page counts, error details,
table URLs, endpoint labels, access gates and activity entries. Values of an unexpected kind
fail the way the rule's own operations fail on them.
-/

namespace Bistro

namespace Rules

/-- The member `k`, `null` when absent. -/
def arg (fs : List (String × Json)) (k : String) : Json := (fs.lookup k).getD .null

/-- The answer object of a permission name. -/
def permissionJson (p : PermissionName) : Json :=
  .obj [("value", .str p.value), ("action", .str p.action), ("resource", .str p.resource),
    ("is_special", .bool p.isSpecial), ("describe", .str p.describe), ("str", .str p.value)]

/-- Check a permission name given as any value. -/
def permissionName (fs : List (String × Json)) : Except Failure Json :=
  let v := arg fs "value"
  if v.isFalsy then .error (.valueError PermissionNameError.empty.message)
  else
    match v with
    | .str s =>
      match PermissionName.ofString s with
      | .ok p => .ok (permissionJson p)
      | .error e => .error (.valueError e.message)
    | j => .error (.attributeError ("'" ++ j.typeName ++ "' object has no attribute 'startswith'"))

/-- The text of a resource name given as any value: a falsy value is the empty text. -/
def resourceText (v : Json) : Except Failure String :=
  if v.isFalsy then .ok ""
  else
    match v with
    | .str s => .ok s
    | j => .error (.attributeError ("'" ++ j.typeName ++ "' object has no attribute 'strip'"))

/-- Normalise a resource name. -/
def normalizeResourceCmd (fs : List (String × Json)) : Except Failure Json := do
  let s ← resourceText (arg fs "resource")
  match normalizeResource s with
  | .ok r => pure (.str r)
  | .error e => .error (.valueError e.message)

/-- The answer object of a catalogue permission. -/
def specJson (p : PermissionSpec) : Json :=
  .obj [("key", .str p.key), ("description", .str p.description)]

/-- The bundle of a resource. -/
def permissionBundleCmd (fs : List (String × Json)) : Except Failure Json := do
  let s ← resourceText (arg fs "resource")
  match permissionBundle s with
  | .ok ps => pure (.arr (ps.map specJson))
  | .error e => .error (.valueError e.message)

/-- The default permission keys of a role. -/
def roleDefaultsCmd (fs : List (String × Json)) : Except Failure Json :=
  match arg fs "role" with
  | .str r => .ok (.arr ((roleDefaults r).map Json.str))
  | _ => .ok (.arr [])

/-- The default permission catalogue. -/
def defaultPermissionsCmd : Except Failure Json :=
  .ok (.arr (defaultPermissions.map specJson))

/-- The number a value stands for in comparisons. -/
def numberOf? : Json → Option Binary64
  | .int n => some (Binary64.ofInt n)
  | .bool b => some (Binary64.ofInt (if b then 1 else 0))
  | .float x => some x
  | _ => none

/-- Equality of values as the rules compare them: numbers by value across integers, doubles and
booleans, everything else by its written form. -/
def pyEq (a b : Json) : Bool :=
  match a, b with
  | .int m, .int n => m == n
  | _, _ =>
    match numberOf? a, numberOf? b with
    | some x, some y => Binary64.compareFinite? x y == some .eq
    | none, none => a.render == b.render
    | _, _ => false

/-- The items of a value used as a collection of permissions. -/
def collectionItems (v : Json) : Except Failure (List Json) :=
  if v.isFalsy then .ok []
  else
    match v with
    | .arr xs => .ok xs
    | .str s => .ok (s.toList.map fun c => .str (String.singleton c))
    | .obj fs => .ok (fs.map fun (k, _) => .str k)
    | j => .error (.typeError ("'" ++ j.typeName ++ "' object is not iterable"))

/-- Refuse a value that cannot be a member of a set: a list or an object. -/
def hashable (j : Json) : Except Failure Unit :=
  match j with
  | .arr _ | .obj _ => .error (.typeError ("unhashable type: '" ++ j.typeName ++ "'"))
  | _ => .ok ()

/-- Whether a collection of permissions grants a required one. The collection is gathered into
a set first, and the required value is looked up in it unless full access is granted. -/
def hasPermissionCmd (fs : List (String × Json)) : Except Failure Json := do
  let perms ← collectionItems (arg fs "permissions")
  perms.forM hashable
  let req := arg fs "required"
  let holds (p : Json) : Bool := perms.any (pyEq p)
  if holds (.str fullAccess) then pure (.bool true)
  else do
    hashable req
    pure (.bool (holds req))

/-- The price a value stands for when it reaches the money rule. -/
def amountOf (v : Json) : Except Failure Amount :=
  if v.isFalsy then .ok .absent
  else
    match v with
    | .int n => .ok (.integer n)
    | .float x => .ok (.double x)
    | .str s => .ok (.text s)
    | .obj [("decimal", .str t)] =>
      match Decimal.parse? t with
      | some d => .ok (.exact d)
      | none => .error (.decimal .conversionSyntax)
    | j => .ok (.text j.show)

/-- Lift a decimal failure. -/
def liftDecimal {α : Type} : Except DecimalSignal α → Except Failure α
  | .ok a => .ok a
  | .error s => .error (.decimal s)

/-- The two-place amount of a value. -/
def toMoneyCmd (fs : List (String × Json)) : Except Failure Json := do
  let a ← amountOf (arg fs "value")
  let m ← liftDecimal (toMoney a)
  pure (.str m.toText)

/-- Lift a validation result. -/
def liftValidated {α : Type} : Validated α → Except Failure α
  | .ok a => .ok a
  | .fail e => .error (.invalid e)

/-- The variation view of a payload, with the identities filled in when absent. -/
def variationOf (v : Json) (defaults : List (String × Json)) : Except Failure VariationView :=
  match v with
  | .obj fs => liftValidated (VariationView.validate (fs.foldl (fun acc (k, x) => Json.setField acc k x) defaults))
  | _ => liftValidated (Validated.here "Input should be a valid dictionary or object to extract fields from")

/-- The unit price of a base price and an optional variation. -/
def unitPriceCmd (fs : List (String × Json)) : Except Failure Json := do
  let base ← amountOf (arg fs "base_price")
  let variation ← match arg fs "variation" with
    | .null => pure none
    | v => some <$> (variationOf v
        [("id", Json.str "v"), ("product_id", Json.str "p"), ("variation_type", Json.str "t"),
          ("is_available", Json.bool true)])
  let p ← liftDecimal (unitPriceFor base variation)
  pure (.str p.toText)

/-- A product view of a payload keyed by its identity. -/
def productOf (id : String) (v : Json) : Except Failure ProductView := do
  let fs := match v with
    | .obj fs => fs
    | _ => []
  let name := match arg fs "name" with
    | .str s => s
    | j => j.show
  let base ← amountOf (arg fs "base_price")
  let available := match fs.lookup "is_available" with
    | some j => !j.isFalsy
    | none => true
  pure { id, name, basePrice := base, isAvailable := available, imageUrl := (arg fs "image_url").str? }

/-- The answer object of a priced line. -/
def pricedJson (l : PricedLine) : Json :=
  .obj [("product_id", Json.ofOption l.productId), ("variation_id", Json.ofOption l.variationId),
    ("product_name", .str l.productName), ("variation_name", Json.ofOption l.variationName),
    ("unit_price", .str l.unitPrice.toText), ("quantity", .int l.quantity),
    ("total_price", .str l.totalPrice.toText), ("note", Json.ofOption l.note)]

/-- Check every line payload in order, failing with the problems of the first bad one. -/
def validateLines : List Json → Except Failure (List LineRequest)
  | [] => .ok []
  | j :: rest => do
    let l ← liftValidated (Field.model LineRequest.validate j)
    let ls ← validateLines rest
    pure (l :: ls)

/-- Price lines against a catalogue given as payloads. -/
def buildDetailsCmd (fs : List (String × Json)) : Except Failure Json := do
  let items ← match arg fs "items" with
    | .arr xs => validateLines xs
    | _ => pure []
  let products ← match arg fs "products" with
    | .obj ps => ps.mapM fun (k, v) => (k, ·) <$> productOf k v
    | _ => pure []
  let variations ← match arg fs "variations" with
    | .obj vs => vs.mapM fun (k, v) => (k, ·) <$> variationOf v [("id", Json.str k), ("is_available", Json.bool true)]
    | _ => pure []
  let cat : CatalogView := { product? := fun k => List.lookup k products, variation? := fun k => List.lookup k variations }
  let lines ← match priceLines cat items with
    | .ok ls => pure ls
    | .error (.rejected d) => .error (.http 400 d)
    | .error (.decimal s) => .error (.decimal s)
  let total ← liftDecimal (sumTotals (lines.map (·.totalPrice)))
  pure (.obj [("details", .arr (lines.map pricedJson)), ("total", .str total.toText)])

/-- A failure of a kind that only arithmetic on values gives. -/
def arithmeticError (kind msg : String) : Failure := ⟨kind, msg, none⟩

/-- Whether a value is above zero, as an ordering comparison has it. -/
def isPositive (v : Json) : Except Failure Bool :=
  match v with
  | .int n => .ok (n > 0)
  | .bool b => .ok b
  | .float x => .ok (Binary64.lt Binary64.zero x)
  | j => .error (.typeError ("'>' not supported between instances of '" ++ j.typeName ++ "' and 'int'"))

/-- The integer of an integer-like value. -/
def intOf? : Json → Option Int
  | .int n => some n
  | .bool b => some (if b then 1 else 0)
  | _ => none

/-- A value converted to a double for division. -/
def floatOf (v : Json) : Except Failure Binary64 :=
  match v with
  | .float x => .ok x
  | j =>
    match intOf? j with
    | some n =>
      let x := Binary64.ofInt n
      if x.isFinite then .ok x else .error (arithmeticError "OverflowError" "int too large to convert to float")
    | none => .error (.typeError "unsupported operand type(s) for /")

/-- True division: exact integers divide exactly and round once; otherwise doubles divide. -/
def trueDivide (a b : Json) : Except Failure Binary64 :=
  match intOf? a, intOf? b with
  | some m, some n =>
    if n = 0 then .error (arithmeticError "ZeroDivisionError" "division by zero")
    else
      let q := Binary64.ofRatio ((m < 0) != (n < 0)) m.natAbs n.natAbs
      if q.isFinite then .ok q
      else .error (arithmeticError "OverflowError" "integer division result too large for a float")
  | _, _ =>
    match a, b with
    | .float _, _ | _, .float _ => do
      let x ← floatOf a
      let y ← floatOf b
      if y.isZero then .error (arithmeticError "ZeroDivisionError" "float division by zero")
      else .ok (Binary64.div x y)
    | _, _ =>
      .error (.typeError ("unsupported operand type(s) for /: '" ++ a.typeName ++ "' and '" ++ b.typeName ++ "'"))

/-- The smallest integer not below a double. -/
def ceilOf (x : Binary64) : Except Failure Int :=
  match x with
  | .nan => .error (.valueError "cannot convert float NaN to integer")
  | .infinite _ => .error (arithmeticError "OverflowError" "cannot convert float infinity to integer")
  | .finite .. => .ok (x.ceil?.getD 0)

/-- The page metadata of a listing. -/
def paginationCmd (fs : List (String × Json)) : Except Failure Json := do
  let page := arg fs "page"
  let perPage := arg fs "per_page"
  let total := arg fs "total_count"
  let pages ← do
    if ← isPositive perPage then
      let q ← trueDivide total perPage
      ceilOf q
    else pure 0
  pure (.obj [("page", page), ("per_page", perPage), ("total_pages", .int pages), ("total_count", total)])

/-- The error details of a failure, keeping only the present and non-empty parts. -/
def errorInfoCmd (fs : List (String × Json)) : Except Failure Json :=
  match fs.lookup "code" with
  | none => .error (.typeError "error_info() missing 1 required positional argument: 'code'")
  | some code =>
    let extra := ["details", "field", "validation"].filterMap fun k =>
      match fs.lookup k with
      | some v => if v.isFalsy then none else some (k, v)
      | none => none
    .ok (.obj ((("code", code)) :: extra))

/-- The menu URL of a table. -/
def tableUrlCmd (fs : List (String × Json)) : Except Failure Json :=
  .ok (.str ((arg fs "menu_url").show ++ "?" ++
    formQuery [("store_id", (arg fs "store_id").show), ("table_number", (arg fs "table_number").show)]))

/-- The metrics label of a path. -/
def normalizeEndpointCmd (fs : List (String × Json)) : Except Failure Json :=
  match arg fs "path" with
  | .str p => .ok (.str (endpointLabel p))
  | j => .error (.typeError ("expected string or bytes-like object, got '" ++ j.typeName ++ "'"))

/-- Pass a described user through a gate. -/
def gateCmd (fs : List (String × Json)) : Except Failure Json := do
  let hasRole := fs.any (fun kv => kv.1 == "role") || fs.any (fun kv => kv.1 == "permissions")
  let roleName := match arg fs "role" with
    | .str r => r
    | _ => "Custom"
  let perms := match arg fs "permissions" with
    | .arr xs => xs.filterMap Json.str?
    | _ => []
  let p : Principal :=
    { isStaff := !(arg fs "is_staff").isFalsy
      roleName := if hasRole then some roleName else none
      permissions := if hasRole then perms else [] }
  let gate ← match arg fs "gate" with
    | .str "staff" => pure Gate.staff
    | .str "admin" => pure Gate.admin
    | .str "permission" =>
      match arg fs "required" with
      | .str r => pure (Gate.permission r)
      | _ => pure (Gate.permission "")
    | _ => .error (.valueError "unknown gate")
  match gate.check p with
  | .ok () => pure (.obj [("allowed", .bool true)])
  | .error d => .error (.http 403 d.message)

/-- Run calls on an activity logger, answering the entries it returned and the entries its sink
received. -/
def appLoggerCmd (fs : List (String × Json)) : Except Failure Json := do
  let host := arg fs "hostname"
  let lg : ActivityLogger :=
    { environment := (fs.lookup "environment").getD (.str Config.service.environment)
      application := (fs.lookup "application").getD (.str Config.service.application)
      hostname := if host.isFalsy then .str Config.service.hostname else host }
  let calls := match arg fs "calls" with
    | .arr cs => cs
    | _ => []
  let entries ← calls.mapM fun c =>
    let cfs := match c with
      | .obj cfs => cfs
      | _ => []
    let method := match arg cfs "method" with
      | .str m => m
      | j => j.show
    let args := match arg cfs "args" with
      | .arr xs => xs
      | _ => []
    let kwargs := match arg cfs "kwargs" with
      | .obj kvs => kvs
      | _ => []
    match lg.call method args kwargs with
    | .ok e => .ok e
    | .error (.noMethod m) => .error (.attributeError ("'AppLogger' object has no attribute '" ++ m ++ "'"))
    | .error (.badArguments msg) => .error (.typeError msg)
  pure (.obj [("returned", .arr entries), ("persisted", .arr entries)])

end Rules

end Bistro
