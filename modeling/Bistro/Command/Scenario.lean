import Bistro.Api.Routes
import Bistro.Store.Seed
import Bistro.Access.Token
import Bistro.Json.Display
import Bistro.Command.Answer
import Bistro.Config

/-!
# Bistro — scenarios against the service

A scenario is a list of steps run against one new service. A step adds a user directly, issues
a token, moves the clock, or sends a request; the answer of a scenario lists the answer of
every step. The clock starts at 2025-01-01T00:00:00 UTC and every step but `tick` first moves
it one second on.

Texts in a request, and the subject of a token, may name variables as `${NAME}`: a saved
variable, `token:N` for the token issued under `N`, `role:R` or `perm:P` for the id of the role
or permission of that name. A text that is only a reference takes the value itself; inside a
longer text the value is written as text. A reference to nothing stays as it is.

Answers about roles list each role's permissions by name, as the store keeps no order for them.
-/

namespace Bistro

/-- What a scenario has built up so far. -/
structure World where
  store : Store
  nextId : Nat
  clock : Stamp
  vars : List (String × Json)
  tokens : List (String × String)

/-- Set a variable. -/
def World.setVar (w : World) (name : String) (v : Json) : World :=
  { w with vars := (w.vars.filter (·.1 != name)) ++ [(name, v)] }

/-- Set a token. -/
def World.setToken (w : World) (name token : String) : World :=
  { w with tokens := (w.tokens.filter (·.1 != name)) ++ [(name, token)] }

namespace Scenario

/-- The moment a scenario starts at. -/
def start : Stamp := { year := 2025, month := 1, day := 1, hour := 0, minute := 0, second := 0 }

/-- A new service: the seeded store, at the start of the clock. -/
def fresh : World :=
  let session : Session := { store := {}, saved := {}, nextId := 1, now := start }
  let (_, s) := (seedStore.run session)
  { store := s.store, nextId := s.nextId, clock := start, vars := [], tokens := [] }

/-- The value a variable name stands for. -/
def lookup (w : World) (name : String) : Option Json :=
  match w.vars.lookup name with
  | some v => some v
  | none =>
    if "token:".isPrefixOf name then (w.tokens.lookup (name.drop 6).toString).map .str
    else if "role:".isPrefixOf name then (w.store.roleNamed? (name.drop 5).toString).map (.str ·.id)
    else if "perm:".isPrefixOf name then (w.store.permissionNamed? (name.drop 5).toString).map (.str ·.id)
    else none

mutual

/-- A text with every reference replaced by the text of its value. -/
def expandChars (w : World) : List Char → List Char
  | [] => []
  | '$' :: '\x7b' :: rest => expandReference w [] rest
  | c :: rest => c :: expandChars w rest

/-- The rest of a text after `${` and the characters of a name read so far, in reverse. A name
ends at the first `}`; an empty name, or a text that ends first, is no reference. -/
def expandReference (w : World) (name : List Char) : List Char → List Char
  | [] => '$' :: '\x7b' :: name.reverse
  | '\x7d' :: rest =>
    if name.isEmpty then '$' :: '\x7b' :: '\x7d' :: expandChars w rest
    else
      match lookup w (String.ofList name.reverse) with
      | some v => v.show.toList ++ expandChars w rest
      | none => '$' :: '\x7b' :: name.reverse ++ '\x7d' :: expandChars w rest
  | c :: rest => expandReference w (c :: name) rest

end

/-- The name of a text that is exactly one reference. -/
def wholeReference? (s : String) : Option String :=
  match s.toList with
  | '$' :: '\x7b' :: rest =>
    match rest.reverse with
    | '\x7d' :: inner =>
      if inner.isEmpty || inner.contains '\x7d' then none else some (String.ofList inner.reverse)
    | _ => none
  | _ => none

/-- A text with its references replaced: a text that is one reference takes the value. -/
def expand (w : World) (s : String) : Json :=
  match wholeReference? s with
  | some name =>
    match lookup w name with
    | some v => v
    | none => .str s
  | none => .str (String.ofList (expandChars w s.toList))

/-- A text with its references replaced by the text of their values. -/
def expandText (w : World) (s : String) : String := String.ofList (expandChars w s.toList)

/-- A value with the references in all its texts replaced. -/
def expandJson (w : World) : Json → Json
  | .str s => expand w s
  | .arr xs => .arr (xs.attach.map fun ⟨x, _⟩ => expandJson w x)
  | .obj fs => .obj (fs.attach.map fun ⟨(k, v), _⟩ => (k, expandJson w v))
  | j => j
termination_by j => sizeOf j
decreasing_by
  all_goals simp_wf
  · have := List.sizeOf_lt_of_mem ‹_›; omega
  · have := List.sizeOf_lt_of_mem ‹_›; simp at this; omega

/-- The text of a value sent as a query or form parameter: a text as it is, a boolean in lower
case, `null` as the empty text, a number in its shortest form. -/
def paramText : Json → String
  | .str s => s
  | .bool b => if b then "true" else "false"
  | .null => ""
  | .int n => toString n
  | .float x => x.toText FloatStyle.plain
  | j => j.show

/-- The parameters of an object of values: a list value gives one parameter per item. -/
def paramsOf (w : World) : Json → List (String × String)
  | .obj fs => fs.flatMap fun (k, v) =>
    match expandJson w v with
    | .arr xs => xs.map fun x => (k, paramText x)
    | v => [(k, paramText v)]
  | _ => []

/-- The text of a header value. -/
def headerText : Json → String
  | .str s => s
  | j => j.show

/-- A file of a multipart request. -/
def uploadOf (j : Json) : Upload :=
  let text (k : String) : String := match j.field? k with
    | some (.str s) => s
    | _ => ""
  { filename := text "filename", contentType := text "content_type", data := text "data" }

/-- The time on the wall clock while a scenario runs. A scenario sets and moves only the clock
of the database; tokens are minted and checked on the wall clock, which the few moments a
scenario takes do not move. -/
def wallClock : Int := 1735689600

/-- The request a step describes. -/
def requestOf (w : World) (fs : List (String × Json)) : Request :=
  let method := match fs.lookup "method" with
    | some (.str m) => asciiUpper m
    | _ => "GET"
  let path := match fs.lookup "path" with
    | some (.str p) => expandText w p
    | _ => "/"
  let given : List (String × String) := match fs.lookup "headers" with
    | some (.obj hs) => hs.map fun (k, v) => (k, headerText (expandJson w v))
    | _ => []
  let headers := match fs.lookup "auth" with
    | some (.str name) =>
      (given.filter fun (k, _) => asciiLower k != "authorization") ++
        [("Authorization", "Bearer " ++ (w.tokens.lookup name).getD "")]
    | _ => given
  let query := paramsOf w ((fs.lookup "query").getD .null)
  let form := paramsOf w ((fs.lookup "form").getD .null)
  let body : Body := match fs.lookup "files", fs.lookup "form", fs.lookup "raw", fs.lookup "json" with
    | some (.obj files), _, _, _ => .multipart form (files.map fun (k, v) => (k, uploadOf v))
    | _, some _, _, _ => .form form
    | _, _, some (.str t), _ => .raw (expandText w t)
    | _, _, _, some .null => .empty
    | _, _, _, some j => .json (expandJson w j)
    | _, _, _, none => .empty
  let fails := match fs.lookup "storage_fail" with
    | some (.bool b) => b
    | _ => false
  { method := method, path := path, headers := headers, query := query, body := body,
    storageFails := fails, clock := wallClock }

/-- The permissions of a role answer, listed by name. -/
def sortPermissions : Json → Json
  | .obj fs =>
    .obj (fs.map fun (k, v) =>
      if k == "permissions" then
        match v with
        | .arr ps =>
          let name (p : Json) : String := match p.field? "name" with
            | some (.str n) => n
            | _ => ""
          (k, .arr (ps.mergeSort fun a b => decide (name a ≤ name b)))
        | v => (k, v)
      else (k, v))
  | j => j

/-- A role answer with its permissions listed by name. -/
def sortRoleBody : Json → Json
  | .obj fs =>
    .obj (fs.map fun (k, v) =>
      if k == "data" then
        match v with
        | .arr xs => (k, .arr (xs.map sortPermissions))
        | v => (k, sortPermissions v)
      else (k, v))
  | j => j

/-- The value at a dotted path: a member name for an object, a position for a list, counted
from the end when negative. -/
def atPath : Json → List String → Option Json
  | j, [] => some j
  | .obj fs, k :: ks => (fs.lookup k).bind (atPath · ks)
  | .arr xs, k :: ks =>
    match k.toInt? with
    | some i =>
      let n : Int := xs.length
      let i := if i < 0 then i + n else i
      if 0 ≤ i ∧ i < n then xs[i.toNat]?.bind (atPath · ks) else none
    | none => none
  | _, _ => none

/-- Send a request. -/
def request (w : World) (fs : List (String × Json)) : Json × World :=
  let w := { w with clock := w.clock.addSeconds 1 }
  let r := requestOf w fs
  let out := respond Api.routes w.store w.nextId w.clock r
  let w := { w with store := out.store, nextId := out.nextId }
  let raw := if out.response.plain then .obj [("text", out.response.body)] else out.response.body
  let w := match fs.lookup "save" with
    | some (.obj saves) =>
      saves.foldl (fun w (name, p) =>
        match p with
        | .str path =>
          match atPath raw ((path.toList.splitOn '.').map String.ofList) with
          | some v => w.setVar name v
          | none => w
        | _ => w) w
    | _ => w
  let body := if "/api/v1/roles".isPrefixOf r.path then sortRoleBody raw else raw
  let answer := Json.obj ([("status", .int out.response.status), ("body", body)] ++
    (if out.response.challenge then [("www_authenticate", .str "Bearer")] else []))
  (answer, w)

/-- The claims of a token for a subject, valid for a number of seconds from the wall clock. -/
def claimsFor (sub : Option Json) (seconds : Int) : List (String × Json) :=
  (match sub with | some s => [("sub", s)] | none => []) ++
    [("exp", .int (wallClock + seconds))]

/-- The whole seconds of a number of minutes, rounded down. -/
def minuteSeconds : Json → Option Int
  | .int n => some (n * 60)
  | .float x => x.parts?.map fun (neg, s, q) =>
    let num : Int := (if neg then -1 else 1) * ((s * 60 : Nat) : Int)
    if 0 ≤ q then num * Int.pow 2 q.toNat else num.fdiv (Int.pow 2 (-q).toNat)
  | _ => none

/-- The token of the service for a subject, by default valid for the configured lifetime; a
lifetime of zero counts as none given. -/
def serviceToken (sub : String) (seconds : Option Int) : String :=
  let life := match seconds with
    | some 0 | none => (Config.service.tokenMinutes : Int) * 60
    | some s => s
  Token.sign Config.service.secretKey (claimsFor (some (.str sub)) life)

/-- Add a user directly. -/
def addUser (w : World) (fs : List (String × Json)) : Json × World :=
  let w := { w with clock := w.clock.addSeconds 1 }
  let text (k : String) (d : String) : String := match fs.lookup k with
    | some (.str s) => s
    | _ => d
  let name := text "name" "user"
  let email := text "email" (name ++ "@test.io")
  let role := match fs.lookup "role" with
    | some (.str r) => w.store.roleNamed? r
    | _ => none
  let staff := match fs.lookup "is_staff" with
    | some (.bool b) => b
    | _ => true
  let password := text "password" "secret123"
  if w.store.users.any (·.email == email) then
    (Failure.toJson ⟨"IntegrityError", "UNIQUE constraint failed: users.email", none⟩, w)
  else
    let id := Txn.idText w.nextId
    let user : User :=
      { id := id, name := String.ofList (email.toList.takeWhile (· ≠ '@')), email := email,
        passwordDigest := some (passwordDigest (utf8Bytes password)), isStaff := staff,
        roleId := role.map (·.id), createdAt := w.clock, lastLoginAt := none }
    let w := { w with store := { w.store with users := w.store.users ++ [user] }, nextId := w.nextId + 1 }
    let w := (w.setVar name (.str id)).setToken name (serviceToken id none)
    (.obj [("user", .str id), ("role", match role with | some r => .str r.name | none => .null)], w)

/-- Issue a token. -/
def addToken (w : World) (fs : List (String × Json)) : Json × World :=
  let w := { w with clock := w.clock.addSeconds 1 }
  let name := match fs.lookup "name" with
    | some (.str n) => n
    | _ => "token"
  let sub := expandJson w ((fs.lookup "sub").getD .null)
  let seconds := (fs.lookup "expires_minutes").bind minuteSeconds
  let token := match fs.lookup "secret" with
    | some (.str key) =>
      Token.sign key (claimsFor (if sub.isNull then none else some sub) (seconds.getD 3600))
    | _ => serviceToken sub.show seconds
  (.obj [("token", .str name)], w.setToken name token)

/-- Move the clock. -/
def tick (w : World) (fs : List (String × Json)) : Json × World :=
  let seconds := match fs.lookup "seconds" with
    | some (.int n) => n
    | some (.float x) => (Token.truncate x).getD 0
    | _ => 0
  let w := { w with clock := w.clock.addSeconds seconds }
  (.obj [("clock", .str { w.clock with offset := some 0 }.isoText)], w)

/-- Run one step. -/
def step (w : World) (j : Json) : Json × World :=
  match j with
  | .obj fs =>
    match fs.lookup "do" with
    | some (.str "user") => addUser w fs
    | some (.str "token") => addToken w fs
    | some (.str "tick") => tick w fs
    | some (.str "req") => request w fs
    | _ => (Failure.toJson ⟨"ValueError", "unknown step", none⟩, w)
  | _ => (Failure.toJson ⟨"TypeError", "a step must be an object", none⟩, w)

/-- The answers of all steps of a scenario, run against a new service. -/
def run (steps : List Json) : Json :=
  let (answers, _) := steps.foldl (fun (acc, w) j => let (a, w) := step w j; (acc ++ [a], w)) ([], fresh)
  .obj [("steps", .arr answers)]

end Scenario

end Bistro
