import Bistro.Http.Input

/-!
# Bistro — routes

A route is a method and a path pattern whose segments are fixed texts or parameters; a
parameter matches one non-empty segment. Routes are tried in the order they are listed, and the
first whose pattern and method both match answers. A path that some route matches under another
method is answered 405, any other path 404; a trailing slash is part of the path.

A request runs in a session over the store. A request whose route fails keeps the store as of
its last commit; a request that answers commits everything it wrote.

Before the routes, a cross-origin layer answers preflight requests by itself (`respond`).
-/

namespace Bistro

/-- A segment of a route's path. -/
inductive Segment where
  | fixed (text : String)
  | param
  deriving DecidableEq, Repr

/-- A route: what it answers and how. The handler receives the request and the path
parameters in order. -/
structure Route where
  method : String
  pattern : List Segment
  handle : Request → List String → Txn Response

/-- The parts of a list of characters between the separators `sep`, in order; a separator at
either end gives an empty part. -/
def splitAt (sep : Char) : List Char → List (List Char)
  | [] => [[]]
  | c :: cs =>
    if c = sep then [] :: splitAt sep cs
    else match splitAt sep cs with
      | part :: parts => (c :: part) :: parts
      | [] => [[c]]

/-- The segments of a path: its parts between slashes, the empty part before a leading slash
included. -/
def pathSegments (path : String) : List String := (splitAt '/' path.toList).map String.ofList

/-- The pattern of a path written with `{name}` for parameters, such as `/api/v1/orders/{id}`. -/
def Segment.parse (path : String) : List Segment :=
  (pathSegments path).map fun s =>
    if s.toList.head? == some '\x7b' && s.toList.getLast? == some '\x7d' then .param else .fixed s

/-- The parameters of a path that matches a pattern, in order. -/
def Segment.matchPath : List Segment → List String → Option (List String)
  | [], [] => some []
  | .fixed t :: ps, s :: ss => if t == s then Segment.matchPath ps ss else none
  | .param :: ps, s :: ss =>
    if s.isEmpty then none else (Segment.matchPath ps ss).map (s :: ·)
  | _, _ => none

/-- A route from a method, a path pattern and a handler. -/
def Route.of (method path : String) (handle : Request → List String → Txn Response) : Route :=
  { method := method, pattern := Segment.parse path, handle := handle }

/-- The path parameter at a position, empty when there is none. -/
def Route.param (params : List String) (i : Nat := 0) : String := params.getD i ""

/-- Whether a route answers a method: only its own; a `GET` route does not answer `HEAD`. -/
def Route.answers (r : Route) (method : String) : Bool :=
  r.method == method

namespace Route

/-- The answer to a failed request. -/
def faultResponse (now : Stamp) : Fault → Response
  | .http status detail challenge =>
    { status := status, body := Envelope.failure now status detail, challenge := challenge }
  | .invalid messages =>
    { status := 400
      body := Envelope.failure now 400 "Invalid request payload"
        (some (.obj [("code", .str "VALIDATION_ERROR"), ("validation", .arr (messages.map .str))])) }
  | .integrity | .internal =>
    { status := 500, body := Envelope.failure now 500 "Internal server error" }

/-- The route that answers a request and its path parameters, or the failure for none. -/
def select (routes : List Route) (r : Request) : Except Fault (Route × List String) :=
  let segments := pathSegments r.path
  let matching := routes.filterMap fun route =>
    (Segment.matchPath route.pattern segments).map fun ps => (route, ps)
  match matching.find? fun (route, _) => route.answers r.method with
  | some hit => .ok hit
  | none =>
    if matching.isEmpty then .error (.refuse 404 "Not Found")
    else .error (.refuse 405 "Method Not Allowed")

/-- Answer a request. -/
def dispatch (routes : List Route) (r : Request) : Txn Response :=
  match select routes r with
  | .ok (route, params) => route.handle r params
  | .error f => throw f

end Route

/-- What a request leaves behind: its answer, the store, the next fresh identifier, and the
objects it put in the file store. -/
structure Outcome where
  response : Response
  store : Store
  nextId : Nat
  uploads : List String := []

/-- Run a request against a store at the time `now`. -/
def serve (routes : List Route) (store : Store) (nextId : Nat) (now : Stamp) (r : Request) : Outcome :=
  let session : Session := { store := store, saved := store, nextId := nextId, now := now }
  let (result, s) := (Route.dispatch routes r).run session
  match result with
  | .ok resp => { response := resp, store := s.store, nextId := s.nextId, uploads := s.uploads }
  | .error f =>
    { response := Route.faultResponse now f, store := s.saved, nextId := s.nextId,
      uploads := s.uploads }

namespace Cors

/-- The methods a preflight may ask for: the service allows them all. -/
def allowedMethods : List String := ["DELETE", "GET", "HEAD", "OPTIONS", "PATCH", "POST", "PUT"]

/-- The answer of the cross-origin layer to a preflight: an `OPTIONS` request with an `Origin`
header and an `Access-Control-Request-Method` header, read by their first occurrence. Every
origin and every header is allowed, so the layer refuses only a method it does not know, with
400. Its answers are plain text, outside the envelope. -/
def preflight? (r : Request) : Option Response :=
  if r.method == "OPTIONS" && (r.header? "origin").isSome then
    (r.header? "access-control-request-method").map fun m =>
      if allowedMethods.contains m then { status := 200, body := .str "OK", plain := true }
      else { status := 400, body := .str "Disallowed CORS method", plain := true }
  else none

end Cors

/-- Answer a request as the service does: the cross-origin layer answers a preflight itself and
changes nothing; the routes serve every other request. -/
def respond (routes : List Route) (store : Store) (nextId : Nat) (now : Stamp) (r : Request) :
    Outcome :=
  match Cors.preflight? r with
  | some resp => { response := resp, store := store, nextId := nextId }
  | none => serve routes store nextId now r

namespace Reply

/-- A success answer with data. -/
def ok (message : String) (data : Json) (metadata : Option Json := none) : Txn Response := do
  pure { status := 200, body := Envelope.success (← Txn.now) 200 message data metadata }

/-- A creation answer with data. -/
def created (message : String) (data : Json) : Txn Response := do
  pure { status := 201, body := Envelope.success (← Txn.now) 201 message data }

/-- A page of a listing with its metadata. The number of pages is computed as the service
computes it, and a count whose ratio to the page size overflows the doubles fails. -/
def page (message : String) (data : Json) (page perPage total : Int) : Txn Response :=
  match Envelope.pageCount? perPage total with
  | some pages => ok message data (some (Envelope.page page perPage total pages))
  | none => Txn.fail .internal

/-- A bare answer without the envelope: a JSON document, or plain text. -/
def bare (body : Json) (plain : Bool := false) : Txn Response :=
  pure { status := 200, body := body, plain := plain }

end Reply

end Bistro
