import Bistro.Json.Value
import Bistro.Time.Stamp
import Bistro.Text.Case
import Bistro.Number.Binary64

/-!
# Bistro — requests, responses and the envelope

A request has a method, a path, headers, query parameters and a body: none, a JSON document, JSON
text still to be read, URL-encoded form fields, or a multipart form with files. Header names are
compared without regard to case, and of two headers of one name the first is read. A request is
handled at a time on the wall clock, which bearer tokens are checked against.

Every answer of the service is wrapped in an envelope with its message, status and the time of
the request: a success carries `data` (and `metadata` for pages), a failure carries `error`
when there is more to say than the message.
-/

namespace Bistro

/-- A file sent in a multipart form. -/
structure Upload where
  filename : String
  contentType : String
  data : String
  deriving Repr

/-- The body of a request. -/
inductive Body where
  | empty
  | json (value : Json)
  | raw (text : String)
  | form (fields : List (String × String))
  | multipart (fields : List (String × String)) (files : List (String × Upload))
  deriving Repr

/-- A request to the service. -/
structure Request where
  method : String
  path : String
  headers : List (String × String)
  query : List (String × String)
  body : Body
  /-- Whether the file store refuses uploads during this request. -/
  storageFails : Bool
  /-- The time on the wall clock when the request is handled, in whole seconds since the epoch:
  bearer tokens are issued and checked against it. The rows a request writes take their times
  from the session's clock instead, which need not agree with it. -/
  clock : Int
  deriving Repr

/-- The value of a header, names compared without case; the first of several wins. -/
def Request.header? (r : Request) (name : String) : Option String :=
  let n := asciiLower name
  (r.headers.find? fun (k, _) => asciiLower k == n).map (·.2)

/-- An answer of the service. -/
structure Response where
  status : Nat
  body : Json
  /-- Whether the answer asks for a bearer token. -/
  challenge : Bool := false
  /-- Whether the body is plain text, held as a JSON string, rather than a JSON document. -/
  plain : Bool := false
  deriving Repr

namespace Envelope

/-- The time of a request as the envelope writes it. -/
def time (now : Stamp) : Json := .str { now with offset := some 0 }.isoText

/-- A success with data and optional page metadata. -/
def success (now : Stamp) (status : Nat) (message : String) (data : Json)
    (metadata : Option Json := none) : Json :=
  .obj ([("message", .str message), ("status", .int status), ("data", data), ("timestamp", time now)] ++
    (match metadata with | some m => [("metadata", m)] | none => []))

/-- A failure with an optional error record. -/
def failure (now : Stamp) (status : Nat) (message : String) (info : Option Json := none) : Json :=
  .obj ([("message", .str message), ("status", .int status), ("timestamp", time now)] ++
    (match info with | some i => [("error", i)] | none => []))

/-- The number of pages of `total` rows at `perPage` a page, as the service computes it: the
ceiling of the double nearest to `total / perPage`, or `0` for a page size that is not positive.
A ratio past the largest double has no ceiling, and the computation fails. -/
def pageCount? (perPage total : Int) : Option Int :=
  if perPage > 0 then
    (Binary64.ofRatio ((total < 0) != (perPage < 0)) total.natAbs perPage.natAbs).ceil?
  else some 0

/-- The page metadata of a listing, with its number of pages. -/
def page (page perPage total pages : Int) : Json :=
  .obj [("page", .int page), ("per_page", .int perPage), ("total_pages", .int pages),
    ("total_count", .int total)]

end Envelope

end Bistro
