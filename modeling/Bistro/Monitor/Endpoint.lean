import Bistro.Text.Digit

/-!
# Bistro — metrics

The service counts the requests it answers, their durations and errors, the requests in flight,
the log messages and the orders made, and shows these metrics to a scraper as text in the
Prometheus exposition format. The counts belong to the running process, not to the store.

Request paths are grouped for metrics by replacing identifiers: first every `/` followed by a
lower-case UUID becomes `/{uuid}`, then every `/` followed by a run of digits becomes `/{id}`.
Replacements are taken left to right and do not overlap.
-/

namespace Bistro

namespace Endpoint

/-- A lower-case hexadecimal digit. -/
def isLowerHex (c : Char) : Bool := c.isDigit || ('a' ≤ c && c ≤ 'f')

/-- Whether the characters start with a lower-case UUID: groups of 8, 4, 4, 4 and 12 hexadecimal
digits joined by hyphens. -/
def startsWithUuid (cs : List Char) : Bool :=
  let groups := [8, 4, 4, 4, 12]
  let rec go : List Nat → List Char → Bool
    | [], _ => true
    | [n], r => (r.take n).length == n && (r.take n).all isLowerHex
    | n :: ns, r =>
      (r.take n).length == n && (r.take n).all isLowerHex && (r.drop n).head? == some '-' &&
        go ns (r.drop (n + 1))
  go groups cs

/-- Replace each `/` followed by a UUID. -/
def replaceUuids : List Char → List Char
  | [] => []
  | '/' :: r =>
    if startsWithUuid r then "/\x7buuid\x7d".toList ++ replaceUuids (r.drop 36)
    else '/' :: replaceUuids r
  | c :: r => c :: replaceUuids r
termination_by cs => cs.length
decreasing_by all_goals (simp only [List.length_cons, List.length_drop]; omega)

/-- Replace each `/` followed by digits. -/
def replaceIds : List Char → List Char
  | [] => []
  | '/' :: r =>
    let ds := r.takeWhile isDecimalDigit
    if ds.isEmpty then '/' :: replaceIds r
    else "/\x7bid\x7d".toList ++ replaceIds (r.drop ds.length)
  | c :: r => c :: replaceIds r
termination_by cs => cs.length
decreasing_by all_goals (simp only [List.length_cons, List.length_drop]; omega)

end Endpoint

/-- The metrics label of a request path. -/
def endpointLabel (path : String) : String :=
  String.ofList (Endpoint.replaceIds (Endpoint.replaceUuids path.toList))

namespace Metrics

/-- The metric families of the service, in the order they are declared: name, help text and
type. -/
def families : List (String × String × String) :=
  [ ("http_requests_total", "Total HTTP requests", "counter"),
    ("http_request_duration_seconds", "HTTP request duration in seconds", "histogram"),
    ("http_errors_total", "Total HTTP errors", "counter"),
    ("active_connections", "Number of in-flight requests", "gauge"),
    ("log_messages_total", "Total log messages", "counter"),
    ("orders_created_total", "Total orders created", "counter") ]

/-- The text a scraper reads: each family introduced by its help and type lines. The samples
that follow them are the counts of the running process, which no store holds, and are left
out. -/
def exposition : String :=
  String.join (families.map fun (name, help, kind) =>
    "# HELP " ++ name ++ " " ++ help ++ "\n# TYPE " ++ name ++ " " ++ kind ++ "\n")

end Metrics

end Bistro
