import Bistro.Http.Route
import Bistro.Api.Catalog
import Bistro.Api.Orders
import Bistro.Api.Logs
import Bistro.Api.Access
import Bistro.Api.Auth
import Bistro.Api.QrCodes
import Bistro.Api.Themes
import Bistro.Monitor.Endpoint

/-!
# Bistro — the routes of the service

Every route of the HTTP interface, in the order they are tried: the status routes, then sign-in,
catalogue, orders, payments and invoices, table codes, themes, accounts and the activity log.
-/

namespace Bistro

namespace Api

/-- The answer to a scraper: the metrics as plain text. -/
def metricsAnswer : Response := { status := 200, body := .str Metrics.exposition, plain := true }

/-- The status routes. -/
def statusRoutes : List Route :=
  [ Route.of "GET" "/" fun _ _ => Reply.bare (.obj [("status", .str "ok"), ("message", .str "API is running")]),
    Route.of "GET" "/health" fun _ _ => Reply.bare (.obj [("status", .str "healthy")]),
    Route.of "GET" "/api/v1/monitoring/metrics" fun _ _ => Reply.bare (.str Metrics.exposition) true ]

/-- All routes, in the order they are tried. -/
def routes : List Route := statusRoutes ++ authRoutes ++ catalogRoutes ++ orderRoutes ++ qrRoutes ++
  themeRoutes ++ accessRoutes ++ logRoutes

end Api

end Bistro
