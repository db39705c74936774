/-!
# Bistro — the service settings

The fixed settings of a running service: the key that signs access tokens and their lifetime,
the names it writes into activity entries, where table codes point, where uploaded images are
published, and the address clients are seen from.
-/

namespace Bistro

/-- The settings of a running service. -/
structure Config where
  secretKey : String
  tokenMinutes : Nat
  environment : String
  application : String
  hostname : String
  menuBaseUrl : String
  storageBase : String
  bucket : String
  clientHost : String

/-- The settings the service runs with. -/
def Config.service : Config where
  secretKey := "oracle-secret-key"
  tokenMinutes := 1440
  environment := "development"
  application := "restaurant-api"
  hostname := "oracle-host"
  menuBaseUrl := "http://localhost:3000/menu"
  storageBase := "http://localhost:9000"
  bucket := "restaurant"
  clientHost := "testclient"

end Bistro
