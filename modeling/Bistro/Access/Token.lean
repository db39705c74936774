import Bistro.Crypto.Sha256
import Bistro.Text.Base64
import Bistro.Text.Utf8
import Bistro.Json.Reader
import Bistro.Json.Writer

/-!
# Bistro — signed access tokens

An access token is a JSON Web Token signed with HMAC-SHA256 (`HS256`): the URL-safe base64 of a
header, of a claims object and of the signature over the first two, joined by dots. A token is
accepted when it has three parts, its header names `HS256`, the signature matches under the
service key, its claims form an object, and its time claims hold: `exp`, when present, is not
before the moment of checking, `nbf` not after it, and `iat` is a number. An audience or an
access-token hash is never expected, so a token carrying either is refused.

Times are whole seconds since the epoch on the issuing clock; tokens are issued and checked on
the same clock.
-/

namespace Bistro

/-- Why a token is refused. -/
inductive TokenFault where
  | malformed
  | badAlgorithm
  | badSignature
  | badClaims
  | expired
  deriving DecidableEq, Repr

namespace Token

/-- The header of every issued token. -/
def headerText : String := "\x7b\"alg\":\"HS256\",\"typ\":\"JWT\"\x7d"

/-- The signature of a signing input under a key. -/
def signature (key input : String) : String :=
  base64UrlEncode (hmacSha256 (utf8Bytes key) (utf8Bytes input))

/-- A token holding the given claims, signed with `key`. -/
def sign (key : String) (claims : List (String × Json)) : String :=
  let input := base64UrlEncode (utf8Bytes headerText) ++ "." ++
    base64UrlEncode (utf8Bytes (Json.render (.obj claims)))
  input ++ "." ++ signature key input

/-- The JSON object encoded in one part of a token. -/
def part? (segment : String) : Option (List (String × Json)) := do
  let bytes ← base64Decode? true segment
  let text ← utf8Decode? bytes
  match Json.parse text with
  | .ok (.obj fs) => some fs
  | _ => none

/-- A finite double with its fraction cut off, toward zero. -/
def truncate (x : Binary64) : Option Int :=
  x.parts?.map fun (neg, s, q) =>
    let m : Int := if 0 ≤ q then (s * Nat.pow 2 q.toNat : Nat) else (s / Nat.pow 2 (-q).toNat : Nat)
    if neg then -m else m

/-- The whole seconds of a time claim. -/
def seconds? : Json → Option Int
  | .int n => some n
  | .bool b => some (if b then 1 else 0)
  | .float x => truncate x
  | _ => none

/-- Check the time claims against the moment `now`. -/
def checkTimes (now : Int) (claims : List (String × Json)) : Except TokenFault Unit := do
  if let some iat := claims.lookup "iat" then
    if (seconds? iat).isNone then throw .badClaims
  if let some nbf := claims.lookup "nbf" then
    match seconds? nbf with
    | some t => if t > now then throw .badClaims
    | none => throw .badClaims
  if let some exp := claims.lookup "exp" then
    match seconds? exp with
    | some t => if t < now then throw .expired
    | none => throw .badClaims
  if claims.lookup "aud" |>.isSome then throw .badClaims
  if claims.lookup "at_hash" |>.isSome then throw .badClaims
  match claims.lookup "jti" with
  | some (.str _) | none => pure ()
  | some _ => throw .badClaims

/-- The claims of a token that `key` signed, checked at the moment `now`. -/
def verify (key : String) (now : Int) (token : String) : Except TokenFault (List (String × Json)) := do
  let parts := (token.toList.splitOn '.').map String.ofList
  let (h, p, s) ← match parts with
    | [h, p, s] => pure (h, p, s)
    | _ => throw .malformed
  let header ← match part? h with
    | some fs => pure fs
    | none => throw .malformed
  match header.lookup "alg" with
  | some (.str "HS256") => pure ()
  | _ => throw .badAlgorithm
  if (base64Decode? true s).isNone then throw .malformed
  if signature key (h ++ "." ++ p) != s then throw .badSignature
  let claims ← match part? p with
    | some fs => pure fs
    | none => throw .malformed
  checkTimes now claims
  pure claims

end Token

end Bistro
