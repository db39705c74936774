import Bistro.Store.Session
import Bistro.Http.Message
import Bistro.Config
import Bistro.Text.Case

/-!
# Bistro — publishing uploaded images

An uploaded image is published under a folder of the public bucket, as a fresh name made of 32
hexadecimal digits and the usual extension of its type. Only JPEG, PNG, WebP, GIF, SVG and icon
images are taken; a file without a stated type takes the type its name's extension suggests,
and an empty file is refused. When the file store refuses the upload, the request fails with a
502.
-/

namespace Bistro

namespace Media

/-- The image types the service publishes. -/
def imageTypes : List String :=
  ["image/jpeg", "image/png", "image/webp", "image/gif", "image/svg+xml", "image/x-icon"]

/-- The types that file name extensions suggest. -/
def extensionTypes : List (String × String) :=
  [(".png", "image/png"), (".jpg", "image/jpeg"), (".jpeg", "image/jpeg"), (".jpe", "image/jpeg"),
    (".gif", "image/gif"), (".svg", "image/svg+xml"), (".webp", "image/webp"),
    (".ico", "image/vnd.microsoft.icon"), (".bmp", "image/bmp"), (".tif", "image/tiff"),
    (".tiff", "image/tiff"), (".pdf", "application/pdf"), (".txt", "text/plain"),
    (".json", "application/json"), (".html", "text/html"), (".htm", "text/html")]

/-- The extension of a file name: from the last dot of its last part, when some other character
than a dot stands before that dot. -/
def extension (filename : String) : String :=
  let cs := ((filename.splitOn "/").getLast?.getD filename).toList
  let tail := (cs.reverse.takeWhile (· ≠ '.')).reverse
  if tail.length = cs.length then ""
  else if (cs.take (cs.length - tail.length - 1)).all (· == '.') then ""
  else "." ++ String.ofList tail

/-- The type a file name suggests. -/
def guessType (filename : String) : Option String :=
  let ext := extension filename
  match extensionTypes.lookup ext with
  | some t => some t
  | none => extensionTypes.lookup (asciiLower ext)

/-- The usual extension of an image type. -/
def typeExtension (contentType : String) : String :=
  if contentType = "image/jpeg" then ".jpg"
  else if contentType = "image/png" then ".png"
  else if contentType = "image/webp" then ".webp"
  else if contentType = "image/gif" then ".gif"
  else if contentType = "image/svg+xml" then ".svg"
  else ""

/-- The 32 hexadecimal digits of an identifier. -/
def hexOf (id : String) : String := String.ofList (id.toList.filter (· ≠ '-'))

/-- Publish an uploaded image in a folder and give its public address. -/
def publish (u : Upload) (folder : String) (storageFails : Bool) : Txn String := do
  let contentType :=
    if u.contentType.isEmpty then (guessType u.filename).getD "" else u.contentType
  if !imageTypes.contains contentType then
    Txn.refuse 400 ("Unsupported file type: " ++ (if contentType.isEmpty then "unknown" else contentType))
  if u.data.isEmpty then Txn.refuse 400 "Empty file"
  let name := folder ++ "/" ++ hexOf (← Txn.freshId) ++ typeExtension contentType
  if storageFails then Txn.refuse 502 "Failed to upload file"
  Txn.putObject name
  pure (Config.service.storageBase ++ "/" ++ Config.service.bucket ++ "/" ++ name)

end Media

end Bistro
