import SnippetStudio.Picture.Basic
import SnippetStudio.Text.Lines
import SnippetStudio.Text.Scan

/-!
# Data URLs

A file travels inside a URL as its media type and its bytes in base 64 (`DataUrl.ofFile`).  A
screenshot is written smaller first where the codec can read it.  `DataUrl.decode` takes the media
type and the bytes out again; parameters between them are passed over as long as one of them says
base 64.
-/

namespace SnippetStudio.DataUrl

open Text

def scheme : List Char := "data:".toList

/-- the URL of bytes of a media type -/
def write (bytes : Bytes) (mediaType : String) : String :=
  String.ofList (scheme ++ mediaType.toList ++ ";base64,".toList ++ Base64.encode bytes)

/-- the URL of a file: as a smaller JPEG if `compress` asks for one and the codec can make it -/
def ofFile (codec : Codec) (file : Bytes) (mediaType : String := "image/png")
    (compress : Bool := true) : String :=
  match compress, codec.reduce file with
  | true, .ok smaller => write smaller "image/jpeg"
  | _, _ => write file mediaType

/-- a character of a media type's two names -/
def isToken (c : Char) : Bool := isWord c || c == '.' || c == '+' || c == '-'

/-- a media type at the front, with the rest behind it; none where there is no media type -/
def mediaType? (s : List Char) : Option (List Char × List Char) :=
  match s.takeWhile isToken, s.dropWhile isToken with
  | a :: as, '/' :: r =>
    match r.takeWhile isToken, r.dropWhile isToken with
    | b :: bs, r => some (a :: as ++ '/' :: b :: bs, r)
    | [], _ => none
  | _, _ => none

/-- the media type, the parameters with their semicolons, and the data -/
def parts? (s : List Char) : Option (Option (List Char) × List Char × List Char) := do
  let s ← after? scheme s
  let (mime, s) := match mediaType? s with
    | some (m, r) => (some m, r)
    | none => (none, s)
  match cutOnce ',' s with
  | (params, some data) => if params.isEmpty || params.head? == some ';' then some (mime, params, data) else none
  | (_, none) => none

/-- the bytes of a data URL and their media type -/
def decode (url : String) : Except Fault (Bytes × String) :=
  match parts? (trim url.toList) with
  | none => .error (.value "Not a data: URL")
  | some (mime, params, data) =>
    if contains ";base64".toList params then
      match Base64.decode data with
      | .ok bytes => .ok (bytes, String.ofList (mime.getD "text/plain".toList))
      | .error r => .error r.fault
    else .error (.value "Only base64 data: URLs are supported")

end SnippetStudio.DataUrl
