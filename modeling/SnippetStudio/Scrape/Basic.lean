import SnippetStudio.Errand.Fetch
import SnippetStudio.Json.Sequence
import SnippetStudio.Picture.DataUrl
import SnippetStudio.Scrape.Body
import SnippetStudio.Scrape.Options
import SnippetStudio.Web.MediaType

/-!
# Scraping

A page is fetched through a scraping service, which renders it, and makes a screenshot of it if it is
asked to (`Scrape.page`).  A scrape gives the body of the page, a screenshot as a data URL, or the reason why
there is neither (`ScrapeResult`).  Nothing here breaks off: what goes wrong becomes the reason in the result.

A screenshot is looked for behind the address in a header of the answer, and then in the answer itself;
where it is in neither, the body counts as for a page.
-/

namespace SnippetStudio

/-- what the studio runs on: it reads and writes pictures, and reads JSON to some depth -/
structure Machine extends Codec where
  depth : Nat

def Machine.blind (depth : Nat) : Machine := { Codec.blind with depth }

inductive ScrapeResult where
  | body (data : Scrape.Body)
  | screenshot (url : String)
  | failed (error : String)

namespace ScrapeResult

/-- the body, null where there is none -/
def data : ScrapeResult → Scrape.Body
  | body d => d
  | _ => { value := .null }

def screenshot? : ScrapeResult → Option String
  | screenshot u => some u
  | _ => none

def error? : ScrapeResult → Option String
  | failed e => some e
  | _ => none

def isSuccess (r : ScrapeResult) : Bool := r.error?.isNone

private def textOrNull (s : Option String) : Json := (s.map Json.Tree.str).getD .null

def toFields (r : ScrapeResult) : List (String × Json) :=
  [("success", .bool r.isSuccess), ("data", r.data.value), ("screenshot_url", textOrNull r.screenshot?),
    ("error", textOrNull r.error?)]

end ScrapeResult

end SnippetStudio

namespace SnippetStudio.Scrape

variable {τ : Type}

def missingKey : Fault :=
  .acquisition "API key not found in environment variables. Please add SCRAPER_API_KEY to your .env file."

/-- the text of an answer, which may have none -/
def textOf (r : Web.Response) : Attempt τ String := Attempt.ofExcept r.text

/-- the body of an answer with a text -/
def readBody (s : Settings) (m : Machine) (text : String) : Attempt τ Body :=
  Attempt.ofExcept (bodyOf m.depth text s.maxContentChars)

/-- a status and the beginning of the text that came with it -/
def badStatus (what : String) (status : Int) (text : String) : Fault :=
  .acquisition (what ++ " request failed: " ++ toString status ++ " " ++ firstChars 300 text)

/-- the end of an attempt whose request was not understood -/
def refuse (what : String) (r : Web.Response) : Attempt τ Unit := do
  throw (badStatus what r.status (← textOf r))

/-- the parameters of the request for a page, with those that come from its options -/
def params (key : String) (o : ScrapeOptions) (extra : List (String × String)) : List (String × String) :=
  [("api_key", key), ("url", o.url)] ++ extra ++
    (if o.screenshot then [("screenshot", "true")] else [])

/-- the header that tells the address of a screenshot -/
def screenshotHeader : String := "sa-screenshot"

/-- the media type of a screenshot that comes without one -/
def screenshotType : String := "image/png"

/-- the file of an answer as a screenshot -/
def shot (codec : Codec) (r : Web.Response) : ScrapeResult :=
  .screenshot (DataUrl.ofFile codec r.body (mediaType r.contentType? screenshotType))

/-- the screenshot that an answer brings -/
def screenshot (s : Settings) (m : Machine) (r : Web.Response) : Attempt τ ScrapeResult := do
  let address := (r.header? screenshotHeader).getD ""
  if !address.isEmpty then
    Attempt.note (.screenshotAt address)
    let file ← fetch address
    if !file.isSuccess then throw (.acquisition ("Failed to fetch screenshot from " ++ address))
    return shot m.toCodec file
  else if Text.contains "image".toList (r.contentType?.getD "").toList then
    Attempt.note .screenshotInBody
    return shot m.toCodec r
  else
    Attempt.note .screenshotMissing
    return .body (← readBody s m (← textOf r))

def attempt (s : Settings) (m : Machine) (o : ScrapeOptions) : Attempt τ ScrapeResult := do
  if s.scraperApiKey.isEmpty then throw missingKey
  let extra ← Attempt.ofExcept o.params
  Attempt.note (.requesting o.screenshot o.url extra)
  let r ← fetch s.scraperApiUrl (some (params s.scraperApiKey o extra))
  if !r.isSuccess then refuse "Scrape" r
  if o.screenshot then screenshot s m r
  else
    let text ← textOf r
    let body ← readBody s m text
    Attempt.note (.received text.length o.url)
    return .body body

/-- a page, or a screenshot of it -/
def page (s : Settings) (m : Machine) (o : ScrapeOptions) : Errand τ ScrapeResult := do
  match ← (attempt s m o).run with
  | .ok r => return r
  | .error f =>
    Errand.note (.scrapeFailed f)
    return .failed f.report

/-- a page for options that are given by a value -/
def pageOf (s : Settings) (m : Machine) (options : Json) : Errand τ ScrapeResult :=
  match ScrapeOptions.ofJson options with
  | .ok o => page s m o
  | .error issues => do
    let reason := ((issues.head?.map (·.cause.reason)).getD "")
    Errand.note (.invalidOptions reason)
    return .failed reason

/-- the content or the screenshot of a page, whatever the fields say of the two -/
def part (s : Settings) (m : Machine) (screenshot : Bool) (fields : List (String × Json))
    (url : String) : Errand τ ScrapeResult :=
  pageOf s m (.obj (Json.merge fields [("url", .str url), ("screenshot", .bool screenshot)]))

/-- the content or the screenshot of a page, from values -/
def partOf (s : Settings) (m : Machine) (screenshot : Bool) (options url : Json) :
    Except Fault (Errand τ ScrapeResult) := do
  let fields ← Json.mapping? options
  return pageOf s m (.obj (Json.merge fields [("url", url), ("screenshot", .bool screenshot)]))

/-! ## A trial -/

/-- the page of a trial -/
def trialUrl : String := "http://httpbin.org/ip"

def tryKey (s : Settings) (m : Machine) : Attempt τ Body := do
  if s.scraperApiKey.isEmpty then
    throw (.acquisition "API key not found in environment variables")
  let r ← fetch s.scraperApiUrl (some [("api_key", s.scraperApiKey), ("url", trialUrl)])
  if !r.isSuccess then refuse "Test" r
  let text ← textOf r
  Attempt.note (.probeAnswered (firstChars 200 text))
  readBody s m text

/-- a trial of the key: the body of a small page, or what went wrong -/
def trial (s : Settings) (m : Machine) : Errand τ (Except String Body) := do
  match ← (tryKey s m).run with
  | .ok data => return .ok data
  | .error f =>
    Errand.note (.probeFailed f.message)
    return .error f.report

def trialFields : Except String Body → List (String × Json)
  | .ok data =>
    [("success", .bool true), ("message", .str "ScraperAPI integration test successful"), ("data", data.value)]
  | .error e =>
    [("success", .bool false), ("message", .str "ScraperAPI integration test failed"), ("error", .str e)]

end SnippetStudio.Scrape
