import SnippetStudio.Web.ContentType
import SnippetStudio.Web.Url

/-!
# Exchanges

A request asks for a URL; parameters of its own stand in place of the URL's query.  A response has a
status, headers and bytes.  Names of headers are compared without letter case.
-/

namespace SnippetStudio.Web

structure Request where
  target : Url
  /-- in place of the query, if there are any -/
  params : Option (List (String × String)) := none
deriving Repr, DecidableEq

/-- the URL that is asked for -/
def Request.url (r : Request) : Url :=
  match r.params with
  | some ps => r.target.withParams ps
  | none => r.target

structure Response where
  status : Int
  headers : List (String × String) := []
  body : Bytes := []
deriving Repr, DecidableEq

namespace Response

def lower (s : String) : String := String.ofList (s.toList.map Char.toLower)

/-- the value of a header, the values of several put together with commas -/
def header? (r : Response) (name : String) : Option String :=
  match (r.headers.filter fun h => lower h.1 == lower name).map (·.2) with
  | [] => none
  | values => some (", ".intercalate values)

/-- the request was understood, and this is the answer -/
def isSuccess (r : Response) : Bool := decide (200 ≤ r.status ∧ r.status ≤ 299)

def contentType? (r : Response) : Option String := r.header? "content-type"

/-- the body as text, in the charset that the content type names -/
def text (r : Response) : Except Fault String :=
  if r.body.isEmpty then .ok ""
  else do return String.ofList (← (← ContentType.charset r.contentType?).decode r.body)

/-- the statuses that send the client on -/
def redirections : List Int := [301, 302, 303, 307, 308]

/-- where the client is sent on to -/
def location? (r : Response) : Option String :=
  if redirections.contains r.status then r.header? "location" else none

end Response

end SnippetStudio.Web
