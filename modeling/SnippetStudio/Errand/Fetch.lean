import SnippetStudio.Errand.Basic
import SnippetStudio.Web.Link

/-!
# Fetching

An address is fetched by sending a request for it and following where the answers send the client on,
for at most `redirectLimit` times.  An address that does not say where it leads is asked of no
server in particular, and its answer is refused.
-/

namespace SnippetStudio

variable {τ : Type}

namespace Fetch

def redirectLimit : Nat := 20

def badUrl (f : Url.Flaw) : Fault := ⟨.unknown "InvalidURL", f.message⟩

def badLocation (f : Url.Flaw) : Fault :=
  ⟨.unknown "RemoteProtocolError", "Invalid URL in location header: " ++ f.message ++ "."⟩

def tooManyRedirects : Fault :=
  ⟨.unknown "TooManyRedirects", "Exceeded maximum allowed redirects."⟩

/-- the answer for a URL without a scheme -/
def unknownType (u : Url) : Fault := .value ("unknown url type: " ++ quoted u.text)

/-- the URL of a location seen from the URL that was asked for -/
def locate (asked : Url) (location : String) : Except Fault Url := do
  let link ← (Url.parse location).mapError badLocation
  Except.mapError badUrl do
    asked.withFragmentOf (← asked.led (← asked.housed link))

/-- a request and those that follow from its answer, at most as many as given -/
def follow : Nat → Web.Request → Attempt τ Web.Response
  | 0, _ => throw tooManyRedirects
  | n + 1, r => do
    let response ← Attempt.send r
    if r.url.scheme.isEmpty then throw (unknownType r.url)
    match response.location? with
    | none => return response
    | some location => follow n { target := ← Attempt.ofExcept (locate r.url location) }

/-- the request for an address, with parameters in place of its query if there are any -/
def request (address : String) (params : Option (List (String × String))) :
    Except Url.Flaw Web.Request := do
  let url ← Url.parse address
  let request : Web.Request := { target := ← if url.isAbsolute then pure url else url.rooted.fit, params }
  if params.isSome then discard request.url.fit
  return request

end Fetch

/-- the answer for an address -/
def fetch (address : String) (params : Option (List (String × String)) := none) :
    Attempt τ Web.Response := do
  Fetch.follow (Fetch.redirectLimit + 1)
    (← Attempt.ofExcept ((Fetch.request address params).mapError Fetch.badUrl))

end SnippetStudio
