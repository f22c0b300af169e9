import SnippetStudio.Text.Lines

/-!
# Endpoints

What the studio offers over the web, and where: `Endpoint.at` lists the methods that are known for a path.
A path that is known but for a slash at its end has moved there (`Routed`).
-/

namespace SnippetStudio.Service

open Text

inductive Endpoint where
  | root
  | health
  | examples
  | loadExample (name : String)
  | source
  | putSource
  | undo
  | redo
  | lint
  | preview
  | refresh
  | screenshot
  | scrape
  | tryScrape
  | generate
  | generateStream
  /-- the pages on the service itself, and the record that they are made from -/
  | manual
  | outline
deriving Repr, DecidableEq

/-- the endpoints behind the parts of a path, with their methods -/
def Endpoint.behind : List String → List (String × Endpoint)
  | ["", ""] => [("GET", .root)]
  | ["", "health"] => [("GET", .health)]
  | ["", "examples"] => [("GET", .examples)]
  | ["", "examples", name, "load"] => if name.isEmpty then [] else [("POST", .loadExample name)]
  | ["", "source"] => [("GET", .source), ("PUT", .putSource)]
  | ["", "source", "undo"] => [("POST", .undo)]
  | ["", "source", "redo"] => [("POST", .redo)]
  | ["", "lint"] => [("POST", .lint)]
  | ["", "preview"] => [("GET", .preview)]
  | ["", "preview", "refresh"] => [("POST", .refresh)]
  | ["", "preview", "screenshot"] => [("GET", .screenshot)]
  | ["", "scrape"] => [("POST", .scrape)]
  | ["", "scrape", "test"] => [("GET", .tryScrape)]
  | ["", "generate"] => [("POST", .generate)]
  | ["", "generate", "stream"] => [("POST", .generateStream)]
  | ["", "openapi.json"] => [("GET", .outline), ("HEAD", .outline)]
  | ["", "docs"] => [("GET", .manual), ("HEAD", .manual)]
  | ["", "docs", "oauth2-redirect"] => [("GET", .manual), ("HEAD", .manual)]
  | ["", "redoc"] => [("GET", .manual), ("HEAD", .manual)]
  | _ => []

/-- the endpoints of a path; a line feed at its end does not count -/
def Endpoint.at (path : List Char) : List (String × Endpoint) :=
  let path := if path.getLast? == some '\n' then path.dropLast else path
  Endpoint.behind ((cut '/' path).map String.ofList)

/-- a path with the slash at its end taken off, or with one more -/
def otherPath (path : List Char) : List Char :=
  if path.getLast? == some '/' then (path.reverse.dropWhile (· == '/')).reverse else path ++ ['/']

inductive Routed where
  | found (e : Endpoint)
  | wrongMethod
  | moved
  | unknown
deriving Repr, DecidableEq

def route (method : String) (path : List Char) : Routed :=
  match Endpoint.at path with
  | [] =>
    if path != ['/'] && !(Endpoint.at (otherPath path)).isEmpty then .moved else .unknown
  | known =>
    match known.lookup method with
    | some e => .found e
    | none => .wrongMethod

end SnippetStudio.Service
