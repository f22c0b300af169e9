import SnippetStudio.Rehearsal.Outside
import SnippetStudio.Rehearsal.Steps
import SnippetStudio.Service.Basic

/-!
# A rehearsed service

Calls of the service, one after the other, in a scripted world outside and with a session on a scripted page,
if there is to be one.  The session is started, and its first render awaited, before the first call; a start that
fails leaves the service without a session.
-/

namespace SnippetStudio.Rehearsal

open Service (Call Reply)

/-- a session on a scripted page; the page stays when the session has ended -/
structure Venue where
  scene : Scene Session
  hasSession : Bool := true

/-- the world outside, with a venue if there is one -/
abbrev House := Outside (Option Venue)

variable {σ : Type}

def Venue.perform (setup : Preview.Setup) (v : Venue) (c : Session.Command) :
    Except Fault Preview.Result × Venue :=
  let (n, scene) := v.scene.perform (session setup) c
  ((scene.resultOf n).getD (.error (.runtime "still under way")), { v with scene })

/-- a session that is started -/
def Venue.open (setup : Preview.Setup) (script : Script) (exampleName : String) : Except Fault Venue := do
  let v : Venue := { scene := { state := ← newSession setup exampleName, page := { script } } }
  match v.perform setup .start with
  | (.error _, v) => return { v with hasSession := false }
  | (.ok _, v) => return (v.perform setup .wait).2

/-- a command to the session of a venue -/
def commandVenue (setup : Preview.Setup) (c : Session.Command) :
    Option Venue → Except Fault Preview.Result × Option Venue
  | some v => let (r, v) := v.perform setup c; (r, some v)
  | none => (.error (.runtime "there is no session"), none)

def loadVenue (setup : Preview.Setup) (code : String) (v : Option Venue) :
    Except Fault Unit × Option Venue :=
  let (r, v) := commandVenue setup (.edit (.set code)) v
  (r.map fun _ => (), v)

/-- how the world answers a job of the service -/
def answerJob (setup : Preview.Setup) : Plan.World (@Service.Query.Answer Float) House
  | .outside q, w => Outside.answer (loadVenue setup) q w
  | .look, w => ((w.buffer.filter (·.hasSession)).map (·.scene.state), w)
  | .command c, w =>
    let (r, buffer) := commandVenue setup c w.buffer
    (r, { w with buffer })

/-! ## Calls -/

/-- the server that calls go to -/
def serverUrl : String := "http://testserver"

/-- the path of a call as the service gets it -/
def pathOf (path : String) : Except Fault (List Char) := do
  let read (s : String) : Except Fault Url := (Url.parse s).mapError Fetch.badUrl
  let url ← read path
  let url ← if url.isAbsolute then pure url else read (serverUrl ++ url.rooted.text)
  let path := if url.path.isEmpty then "/" else url.path
  return Percent.decode path.toList

/-- the call of a step; a value as content goes as JSON -/
def callOf (step : Json) : Except Fault Call := do
  let headers := (((step.field? "headers").bind (·.fields?)).getD []).map fun h => (h.1, h.2.str?.getD "")
  let method := String.ofList ((textOf "method" step).toList.map Char.toUpper)
  let call : Call :=
    { method, path := ← pathOf (textOf "path" step), headers, content := textOf "content" step }
  match step.present? "json" with
  | some v =>
    return { call with headers := headers ++ [("content-type", "application/json")], content := Json.spell v }
  | none => return call

/-- the headers that a report shows -/
def shownHeaders : List String :=
  ["access-control-allow-origin", "access-control-allow-credentials", "cache-control", "x-accel-buffering"]

def contentJson : Service.Content → Json
  | .nothing => .str ""
  | .json v => v
  | .plain s => .str s
  | .page s => .str s
  | .image b => imageJson b
  | .events es => .str (String.join es)

/-- a reply in a report; of an invalid call only the issues are shown -/
def replyJson (r : Reply) : Json :=
  let body := contentJson r.content
  let body := if r.status = 422 then (body.field? "detail").getD body else body
  .obj [("status", .int r.status), ("type", (r.content.type?.map Json.Tree.str).getD .null), ("body", body),
    ("headers", .obj ((r.headers.filter fun h => shownHeaders.contains h.1).map fun h => (h.1, .str h.2)))]

/-- a step: what it gives, and the world behind it -/
def serviceStep (setup : Preview.Setup) (k : Service.Setup Float) (w : House) (step : Json) :
    Except Fault (Json × House) :=
  match deed step with
  | "shutdown" =>
    let buffer := w.buffer.map fun v =>
      if v.hasSession then { (v.perform setup .stop).2 with hasSession := false } else v
    .ok (.bool false, { w with buffer })
  | "engine_shutdown" =>
    .ok (.null, { w with buffer := (commandVenue setup (.engine .shutdown) w.buffer).2 })
  | _ => do
    let (r, w) := (Service.respond k (← callOf step)).run (answerJob setup) w
    return (replyJson r, w)

/-- the reports on the steps, and the requests that went out -/
def serviceReports (setup : Preview.Setup) (k : Service.Setup Float) (w : House) (steps : List Json) :
    Except Fault (List Json × Json) := do
  let play (acc : House × List Json) (step : Json) : Except Fault (House × List Json) := do
    let (result, w) ← serviceStep setup k acc.1 step
    let html : List (String × Json) := match w.buffer with
      | some v => [("html", v.scene.page.html)]
      | none => []
    return (w, acc.2 ++ [.obj (("result", result) :: html)])
  let (w, reports) ← steps.foldlM play (w, [])
  return (reports, w.sortedRequests)

end SnippetStudio.Rehearsal
