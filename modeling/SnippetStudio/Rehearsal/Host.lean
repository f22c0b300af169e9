import SnippetStudio.Browser.Host
import SnippetStudio.Rehearsal.Steps

/-!
# A rehearsed host

Steps of a host against a scripted browser.  The script says which operations fail, which names the page
reports when the components are handed over, and what other scripts in the page answer.  How scripts and
reports name an operation is up to the caller (`name`).
-/

namespace SnippetStudio.Rehearsal

/-- what a report shows of an operation -/
def operationArguments (s : Settings) : Operation → List Json
  | .launch headless => [.bool headless]
  | .newPage w h => [.obj [("width", .int w), ("height", .int h)]]
  | .listen event => [.str event]
  | .setContent document => [.str "domcontentloaded", .bool (document == Page.document s)]
  | .install payload =>
    [.str Operation.installExpression,
      .int (((payload.field? "components").bind (·.items?)).getD []).length]
  | .loadCompiler url => [.str Operation.loadExpression, .str url]
  | .evaluate expression arguments => .str expression :: arguments
  | .screenshot selector => [.str selector, .str "png"]
  | _ => []

def operationJson (name : Operation → String) (s : Settings) (o : Operation) : Json :=
  .arr (.str (name o) :: operationArguments s o)

/-- the picture that a scripted page gives -/
def hostImage : Bytes := [0x89, 0x50, 0x4E, 0x47]

/-- a browser that follows a script -/
def scriptedBrowser (name : Operation → String) (caps : Capabilities) (script : Json) : Browser := fun o =>
  match (script.field? "raises").bind (·.present? (name o)) with
  | some f => .error (faultOf f)
  | none =>
    match o with
    | .install _ => .ok ((script.field? "installed").getD (.arr (caps.names.map .str)))
    | .evaluate .. => .ok ((script.field? "result").getD .null)
    | .screenshot _ => .ok (imageJson hostImage)
    | _ => .ok .null

structure HostScene where
  host : Host := {}
  script : Json
  /-- the events that the newest page tells of -/
  heard : List String := []

/-- the argument at a place of a step -/
def argument (step : Json) (i : Nat) : Json :=
  (((step.field? "args").bind (·.items?)).getD [])[i]?.getD .null

/-- the work of a step with the browser -/
def hostWork (s : Settings) (caps : Capabilities) (step : Json) : Host.Run Json :=
  match deed step with
  | "start" => do Host.start s caps; return .null
  | "stop" => do Host.stop; return .null
  | "create_root" => Host.call .createRoot
  | "compiler_ready" => Host.call .compilerReady
  | "transform" => Host.call (.transform (argument step 0))
  | "instantiate" => Host.call (.instantiate (argument step 0))
  | "mount" => Host.call .mount
  | "show_error" => Host.call (.showError (argument step 0) (argument step 1))
  | "mounted_html" => Host.call .html
  | "screenshot" => Host.call .screenshot
  | _ => return .null

/-- the events that are told of after some operations -/
def heardAfter (b : Browser) (heard : List String) (o : Operation) : List String :=
  match o, b o with
  | .newPage .., _ => []
  | .listen e, .ok _ => e :: heard
  | _, _ => heard

/-- the line that an event of the browser leaves -/
def browserLine? (scene : HostScene) (step : Json) : Option String :=
  match deed step with
  | "console" =>
    if scene.heard.contains "console" then Host.consoleLine? (textOf "type" step) (textOf "text" step)
    else none
  | "pageerror" =>
    if scene.heard.contains "pageerror" then some (Host.errorLine (textOf "text" step)) else none
  | _ => none

def hostReport (name : Operation → String) (s : Settings) (caps : Capabilities)
    (acc : HostScene × List Json) (step : Json) : HostScene × List Json :=
  let keys := if deed step = "script" then ((step.field? "script").bind (·.fields?)).getD [] else []
  let scene := { acc.1 with script := Json.Tree.obj (Json.merge (acc.1.script.fields?.getD []) keys) }
  let browser := scriptedBrowser name caps scene.script
  let (ended, track) := Host.run (hostWork s caps step) browser scene.host
  let own := match ended with
    | .ok v => [("result", v)]
    | .error f => [("error", .str f.kind.label), ("message", .str f.message)]
  let lines := (track.lines ++ (browserLine? scene step).toList).flatMap Text.lineTexts
  let scene := { scene with host := track.host,
                            heard := track.operations.foldl (heardAfter browser) scene.heard }
  (scene, acc.2 ++ [.obj (own ++ [("events", .arr (track.operations.map (operationJson name s))),
    ("logs", .arr (lines.map .str)), ("started", .bool scene.host.page)])])

def hostReports (name : Operation → String) (s : Settings) (caps : Capabilities) (script : Json)
    (steps : List Json) : List Json :=
  (steps.foldl (hostReport name s caps) ({ script }, [])).2

end SnippetStudio.Rehearsal
