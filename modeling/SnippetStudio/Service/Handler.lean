import SnippetStudio.Pipeline.Run
import SnippetStudio.Service.Call
import SnippetStudio.Service.Endpoint
import SnippetStudio.Session.Basic
import SnippetStudio.Snippet.Report

/-!
# Handlers

What each endpoint does.  A handler looks at the session if there is one, gives it commands, and runs
errands outside; it ends with a content, or early (`Halt`).  Without a session that has started,
what needs the preview is refused, and a generated snippet goes nowhere.
-/

namespace SnippetStudio.Service

/-- what a handler may ask for -/
inductive Query (τ : Type) where
  | outside (q : SnippetStudio.Query τ)
  /-- the session, if there is one -/
  | look
  | command (c : Session.Command)

@[reducible] def Query.Answer {τ : Type} : Query τ → Type
  | outside q => q.Answer
  | look => Option Session
  | command _ => Except Fault Preview.Result

abbrev Job (τ : Type) := Plan (@Query.Answer τ)

abbrev Handler (τ : Type) := ExceptT Halt (Job τ)

variable {τ : Type}

/-- an errand as a part of a job -/
def outside {α : Type} : Errand τ α → Job τ α
  | .done a => .done a
  | .ask q next => .ask (.outside q) fun x => outside (next x)

namespace Handler

variable {α : Type}

def ofJob (j : Job τ α) : Handler τ α := ExceptT.lift j

def given (r : Except Halt α) : Handler τ α := ExceptT.mk (.done r)

def errand (e : Errand τ α) : Handler τ α := ofJob (outside e)

def look : Handler τ (Option Session) := ofJob (Plan.question (Query.look : Query τ))

/-- a command to the session; `blame` says what becomes of a failure -/
def command (c : Session.Command) (blame : Fault → Halt := .broken) : Handler τ Preview.Result :=
  ExceptT.mk do
    let r ← Plan.question (Query.command c : Query τ)
    return r.mapError blame

/-- the session, which must have started -/
def session : Handler τ Session := do
  match (← look).filter (·.started) with
  | some s => return s
  | none => throw notRunning

/-- the session shown, with more fields before and behind -/
def shown (before behind : List (String × Json)) : Handler τ Content := do
  return .json (.obj (Json.merge before (Json.merge (← session).snapshot behind)))

/-- a session's command, and the session behind it -/
def commanded (c : Session.Command) : Handler τ Content := do
  let _ ← session
  let _ ← command c
  shown [] []

/-- an undo or a redo, which may change nothing -/
def changed (e : Edit) : Handler τ Content := do
  let _ ← session
  let r ← command (.edit e)
  shown [("changed", .bool (r matches .flag true))] []

end Handler

open Handler

/-- a value that came from outside, which may hold numbers that have no place in a reply -/
def foreignJson (v : Json) : Handler τ Content :=
  if Json.isFinite v then return .json v
  else throw (.broken (.value "Out of range float values are not JSON compliant"))

def exampleJson (e : String × String) : Json := .obj [("name", .str e.1), ("source", .str e.2)]

/-- the buffer of a session that has started takes in what is generated -/
def hasBuffer : Handler τ Bool := do return (← look).any (·.started)

def blame (status : Nat) (what : String) (f : Fault) : Halt :=
  .refused status (what ++ ": " ++ f.message)

/-- what the service works with -/
structure Setup (τ : Type) where
  settings : Settings
  machine : Machine
  durations : Pipeline.Durations τ

def Setup.run [Sub τ] [OfNat τ 0] (k : Setup τ) (url : String) : Handler τ Content := do
  let buffer ← hasBuffer
  let outcome ← errand (Pipeline.plain k.durations (.ofSettings k.settings k.machine) buffer url).run
  match outcome with
  | .ok r => return .json (.obj (r.toFields k.durations.write))
  | .error f => throw (blame 500 "Generation failed" f)

def Setup.stream [Sub τ] [OfNat τ 0] (k : Setup τ) (url : String) : Handler τ Content := do
  let buffer ← hasBuffer
  let (events, ()) ← errand (Pipeline.stream (.ofSettings k.settings k.machine) buffer url).gathered
  return .events (events.map (·.text k.durations.write))

def lintOf (text : String) : Json :=
  let v := lint text .standard
  .obj (Json.merge v.toFields [("report", .str v.report.text)])

def handle [Sub τ] [OfNat τ 0] (k : Setup τ) (body : Body) : Endpoint → Handler τ Content
  | .root => return .json (.obj [("message", .str "Live preview backend is running")])
  | .health => do
    return .json (.obj [("status", .str "ok"), ("preview", .bool (← hasBuffer))])
  | .examples => return .json (.obj [("examples", .arr (Examples.all.map exampleJson))])
  | .loadExample name => do
    let _ ← session
    if !Examples.names.contains name then throw (.refused 404 ("Unknown example: " ++ name))
    commanded (.loadExample name)
  | .source => do return .json (.obj [("source", .str (← session).buffer.text)])
  | .putSource => do
    let text ← given (body.text "source")
    commanded (.edit (.set text))
  | .undo => changed .undo
  | .redo => changed .redo
  | .lint => do
    match ← given (body.text? "source") with
    | some text => return .json (lintOf text)
    | none => return .json (lintOf (← session).buffer.text)
  | .preview => do
    let _ ← session
    match ← command (.engine .html) (blame 500 "Could not read preview") with
    | .html html => shown [] [("html", html)]
    | _ => shown [] [("html", .null)]
  | .refresh => commanded (.engine .refresh)
  | .screenshot => do
    let _ ← session
    match ← command (.engine .screenshot) (blame 500 "Screenshot failed") with
    | .image bytes => return .image bytes
    | _ => return .nothing
  | .scrape => do
    let options ← given (body.fields .notRecord)
    let r ← errand (Scrape.pageOf k.settings k.machine (.obj options))
    foreignJson (.obj r.toFields)
  | .tryScrape => do
    let r ← errand (Scrape.trial k.settings k.machine)
    foreignJson (.obj (Scrape.trialFields r))
  | .generate => do k.run (← given (body.text "url"))
  | .generateStream => do k.stream (← given (body.text "url"))
  | .manual => return .page ""
  | .outline => return .json (.obj [])

end SnippetStudio.Service
