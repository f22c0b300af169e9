import SnippetStudio.Rehearsal.Schedule

/-!
# Steps of a rehearsal

A rehearsal is written as a list of steps in JSON: commands, gates that open and close, and changes of the
script.  After each step a report says how the step ended, or that it is still under way, which earlier
steps ended meanwhile, and what there is to see.
-/

namespace SnippetStudio.Rehearsal

open Preview

/-- the name of what a step does -/
def deed (step : Json) : String := ((step.field? "do").bind (·.str?)).getD ""

def textOf (key : String) (step : Json) : String := ((step.field? key).bind (·.str?)).getD ""

/-- bytes in a report -/
def imageJson (bytes : Bytes) : Json := .obj [("$b64", .str (Base64.text bytes))]

def resultJson : Result → Json
  | .nothing => .null
  | .flag b => .bool b
  | .html v => v
  | .image b => imageJson b

/-- how something ended -/
def ending (show_ : Result → Json) : Except Fault Result → List (String × Json)
  | .ok r => [("result", show_ r)]
  | .error f =>
    ("error", .str f.kind.label) ::
      (if f.kind = .cancelled then [] else [("message", .str f.message)])

/-- how the steps of a rehearsal are read, and what a report shows -/
structure Script.Reading (σ κ : Type) where
  play : Play σ κ
  command : Json → κ
  /-- the result of a step -/
  shown : Json → Result → Json := fun _ => resultJson
  observe : Scene σ → List (String × Json)

/-- a step under way: its place, its number, and the step itself -/
structure Running where
  place : Nat
  number : Nat
  step : Json

structure Record (σ : Type) where
  scene : Scene σ
  running : List Running := []
  reports : List Json := []

variable {σ κ : Type}

/-- the step at a place of the rehearsal: the scene behind it, and its number if it is a command -/
def act (r : Script.Reading σ κ) (scene : Scene σ) (step : Json) : Scene σ × Option Nat :=
  match deed step with
  | "open" => (scene.openGate r.play (textOf "gate" step), none)
  | "close" => (scene.closeGate (textOf "gate" step), none)
  | "script" => (scene.rescript r.play ((step.field? "host").getD .null), none)
  | _ => let (n, scene) := scene.perform r.play (r.command step); (scene, some n)

def Record.play (r : Script.Reading σ κ) (record : Record σ) (step : Json) : Record σ :=
  let place := record.reports.length
  let (scene, number) := act r { record.scene with events := [], lines := [] } step
  let endOf (x : Running) : Option (List (String × Json)) :=
    (scene.resultOf x.number).map (ending (r.shown x.step))
  let own : List (String × Json) := match number with
    | none => [("result", .null)]
    | some n => (endOf ⟨place, n, step⟩).getD [("pending", .bool true)]
  let finished := record.running.filterMap fun x =>
    (endOf x).map fun e => Json.Tree.obj (("step", .int x.place) :: e)
  let still := record.running.filter fun x => (endOf x).isNone
  let new := match number with
    | some n => if (scene.resultOf n).isNone then [⟨place, n, step⟩] else []
    | none => []
  let report := own ++ (if finished.isEmpty then [] else [("finished", .arr finished)]) ++ r.observe scene
  { scene, running := still ++ new, reports := record.reports ++ [.obj report] }

/-- the reports on all steps -/
def reports (r : Script.Reading σ κ) (scene : Scene σ) (steps : List Json) : List Json :=
  (steps.foldl (Record.play r) { scene }).reports

/-! ## Calls on one preview -/

def previewCommand (step : Json) : Preview.Command :=
  match deed step with
  | "enter" => .makeRoot
  | "initialize" => .makeRoot
  | "render" => .render (textOf "source" step)
  | "refresh" => .refresh
  | "mounted_html" => .html
  | "screenshot" => .screenshot
  | _ => .shutdown

private def lines (xs : List String) : Json := .arr (xs.map .str)

def previewReading (setup : Setup) : Script.Reading (Desk × Nat) Preview.Command where
  play := desk setup
  command := previewCommand
  shown step r := if deed step = "enter" then .bool true else resultJson r
  observe t := [("events", .arr t.events), ("logs", lines t.lines),
    ("status", .obj t.state.1.engine.status), ("initialized", .bool t.state.1.engine.initialized),
    ("html", t.page.html)]

/-- steps on one preview -/
def previewReports (setup : Setup) (script : Script) (steps : List Json) : List Json :=
  reports (previewReading setup) { state := ({}, 0), page := { script } } steps

/-! ## Sessions -/

def sessionCommand (step : Json) : Session.Command :=
  match deed step with
  | "start" => .start
  | "stop" => .stop
  | "wait" => .wait
  | "set" => .edit (.set (textOf "value" step))
  | "undo" => .edit .undo
  | "redo" => .edit .redo
  | "load_example" => .loadExample (textOf "name" step)
  | _ => .engine .refresh

/-- the text of an example is shown by the example's name -/
def nameExample (v : Json) : Json :=
  match v with
  | .str s => match Examples.nameOf? s with
    | some name => .str ("<example " ++ name ++ ">")
    | none => v
  | _ => v

def sessionReading (setup : Setup) : Script.Reading Session Session.Command where
  play := session setup
  command := sessionCommand
  observe t := [("events", .arr t.events), ("logs", lines t.lines), ("started", .bool t.state.started),
    ("snapshot", .obj (t.state.snapshot.map fun f => (f.1, nameExample f.2))), ("html", t.page.html)]

/-- a session before its start -/
def newSession (setup : Setup) (exampleName : String) : Except Fault Session := do
  return { buffer := .ofText (← Examples.get exampleName)
           components := setup.capabilities.components.length
           example_ := exampleName }

def sessionReports (setup : Setup) (script : Script) (exampleName : String) (steps : List Json) :
    Except Fault (List Json) := do
  return reports (sessionReading setup) { state := ← newSession setup exampleName, page := { script } } steps

/-! ## One compilation -/

/-- one compilation against a scripted page: what it gives, and what was asked of the page -/
def compileOnce (setup : Setup) (script : Script) (source : String) :
    Except Trouble Artifact × List Json :=
  let ask (p : Page) (r : Request) : Page × List Json × Outcome :=
    let (p, events, ticket) := p.take r
    let (p, o) := p.answer ticket
    (p, events, o)
  let (page, events, o) := ask { script } .compilerReady
  match readiness o with
  | .error t => (.error t, events)
  | .ok _ =>
    let w := setup.wrap source
    let (_, more, o) := ask page (.transform w.text)
    (compiled w source o, events ++ more)

end SnippetStudio.Rehearsal
