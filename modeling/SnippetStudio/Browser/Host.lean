import SnippetStudio.Browser.Operation
import SnippetStudio.Capability.Basic
import SnippetStudio.Page.Document

/-!
# The host of the page

The host starts a browser, loads the page into it and hands the components over; afterwards it passes
requests on to the page.  A start that fails stops everything that it had started.

Work with a browser is a `Run`: it reads the browser's answers, keeps what the host has running and writes down
what was done and said, also where it fails.
-/

namespace SnippetStudio

/-- what a host has running -/
structure Host where
  driver : Bool := false
  browser : Bool := false
  page : Bool := false
deriving Repr, DecidableEq, Inhabited

namespace Host

structure Track where
  host : Host
  operations : List Operation := []
  lines : List String := []

abbrev Run (α : Type) := ReaderT Browser (ExceptT Fault (StateM Track)) α

namespace Run

/-- an operation, written down whether it succeeds or not -/
def ask (o : Operation) : Run Json := do
  modify fun t => { t with operations := t.operations ++ [o] }
  match (← read) o with
  | .ok v => return v
  | .error f => throw f

def say (line : String) : Run Unit := modify fun t => { t with lines := t.lines ++ [line] }

/-- what is already known to have gone well or not -/
def given {α : Type} (r : Except Fault α) : Run α :=
  match r with
  | .ok a => return a
  | .error f => throw f

def host : Run Host := return (← get).host

def setHost (h : Host) : Run Unit := modify fun t => { t with host := h }

end Run

open Run

def notStarted : Fault := ⟨.notStarted, "PreviewHost.start() has not completed"⟩

/-- close what is running; a browser that cannot be closed is left to the driver -/
def stop : Run Unit := do
  if (← host).browser then
    try
      let _ ← ask .closeBrowser
    catch f => say ("[host] Browser close failed: " ++ f.message)
  if (← host).driver then
    let _ ← ask .stopDriver
  setHost {}

/-- load the page and hand the components over; answers how many there are -/
def load (s : Settings) (caps : Capabilities) : Run Nat := do
  let _ ← ask (.launch s.headless)
  setHost { (← host) with browser := true }
  let _ ← ask (.newPage s.viewportWidth s.viewportHeight)
  let _ ← ask (.listen "console")
  let _ ← ask (.listen "pageerror")
  let _ ← ask (.setContent (Page.document s))
  let payload ← given caps.payload
  let installed ← given (Json.parts (← ask (.install payload)))
  if installed.map (·.str?) ≠ caps.names.map some then
    throw (.runtime ("Host installed " ++ toString installed.length ++ " components, expected " ++
      toString caps.names.length))
  let _ ← ask (.loadCompiler s.babelUrl)
  return installed.length

def start (s : Settings) (caps : Capabilities) : Run Unit := do
  if (← host).page then
    say "[host] Already started, skipping"
  else
    let _ ← ask .startDriver
    setHost { (← host) with driver := true }
    let installed ← try load s caps catch f => do stop; throw f
    setHost { (← host) with page := true }
    say ("[host] Preview page ready (" ++ toString installed ++ " components installed)")

/-- an operation on the page -/
def onPage (o : Operation) : Run Json := do
  if (← host).page then ask o else throw notStarted

/-- what can be asked of the page -/
inductive Call where
  | createRoot
  | compilerReady
  | transform (text : Json)
  | instantiate (code : Json)
  | mount
  | showError (stage message : Json)
  | html
  | screenshot

def Call.operation : Call → Operation
  | createRoot => .evaluate "() => window.__preview.createRoot()" []
  | compilerReady => .evaluate "() => window.__preview.compilerReady()" []
  | transform text => .evaluate "(text) => window.__preview.transform(text)" [text]
  | instantiate code => .evaluate "(code) => window.__preview.instantiate(code)" [code]
  | mount => .evaluate "() => window.__preview.mount()" []
  | showError stage message =>
    .evaluate "([stage, message]) => window.__preview.showError(stage, message)" [.arr [stage, message]]
  | html => .evaluate "() => window.__preview.html()" []
  | screenshot => .screenshot ("#" ++ Page.mountId)

def call (c : Call) : Run Json := onPage c.operation

/-- the line for a message on the page's console: errors and warnings are worth one -/
def consoleLine? (type text : String) : Option String :=
  if type = "error" ∨ type = "warning" then some ("[host] console." ++ type ++ ": " ++ text) else none

def errorLine (text : String) : String := "[host] Page error: " ++ text

/-- a run against a browser: how it ends, and its track -/
def run {α : Type} (r : Run α) (b : Browser) (h : Host) : Except Fault α × Track :=
  ((r b).run).run { host := h }

end Host

end SnippetStudio
