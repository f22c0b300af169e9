import SnippetStudio.Preview.Compile
import SnippetStudio.Preview.Engine

/-!
# One render

A render compiles its snippet, evaluates the compiled text and mounts it.  It is a call that waits at a
`Point` and goes on when what it waits for has come: an answer of the page (`Render.answer`), the
end of a pause (`Render.poll`), or the page itself, which one call at a time may change
(`Render.enter`).  Each of them gives a `Turn`: the engine's new state, lines for the log, and what the
render waits for next.

At every such moment the render first looks whether a newer call has begun; if so it leaves the page and
the recorded error alone.
-/

namespace SnippetStudio.Preview

/-- what a render wants to do with the page -/
inductive Work where
  | report (f : Failure)
  | mount (code : Json)
deriving Repr

/-- what a render waits for -/
inductive Point where
  /-- whether the compiler is ready -/
  | ready
  /-- the compiled text -/
  | transform
  /-- the next poll -/
  | pause
  /-- the page to be free -/
  | queue (w : Work)
  /-- the evaluation of the compiled text -/
  | instantiate
  | mount
  /-- the error panel -/
  | panel
deriving Repr

structure Render where
  version : Nat
  source : String
  /-- the compiler was not ready at least once -/
  polled : Bool := false
  point : Point := .ready
deriving Repr

inductive Next where
  | ask (request : Request)
  | pause
  /-- wait until the page is free -/
  | want (w : Work)
  | done
  /-- the call itself fails -/
  | failed (f : Fault)
deriving Repr

structure Turn where
  engine : Engine
  render : Render
  lines : List String := []
  next : Next
deriving Repr

namespace Render

variable (s : Setup) (e : Engine) (r : Render)

/-- ask the page and wait at a point -/
def ask (point : Point) (request : Request) : Turn :=
  { engine := e, render := { r with point }, next := .ask request }

def done : Turn := { engine := e, render := r, next := .done }

/-- the compiler is asked whether it is ready; an earlier error is forgotten -/
def poll : Turn :=
  if e.supersedes r.version then done e r else ask { e with error := none } r .ready .compilerReady

/-- wait for the compiler; the first time the log says so -/
def wait (message : String) : Turn where
  engine := e
  render := { r with polled := true, point := .pause }
  lines := if r.polled then []
    else ["[preview] " ++ message ++ ", polling every " ++ s.delay ++ "s"]
  next := .pause

/-- wait for the page -/
def want (w : Work) : Turn where
  engine := e
  render := { r with point := .queue w }
  next := .want w

/-- a failure is recorded and shown, by a render that has the page -/
def fail (f : Failure) : Turn :=
  if e.supersedes r.version then
    { done e r with lines := ["[preview] Dropping " ++ f.stage.label ++ " error from a superseded render"] }
  else
    { ask { e with error := some f } r .panel (.showError f.stage f.message) with
      lines := ["[preview:" ++ f.stage.label ++ "] " ++ f.message] }

/-- the compiler did not give a text -/
def trouble : Trouble → Turn
  | .notReady message => wait s e r message
  | .failure f => want e r (.report f)
  | .fault f => want e r (.report { stage := .compile, message := f.full })

/-- an error that the page describes; a description that cannot be read ends the call -/
def failWith (stage : Stage) (error : Json) : Turn :=
  match Diagnostic.runtimeMessage error with
  | .ok message => fail e r { stage, message }
  | .error f => { engine := e, render := r, next := .failed f }

/-- the render has the page -/
def enter : Work → Turn
  | .report f => fail e r f
  | .mount code => if e.supersedes r.version then done e r else ask e r .instantiate (.instantiate code)

/-- an undefined name that shows up while a component renders is a fault of the snippet's text -/
def mountStage (error : Json) : Stage :=
  if Diagnostic.isReference error then .instantiate else .render

/-- the page has answered -/
def answer (o : Outcome) : Turn :=
  match r.point with
  | .ready =>
    match readiness o with
    | .ok _ => ask e r .transform (.transform (s.wrap r.source).text)
    | .error t => trouble s e r t
  | .transform =>
    match compiled (s.wrap r.source) r.source o with
    | .ok a => want e r (.mount a.code)
    | .error t => trouble s e r t
  | .instantiate =>
    match o with
    | .error f => fail e r { stage := .instantiate, message := f.full }
    | .ok reply =>
      if reply.ok then
        if e.supersedes r.version then done e r else ask e r .mount .mount
      else failWith e r .instantiate reply.error
  | .mount =>
    match o with
    | .error f => fail e r { stage := .render, message := f.full }
    | .ok reply =>
      if reply.ok then done (e.mounted r.source) r
      else failWith e r (mountStage reply.error) reply.error
  | .panel =>
    match o with
    | .error f => { done e r with lines := ["[preview] Could not show the error panel: " ++ f.message] }
    | .ok _ => done e r
  | .pause | .queue _ => done e r

end Render

end SnippetStudio.Preview
