import SnippetStudio.Diagnostic.Failure
import SnippetStudio.Fault

/-!
# The engine's state

A version counts the calls that want to change the preview, so a call is out of date as soon as a newer
one has begun.  The state tells which snippet was asked for last, which one is shown, and what went
wrong.
-/

namespace SnippetStudio.Preview

structure Engine where
  initialized : Bool := false
  /-- the number of the newest call -/
  version : Nat := 0
  /-- the snippet asked for last -/
  source : Option String := none
  /-- the snippet mounted last -/
  lastRendered : Option String := none
  error : Option Failure := none
  /-- how often a snippet was mounted -/
  renders : Nat := 0
deriving Repr, Inhabited

namespace Engine

/-- the operations that need a root -/
inductive Operation where
  | render
  | refresh
  | html
  | screenshot
deriving Repr, DecidableEq

def Operation.label : Operation → String
  | render => "render"
  | refresh => "refresh"
  | html => "mounted_html"
  | screenshot => "screenshot"

def notInitialized (o : Operation) : Fault :=
  ⟨.notInitialized, "PreviewEngine." ++ o.label ++ "() called before initialize()"⟩

/-- a newer call has begun -/
def supersedes (e : Engine) (version : Nat) : Bool := version != e.version

/-- the newest call is for this snippet -/
def request (e : Engine) (source : String) : Engine :=
  { e with version := e.version + 1, source := some source }

/-- the snippet is shown -/
def mounted (e : Engine) (source : String) : Engine :=
  { e with lastRendered := some source, renders := e.renders + 1 }

private def text? (s : Option String) : Json := (s.map Json.Tree.str).getD .null

def status (e : Engine) : List (String × Json) :=
  [("initialized", .bool e.initialized), ("version", .int e.version), ("source", text? e.source),
   ("last_rendered_source", text? e.lastRendered),
   ("error", (e.error.map Failure.toJson).getD .null), ("renders", .int e.renders)]

end Engine

end SnippetStudio.Preview
