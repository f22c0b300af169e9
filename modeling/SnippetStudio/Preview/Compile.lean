import SnippetStudio.Capability.Basic
import SnippetStudio.Diagnostic.Parsed
import SnippetStudio.Preview.Request

/-!
# Compiling a snippet

The compiler runs in the page: it is asked whether it is ready, and then for the compiled text of the
wrapped snippet.  What can go wrong is a compiler that is not ready (`Trouble.notReady`), a snippet that
does not compile (`Trouble.failure`), and anything else (`Trouble.fault`).
-/

namespace SnippetStudio.Preview

/-- what a preview is set up with -/
structure Setup where
  capabilities : Capabilities
  /-- the pause between two polls of the compiler, as it is reported -/
  delay : String := "0.1"
deriving Inhabited

/-- a snippet as the compiler gets it -/
def Setup.wrap (s : Setup) (source : String) : Wrapped :=
  SnippetStudio.wrap source s.capabilities.names s.capabilities.hooks

structure Artifact where
  code : Json
  source : String
  lineOffset : Nat
deriving Repr

inductive Trouble where
  | notReady (message : String)
  | failure (f : Failure)
  | fault (f : Fault)
deriving Repr

namespace Trouble

def notLoaded : String := "Babel compiler or class-name utilities not loaded yet"

/-- a fault of the page while it compiles -/
def ofFault (f : Fault) : Trouble :=
  match f.kind with
  | .notReady => notReady f.message
  | .compile => failure { stage := .compile, message := f.message }
  | _ => fault f

end Trouble

/-- the compiler is ready -/
def readiness : Outcome → Except Trouble Unit
  | .error f => .error (.ofFault f)
  | .ok r => if r.ok then .ok () else .error (.notReady Trouble.notLoaded)

/-- the compiled text in an answer for a wrapped snippet -/
def compiled (w : Wrapped) (source : String) : Outcome → Except Trouble Artifact
  | .error f => .error (.ofFault f)
  | .ok r =>
    if r.ok then
      match r.code with
      | some code => .ok ⟨code, source, w.lineOffset⟩
      | none => .error (.fault (.key "code"))
    else
      match Diagnostic.compileFailure r.error w.lineOffset (some w.userLines) with
      | .ok f => .error (.failure f)
      | .error f => .error (.fault f)

end SnippetStudio.Preview
