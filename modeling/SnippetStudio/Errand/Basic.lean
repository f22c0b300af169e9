import SnippetStudio.Errand.LogLine
import SnippetStudio.Errand.Plan
import SnippetStudio.Generation.Model
import SnippetStudio.Pipeline.Event
import SnippetStudio.Web.Exchange

/-!
# Errands

An errand is a plan whose questions go to the world outside the studio: the network, the models, the
clock, the log, whoever follows the events of a run, and the buffer of the preview (`Query`).  Nothing
is assumed of the answers; a request, a model and the buffer may fail.

An `Attempt` is an errand that a fault ends early.
-/

namespace SnippetStudio

inductive Query (τ : Type) where
  | send (r : Web.Request)
  | consult (r : Chat.Request)
  | clock
  | note (line : LogLine τ)
  | publish (e : Pipeline.Event τ)
  /-- put a snippet into the buffer, and wait for its listeners -/
  | load (code : String)

/-- what a question may be answered with -/
@[reducible] def Query.Answer {τ : Type} : Query τ → Type
  | send _ => Except Fault Web.Response
  | consult _ => Except Fault Chat.Reply
  | clock => τ
  | note _ => Unit
  | publish _ => Unit
  | load _ => Except Fault Unit

abbrev Errand (τ : Type) := Plan (@Query.Answer τ)

abbrev Attempt (τ : Type) := ExceptT Fault (Errand τ)

namespace Errand

variable {τ α : Type}

def clock : Errand τ τ := Plan.question Query.clock
def note (line : LogLine τ) : Errand τ Unit := Plan.question (Query.note line)
def publish (e : Pipeline.Event τ) : Errand τ Unit := Plan.question (Query.publish e)

/-- an errand whose events are kept with its result instead of going out -/
def gathered : Errand τ α → Errand τ (List (Pipeline.Event τ) × α)
  | .done a => .done ([], a)
  | .ask (.publish e) next => do
    let (es, a) ← gathered (next ())
    return (e :: es, a)
  | .ask q next => .ask q fun x => gathered (next x)

end Errand

namespace Attempt

variable {τ α : Type}

def send (r : Web.Request) : Attempt τ Web.Response := ExceptT.mk (Plan.question (Query.send r))
def consult (r : Chat.Request) : Attempt τ Chat.Reply :=
  ExceptT.mk (Plan.question (Query.consult r))
def load (code : String) : Attempt τ Unit := ExceptT.mk (Plan.question (Query.load code))

/-- an errand that does not fail -/
def ofErrand (e : Errand τ α) : Attempt τ α := ExceptT.lift e

def note (line : LogLine τ) : Attempt τ Unit := ofErrand (Errand.note line)

/-- what is already known to have gone well or not -/
def ofExcept (r : Except Fault α) : Attempt τ α := ExceptT.mk (.done r)

end Attempt

end SnippetStudio
