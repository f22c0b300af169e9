import SnippetStudio.Buffer.Basic
import SnippetStudio.Rehearsal.Outside

/-!
# Rehearsed runs

Runs from an address to a snippet in a scripted world, with a buffer that one listener follows.  A script
may let the listener fail, or the fetching of one part of a page.
-/

namespace SnippetStudio.Rehearsal

/-- a buffer with one listener, what the listener has heard, and what it fails with -/
structure Followed where
  buffer : Buffer Unit
  heard : List String := []
  fault : Option Fault := none

namespace Followed

def ofText (text : String) (fault : Option Fault) : Followed where
  buffer := (Buffer.ofText text).subscribe ()
  fault := fault

def load (code : String) (f : Followed) : Except Fault Unit × Followed :=
  let edited := f.buffer.edit (.set code)
  let f := { f with buffer := edited.buffer }
  match edited.announcement with
  | none => (.ok (), f)
  | some a =>
    (match f.fault with
      | some fault => .error fault
      | none => .ok (),
     { f with heard := f.heard ++ [a.text] })

end Followed

/-- the world of a run: there may be no buffer in it -/
abbrev Stage := Outside (Option Followed)

def loadInto (code : String) : Option Followed → Except Fault Unit × Option Followed
  | some f => let (result, f) := f.load code; (result, some f)
  | none => (.ok (), none)

/-- a machine that finds no picture in any file -/
def machine : Machine := .blind 985

/-- the setup of a run whose parts of a page may fail by the script -/
def runSetup (s : Settings) (faults : Json) : Pipeline.Setup Float :=
  let setup := Pipeline.Setup.ofSettings s machine
  let orFault (key : String) (fetch : String → Errand Float (Except Fault ScrapeResult)) (url : String) :
      Errand Float (Except Fault ScrapeResult) :=
    match fault? key faults with
    | some f => .done (.error f)
    | none => fetch url
  let content := orFault "fetch_page_content" setup.content
  let screenshot := orFault "fetch_screenshot" setup.screenshot
  { setup with content, screenshot }

/-- how a run is followed -/
inductive RunMode where
  | acquire
  | stream
  | result

def RunMode.ofLabel : String → RunMode
  | "acquire" => acquire
  | "stream" => stream
  | _ => result

/-- what a run gives in a world, and the world behind it -/
def runResult (mode : RunMode) (k : Pipeline.Setup Float) (url : String) (w : Stage) : Json × Stage :=
  let buffer := w.buffer.isSome
  let world := Outside.answer loadInto
  match mode with
  | .acquire =>
    let (a, w) := (Pipeline.acquire k.turns (k.content url) (k.screenshot url)).run world w
    (.obj (a.toFields .real), w)
  | .stream =>
    let ((), w) := (Pipeline.stream k buffer url).run world w
    (.arr (w.events.map .str), w)
  | .result =>
    match (ExceptT.run (Pipeline.plain .doubles k buffer url)).run world w with
    | (.ok r, w) => (.obj (r.toFields .real), w)
    | (.error f, w) => (.obj [("error", .str f.kind.label), ("message", .str f.message)], w)

/-- the report on a run -/
def runReport (mode : RunMode) (k : Pipeline.Setup Float) (url : String) (w : Stage) :
    List (String × Json) :=
  let (result, w) := runResult mode k url w
  [("result", result), ("requests", w.sortedRequests), ("model_calls", .arr w.calls),
    ("buffer", ((w.buffer.map fun f => f.buffer.text).map Json.Tree.str).getD .null),
    ("notified", .arr (((w.buffer.map (·.heard)).getD []).map .str))] ++ w.logFields

end SnippetStudio.Rehearsal
