import SnippetStudio.Fault
import SnippetStudio.Json.Basic

/-!
# Operations on a browser

What a host does with the browser that it drives.  A browser, from the host's side, is what it answers to
operations (`Browser`); scripts run inside its page are given by their text.
-/

namespace SnippetStudio

inductive Operation where
  /-- start the program that drives browsers -/
  | startDriver
  | launch (headless : Bool)
  | newPage (width height : Int)
  /-- be told of an event of the page -/
  | listen (event : String)
  /-- load a document and wait until its scripts have run -/
  | setContent (document : String)
  /-- hand the components over; answers their names -/
  | install (payload : Json)
  | loadCompiler (url : String)
  | evaluate (expression : String) (arguments : List Json)
  /-- a picture of an element -/
  | screenshot (selector : String)
  | closeBrowser
  | stopDriver

abbrev Browser := Operation → Except Fault Json

namespace Operation

def installExpression : String := "(payload) => window.__preview.install(payload)"

def loadExpression : String := "(src) => window.__preview.loadCompiler(src)"

end Operation

end SnippetStudio
