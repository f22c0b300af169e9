import SnippetStudio.Bytes.Base64
import SnippetStudio.Diagnostic.Failure

/-!
# Talking to the page

What the preview asks of the page (`Request`), and what the page answers: a fault, or a reply with the
parts that the request calls for.
-/

namespace SnippetStudio.Preview

inductive Request where
  /-- load the page with a number of components -/
  | start (components : Nat)
  /-- make the root that snippets are mounted in -/
  | createRoot
  | compilerReady
  /-- compile a wrapped snippet -/
  | transform (text : String)
  /-- evaluate a compiled text -/
  | instantiate (code : Json)
  /-- mount the element of the last text that was evaluated -/
  | mount
  | showError (stage : Stage) (message : String)
  | html
  | screenshot
  | stop
deriving Repr

structure Reply where
  ok : Bool := true
  /-- the compiled text, or what the page gives for it -/
  code : Option Json := none
  /-- why it did not work, as the page describes it -/
  error : Json := .null
  html : Json := .str ""
  image : Bytes := []
deriving Repr, Inhabited

abbrev Outcome := Except Fault Reply

end SnippetStudio.Preview
