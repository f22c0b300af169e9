import SnippetStudio.Json.Basic

/-!
# Failures of the preview

A failure belongs to one stage of a render and has a message; a failure of the compiler may have a
position in the snippet, whose line and column are null where there is none.  `Failure` is what the status of
the preview shows.
-/

namespace SnippetStudio

inductive Stage where
  | preview
  | compile
  | instantiate
  | render
deriving Repr, DecidableEq

def Stage.label : Stage → String
  | preview => "preview"
  | compile => "compile"
  | instantiate => "instantiate"
  | render => "render"

def Stage.ofLabel? (s : String) : Option Stage :=
  [Stage.preview, .compile, .instantiate, .render].find? fun t => t.label == s

structure Failure where
  stage : Stage
  message : String
  line : Json := .null
  column : Json := .null
deriving Repr

def Failure.toFields (f : Failure) : List (String × Json) :=
  [("stage", .str f.stage.label), ("message", .str f.message), ("line", f.line), ("column", f.column)]

def Failure.toJson (f : Failure) : Json := .obj f.toFields

end SnippetStudio
