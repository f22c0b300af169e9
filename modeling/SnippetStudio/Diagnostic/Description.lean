import SnippetStudio.Json.Sequence

/-!
# Descriptions of errors

When the page catches an error it describes it by a name, a message and sometimes a position
(`Description`).  Any of them may be missing, and the page may give no description at all.  What is neither a
record nor empty is no description, and nothing can be read from it.
-/

namespace SnippetStudio.Diagnostic

/-- a position: its line is a whole number or a truth value, its column may be anything -/
structure Location where
  line : Json
  column : Json := .null
deriving Repr, Inhabited

structure Description where
  name : Option Json := none
  message : Option String := none
  location : Option Location := none
deriving Repr, Inhabited

/-- a position counts when its line is a whole number -/
def Location.ofJson? (v : Json) : Option Location :=
  ((v.field? "line").filter fun line => line.integer?.isSome).map fun line =>
    ⟨line, (v.field? "column").getD .null⟩

/-- the fields of a description; a name that does not count is missing, and a message that is no text is
shown as text -/
def Description.ofFields (fields : List (String × Json)) : Description where
  name := (Json.get? "name" fields).filter Json.truthy
  message := ((Json.get? "message" fields).filter fun m => !m.isNull).map Json.plain
  location := (Json.get? "loc" fields).bind Location.ofJson?

/-- the description that a value stands for -/
def Description.ofJson (v : Json) : Except Fault Description :=
  match v with
  | .obj fields => .ok (.ofFields fields)
  | v => if Json.truthy v then .error (Json.noFields v) else .ok {}

/-- the error is a use of a name that nothing defines -/
def isReference (v : Json) : Bool :=
  match v.field? "name" with
  | some (.str name) => name == "ReferenceError"
  | _ => false

end SnippetStudio.Diagnostic
