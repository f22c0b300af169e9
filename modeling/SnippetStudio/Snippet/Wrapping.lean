import SnippetStudio.Text.Lines
import SnippetStudio.Capability.Basic
import SnippetStudio.Json.Order

/-!
# The wrapped snippet

A snippet is compiled inside an expression that takes every name of the scope apart, gives the
snippet a block of its own (so that declaring a name of the scope again hides it) and ends with the
construction of the entry component (`wrap`).  The snippet's text stands in it unchanged, behind
`lineOffset` lines of the wrapping.
-/

namespace SnippetStudio

/-- the component that a snippet must define -/
def entryPoint : String := "Preview"

/-- the names declared for a list of components and hooks, before the snippet -/
def scopeNames (components hooks : List String) : List String :=
  components ++ Scope.extras ++ hooks

structure Wrapped where
  text : String
  /-- lines of the wrapping before the snippet's first line -/
  lineOffset : Nat
  /-- lines of the snippet -/
  userLines : Nat
deriving Repr, DecidableEq

namespace Wrapped

/-- one line that takes names out of an object -/
def destructuring (names : List String) (object : String) : String :=
  "  const \x7b " ++ ", ".intercalate names ++ " \x7d = " ++ object ++ ";"

def opening (components hooks : List String) : List String :=
  ["(function () \x7b",
   destructuring components "ShadcnUI",
   destructuring (Scope.extras ++ hooks) "React",
   "  \x7b"]

def closing : List String := ["  return <" ++ entryPoint ++ " />;", "  \x7d", "\x7d)()"]

end Wrapped

def wrap (source : String) (components : List String) (hooks : List String := Scope.hookNames) :
    Wrapped where
  text := "\n".intercalate (Wrapped.opening components hooks ++ [source] ++ Wrapped.closing)
  lineOffset := (Wrapped.opening components hooks).length
  userLines := source.toList.count '\n' + 1

/-- the wrapping of what is described in JSON; hooks that are left out are the usual ones -/
def Wrapped.ofJson (source components : Json) (hooks : Option Json) : Except Fault Wrapped := do
  let components ← match Json.parts? components with
    | some names => Json.textItems 0 names
    | none => throw ⟨.type, "can only join an iterable"⟩
  let hooks ← match hooks with
    | some v => Json.textItems Scope.extras.length (← Json.parts v)
    | none => pure Scope.hookNames
  let lines ← Json.textItems (Wrapped.opening components hooks).length [source]
  return wrap ("\n".intercalate lines) components hooks

theorem wrap_userLines (s : String) (cs hs : List String) :
    (wrap s cs hs).userLines = (Text.lines s.toList).length := by
  simp [wrap, Text.length_lines]

end SnippetStudio
