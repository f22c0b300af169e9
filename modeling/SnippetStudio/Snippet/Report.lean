import SnippetStudio.Snippet.Finding
import SnippetStudio.Json.Sequence

/-!
# The report of a check

`Report.text` lists errors with their hints, then warnings.  A report is made of a validation
(`Validation.report`), or read from JSON (`Report.ofJson`), where a field that every entry needs may be
missing.
-/

namespace SnippetStudio.Snippet

structure Report.Entry where
  label : String
  /-- the line as it is shown; none for a finding about the whole snippet -/
  line : Option String
  message : String
  /-- how to mend it; none where there is nothing to say -/
  hint : Option String := none
deriving Repr, DecidableEq

structure Report where
  errors : List Report.Entry
  warnings : List Report.Entry
deriving Repr, DecidableEq

namespace Report

def Entry.text (e : Entry) : String :=
  "  [" ++ e.label ++ "] " ++ (match e.line with | some l => "line " ++ l ++ ": " | none => "") ++
    e.message

def Entry.errorLines (e : Entry) : List String :=
  e.text :: (match e.hint with | some h => ["    Fix: " ++ h] | none => [])

/-- a heading with the number of entries, then their lines; nothing where there are none -/
def part (heading : String) (lines : Entry → List String) (es : List Entry) : List String :=
  if es.isEmpty then []
  else (heading ++ " (" ++ toString es.length ++ "):") :: es.flatMap lines

def text (r : Report) : String :=
  let errors := part "ERRORS" Entry.errorLines r.errors
  let warnings := part "WARNINGS" (fun e => [e.text]) r.warnings
  let between := if errors.isEmpty || warnings.isEmpty then [] else [""]
  match errors ++ between ++ warnings with
  | [] => "All checks passed."
  | ls => "\n".intercalate ls

/-- a finding's line; the whole snippet has none -/
def lineText (n : Nat) : Option String := if n = 0 then none else some (toString n)

/-- a field that may be missing, and then counts for nothing -/
def counted? (key : String) (fields : List (String × Json)) : Option String :=
  ((Json.get? key fields).filter Json.truthy).map Json.plain

def entryOfJson (v : Json) : Except Fault Entry := do
  let fields ← Json.record v
  let label ← Json.item "type" v
  let message ← Json.item "message" v
  return ⟨Json.plain label, counted? "line" fields, Json.plain message, counted? "fix_hint" fields⟩

/-- a report described in JSON -/
def ofJson (v : Json) : Except Fault Report := do
  let errors ← (← Json.entries (← Json.item "errors" v)).mapM entryOfJson
  let warnings ← (← Json.entries (← Json.item "warnings" v)).mapM entryOfJson
  return ⟨errors, warnings⟩

end Report

def Validation.report (v : Validation) : Report where
  errors := v.errors.map fun f =>
    ⟨f.cause.label, Report.lineText f.line, f.cause.message, some f.cause.hint⟩
  warnings := v.warnings.map fun f => ⟨f.cause.label, Report.lineText f.line, f.cause.message, none⟩

/-- the outcome of a check as JSON -/
def Validation.toFields (v : Validation) : List (String × Json) :=
  [("valid", .bool v.isValid),
   ("errors", .arr (v.errors.map fun f => .obj [("line", .int f.line), ("type", .str f.cause.label),
      ("message", .str f.cause.message), ("fix_hint", .str f.cause.hint)])),
   ("warnings", .arr (v.warnings.map fun f => .obj [("line", .int f.line),
      ("type", .str f.cause.label), ("message", .str f.cause.message)])),
   ("stats", .obj [("lines", .int v.lines), ("components_used", .arr (v.used.map .str))])]

end SnippetStudio.Snippet
