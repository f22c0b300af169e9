import SnippetStudio.Diagnostic.Description
import SnippetStudio.Diagnostic.Failure
import SnippetStudio.Snippet.Wrapping
import SnippetStudio.Text.Digit
import SnippetStudio.Text.Scan

/-!
# Positions in the user's own lines

The compiler's message begins with the name of the file, may end with a position and goes on with
an excerpt of the wrapped text; `parse` keeps the first line without the file name and takes the
position out of it.  A position of the description wins over one in the message.

`relocate` moves a position from the wrapped text into the snippet: positions before the snippet
are dropped, positions behind it become the snippet's last line, without a column.
-/

namespace SnippetStudio.Diagnostic

open Text

/-- an error with its parts taken from the description; line and column are null where there is no position -/
structure Parsed where
  name : Json
  message : String
  line : Json := .null
  column : Json := .null
deriving Repr

/-- the first line of a message, without the blanks around it -/
def headline (message : List Char) : List Char := trim (upTo '\n' (trim message))

/-- the names that the compiler puts in front -/
def origins : List (List Char) :=
  ["/preview.tsx:".toList, "preview.tsx:".toList, "unknown file:".toList, "unknown:".toList]

def dropOrigin (s : List Char) : List Char :=
  match origins.findSome? fun o => after? o s with
  | some r => blanks r
  | none => s

/-- a position at the end of a message: the text before it, and the digits of line and column -/
structure Suffix where
  before : List Char
  line : List Char
  column : List Char
deriving Repr, DecidableEq

/-- a position `(line:column)` at the end, sought from the right -/
def suffix? (s : List Char) : Option Suffix :=
  match blanks s.reverse with
  | ')' :: r =>
    match r.takeWhile isDecimal, r.dropWhile isDecimal with
    | c :: cs, ':' :: r =>
      match r.takeWhile isDecimal, r.dropWhile isDecimal with
      | l :: ls, '(' :: r =>
        some ⟨(blanks r).reverse, (l :: ls).reverse, (c :: cs).reverse⟩
      | _, _ => none
    | _, _ => none
  | _ => none

/-- the number that digits write, up to the limit -/
def number (ds : List Char) : Except Fault Int :=
  if integerLimit < ds.length then
    .error (.value ("Exceeds the limit (" ++ toString integerLimit ++
      " digits) for integer string conversion: value has " ++ toString ds.length ++
      " digits; use sys.set_int_max_str_digits() to increase the limit"))
  else .ok (numeral ds)

def unknownError : String := "Unknown error"

def parse (d : Description) : Except Fault Parsed :=
  let name := d.name.getD (.str "Error")
  let message := dropOrigin (headline (d.message.getD unknownError).toList)
  let own (message : List Char) : Option Parsed := d.location.map fun l =>
    ⟨name, String.ofList message, l.line, l.column⟩
  match suffix? message with
  | none => .ok ((own message).getD { name, message := String.ofList message })
  | some x =>
    match own x.before with
    | some p => .ok p
    | none => do
      let line ← number x.line
      let column ← number x.column
      .ok ⟨name, String.ofList x.before, .int line, .int column⟩

/-- where a line of the wrapped text lies -/
inductive Landing where
  /-- before the snippet -/
  | outside
  /-- in the snippet, at its own line -/
  | inside (line : Int)
  /-- behind the snippet, whose last line is given -/
  | behind (last : Int)
deriving Repr, DecidableEq

def landing (line lineOffset : Int) (userLines : Option Int) : Landing :=
  let own := line - lineOffset
  if own < 1 then .outside
  else match userLines with
    | some n => if n < own then .behind n else .inside own
    | none => .inside own

/-- a position of the wrapped text in the snippet's own lines -/
def relocate (p : Parsed) (lineOffset : Int) (userLines : Option Int) : Parsed :=
  match p.line.integer? with
  | none => p
  | some line =>
    match landing line lineOffset userLines with
    | .outside => { p with line := .null, column := .null }
    | .inside own => { p with line := .int own }
    | .behind last => { p with line := .int last, column := .null }

/-- a line or a column as it is shown -/
def coordinateText : Json → Except Fault String
  | .int n => written n
  | v => .ok (Json.plain v)

/-- a position behind a message: its line, and its column or 0 -/
def positionText (line column : Json) : Except Fault String := do
  let l ← coordinateText line
  let c ← if column.isNull then .ok "0" else coordinateText column
  return " (" ++ l ++ ":" ++ c ++ ")"

/-- a message with its position, if it has one, behind it -/
def positioned (p : Parsed) : Except Fault String := do
  if p.line.isNull then return p.message
  return p.message ++ (← positionText p.line p.column)

/-- the failure of the compiler, in the snippet's own lines -/
def compileFailure (error : Json) (lineOffset : Int) (userLines : Option Int) : Except Fault Failure := do
  let p := relocate (← parse (← Description.ofJson error)) lineOffset userLines
  return { stage := .compile, message := ← positioned p, line := p.line, column := p.column }

/-- the name in a message that says it is not defined -/
def missingIdentifier? (message : String) : Option String :=
  let s := trim message.toList
  let name := s.takeWhile fun c => !isBlank c
  if name.isEmpty then none
  else if s.dropWhile (fun c => !isBlank c) = " is not defined".toList then
    some (String.ofList name)
  else none

/-- what is added when the snippet never defined its entry component -/
def entryHint : String :=
  ". The snippet must define a component named `" ++ entryPoint ++ "`, e.g. `function " ++
    entryPoint ++ "() \x7b return <div />; \x7d`"

/-- name and message of an error met while the snippet runs -/
def runtimeMessage (error : Json) : Except Fault String := do
  let p ← parse (← Description.ofJson error)
  let message := Json.plain p.name ++ ": " ++ p.message
  return if isReference (.obj [("name", p.name)]) ∧ missingIdentifier? p.message = some entryPoint then
    message ++ entryHint
  else message

end SnippetStudio.Diagnostic
