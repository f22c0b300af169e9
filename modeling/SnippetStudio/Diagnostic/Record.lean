import SnippetStudio.Diagnostic.Parsed

/-!
# Errors as records

An error may also travel as a record of JSON fields, some of which may be missing and others foreign.
Moving its position (`relocateFields`) touches the fields of the position alone, and asks for a line that is a
number if there is one; the text of the record (`positionedFields`) asks for a message.
-/

namespace SnippetStudio.Diagnostic

/-- the value of a field, null where there is none -/
def valueOf (key : String) (fields : List (String × Json)) : Json := (Json.get? key fields).getD .null

/-- a line that no number can be taken from -/
def noNumber (line : Json) : Fault :=
  ⟨.type, "unsupported operand type(s) for -: '" ++ Json.kindWord line ++ "' and 'int'"⟩

/-- where a line with a fraction lies, as `landing` says it for whole ones -/
def landingReal (line : Float) (lineOffset : Int) (userLines : Option Int) : Json × Bool :=
  let own := line - Decimal.ofInt lineOffset
  if own < 1 then (.null, true)
  else match userLines with
    | some n => if Decimal.ofInt n < own then (.int n, true) else (.real own, false)
    | none => (.real own, false)

/-- the line of a record in the snippet's own lines, and whether its column is dropped -/
def landedLine (line : Json) (lineOffset : Int) (userLines : Option Int) : Except Fault (Json × Bool) :=
  match line, line.integer? with
  | _, some n => match landing n lineOffset userLines with
    | .outside => .ok (.null, true)
    | .inside own => .ok (.int own, false)
    | .behind last => .ok (.int last, true)
  | .real x, none => .ok (landingReal x lineOffset userLines)
  | v, none => .error (noNumber v)

/-- the position of a record in the snippet's own lines -/
def relocateFields (fields : List (String × Json)) (lineOffset : Int) (userLines : Option Int) :
    Except Fault (List (String × Json)) := do
  let line := valueOf "line" fields
  if line.isNull then return fields
  let (line, drops) ← landedLine line lineOffset userLines
  let fields := Json.put "line" line fields
  return if drops then Json.put "column" .null fields else fields

/-- the message of a record with its position; a message without one stays as it is -/
def positionedFields (fields : List (String × Json)) : Except Fault Json :=
  match Json.get? "message" fields with
  | none => .error (.key "message")
  | some m => do
    let line := valueOf "line" fields
    if line.isNull then return m
    return .str (Json.plain m ++ (← positionText line (valueOf "column" fields)))

end SnippetStudio.Diagnostic
