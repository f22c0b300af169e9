import SnippetStudio.Fault
import SnippetStudio.Json.Plain

/-!
# Values taken as sequences, tables and records

A value gives its parts one after the other (`parts`): a list its items, a text its characters, a record its keys.
A value is taken as a table (`table`) if it is a record, or gives pairs, each of them a key and a value; of two
pairs with one key the later value stays.  A record is asked for a field that must be there (`item`).  All other
values are refused.
-/

namespace SnippetStudio.Json

/-- a value has no parts -/
def noParts (v : Json) : Fault := ⟨.type, "'" ++ kindWord v ++ "' object is not iterable"⟩

/-- the parts of a value, if it has any -/
def parts? : Json → Option (List Json)
  | .arr xs => some xs
  | .str s => some (s.toList.map fun c => .str (String.singleton c))
  | .obj fs => some (fs.map fun f => .str f.1)
  | _ => none

def parts (v : Json) : Except Fault (List Json) :=
  match parts? v with
  | some xs => .ok xs
  | none => .error (noParts v)

/-- a value as the key of a record -/
def keyText : Json → Except Fault String
  | .str s => .ok s
  | .null => .ok "null"
  | .bool b => .ok (if b then "true" else "false")
  | .int n => .ok (toString n)
  | .real x => .ok (Decimal.shortText x)
  | v => .error ⟨.type, "unhashable type: '" ++ kindWord v ++ "'"⟩

/-- an element of a sequence has a wrong number of parts -/
def notPair (place count : Nat) : Fault :=
  .value ("dictionary update sequence element #" ++ toString place ++ " has length " ++ toString count ++
    "; 2 is required")

def notSequence (place : Nat) : Fault :=
  ⟨.type, "cannot convert dictionary update sequence element #" ++ toString place ++ " to a sequence"⟩

/-- the key and the value in an element of a sequence -/
def pair (place : Nat) (v : Json) : Except Fault (String × Json) :=
  match parts? v with
  | some [key, value] => (keyText key).map (·, value)
  | some xs => .error (notPair place xs.length)
  | none => .error (notSequence place)

def table : Json → Except Fault (List (String × Json))
  | .obj fs => .ok fs
  | v => do
    let pairs ← (← parts v).zipIdx.mapM fun x => pair x.2 x.1
    return merge [] pairs

/-- a value without fields is asked for a field -/
def noFields (v : Json) : Fault :=
  ⟨.unknown "AttributeError", "'" ++ kindWord v ++ "' object has no attribute 'get'"⟩

def record (v : Json) : Except Fault (List (String × Json)) :=
  match v with
  | .obj fs => .ok fs
  | v => .error (noFields v)

/-- a value whose fields are put into a record -/
def mapping (v : Json) : Except Fault (List (String × Json)) :=
  match v with
  | .obj fs => .ok fs
  | v => .error ⟨.type, "'" ++ kindWord v ++ "' object is not a mapping"⟩

/-- the fields of a value that counts, and none of one that does not -/
def mapping? (v : Json) : Except Fault (List (String × Json)) :=
  if truthy v then mapping v else .ok []

/-- a value that is no record is asked for the value of a name -/
def noNames (v : Json) : Fault :=
  match v with
  | .str _ => ⟨.type, "string indices must be integers, not 'str'"⟩
  | .arr _ => ⟨.type, "list indices must be integers or slices, not str"⟩
  | v => ⟨.type, "'" ++ kindWord v ++ "' object is not subscriptable"⟩

/-- the value of a name that must be there -/
def item (name : String) (v : Json) : Except Fault Json :=
  match v with
  | .obj fs =>
    match get? name fs with
    | some x => .ok x
    | none => .error (.key name)
  | v => .error (noNames v)

/-- the parts of a value that counts, and none of one that does not -/
def entries (v : Json) : Except Fault (List Json) :=
  if truthy v then
    match parts? v with
    | some xs => .ok xs
    | none => .error ⟨.type, "object of type '" ++ kindWord v ++ "' has no len()"⟩
  else .ok []

end SnippetStudio.Json
