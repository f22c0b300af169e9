import SnippetStudio.Fault

/-!
# Values in running text

How a JSON value is shown inside a message (`plain`): a text as it is, a number by its digits, the
constants as `None`, `True` and `False`.  Inside a list or a record texts are quoted.  As JSON (`text`) a value
is shown only if its whole numbers can be turned into texts.

A value *counts* (`truthy`) unless it is null, false, zero or empty.
-/

namespace SnippetStudio.Json

mutual

/-- a value inside a list or a record -/
def shown : Json → String
  | .null => "None"
  | .bool true => "True"
  | .bool false => "False"
  | .int n => toString n
  | .real x => Decimal.shortText x
  | .str s => quoted s
  | .arr [] => "[]"
  | .arr (x :: xs) => "[" ++ shown x ++ shownItems xs
  | .obj [] => "\x7b\x7d"
  | .obj (f :: fs) => "\x7b" ++ quoted f.1 ++ ": " ++ shown f.2 ++ shownFields fs

def shownItems : List Json → String
  | [] => "]"
  | x :: xs => ", " ++ shown x ++ shownItems xs

def shownFields : List (String × Json) → String
  | [] => "\x7d"
  | f :: fs => ", " ++ quoted f.1 ++ ": " ++ shown f.2 ++ shownFields fs

end

def plain : Json → String
  | .str s => s
  | v => shown v

def text (v : Json) : Except Fault String :=
  if v.fits then .ok (spell v) else .error .overlong

mutual

/-- every number of a value has digits -/
def isFinite : Json → Bool
  | .real x => x.isFinite
  | .arr xs => areFinite xs
  | .obj fs => fieldsAreFinite fs
  | _ => true

def areFinite : List Json → Bool
  | [] => true
  | x :: xs => isFinite x && areFinite xs

def fieldsAreFinite : List (String × Json) → Bool
  | [] => true
  | f :: fs => isFinite f.2 && fieldsAreFinite fs

end

/-- the word for the kind of a value -/
def kindWord : Json → String
  | .null => "NoneType"
  | .bool _ => "bool"
  | .int _ => "int"
  | .real _ => "float"
  | .str _ => "str"
  | .arr _ => "list"
  | .obj _ => "dict"

def truthy : Json → Bool
  | .null => false
  | .bool b => b
  | .int n => n != 0
  | .real x => !(x == 0.0)
  | .str s => !s.isEmpty
  | .arr xs => !xs.isEmpty
  | .obj fs => !fs.isEmpty

end SnippetStudio.Json
