import SnippetStudio.Bytes.CharsetName
import SnippetStudio.Text.Blank
import SnippetStudio.Text.Lines
import SnippetStudio.Web.Percent

/-!
# Content types

A content type is cut at semicolons, and each of its parts can be a parameter, the first one too.  From the
second part on a value may be written in several segments, `name*0`, `name*1`, and a segment whose name ends
with a star has percent signs for bytes and tells a charset of its own at the front, `charset'language'value`.

`ContentType.charset` is the charset that the first parameter `charset` names; it is UTF-8 where there is none,
or an unknown one.
-/

namespace SnippetStudio.Web.ContentType

/-- the parts between semicolons; one in quotes is part of the text, and a quote behind a backslash is none -/
def parts (quoted behind : Bool) : List Char → List (List Char)
  | [] => [[]]
  | c :: s =>
    if c = ';' ∧ !quoted then [] :: parts false false s
    else
      let quoted := if c = '"' ∧ !behind then !quoted else quoted
      match parts quoted (c == '\\') s with
      | p :: ps => (c :: p) :: ps
      | [] => [[c]]

/-- two characters written as one -/
def fold (a b c : Char) : List Char → List Char
  | x :: y :: s => if x = a ∧ y = b then c :: fold a b c s else x :: fold a b c (y :: s)
  | s => s

/-- the text between quotes, where a backslash stands before a quote and before a backslash -/
def unescape (s : List Char) : List Char := fold '\\' '"' '"' (fold '\\' '\\' '\\' s)

def escape (s : List Char) : List Char :=
  s.flatMap fun c => if c = '\\' ∨ c = '"' then ['\\', c] else [c]

/-- what stands between two marks at the ends -/
def between? (first last : Char) (s : List Char) : Option (List Char) :=
  if 2 ≤ s.length ∧ s.head? = some first ∧ s.getLast? = some last then some (s.drop 1).dropLast else none

/-- a value without its quotes or angle brackets -/
def unquote (s : List Char) : List Char :=
  match between? '"' '"' s with
  | some inner => unescape inner
  | none => (between? '<' '>' s).getD s

/-- a parameter: the name in small letters, unless there is no value -/
def parameter (part : List Char) : List Char × List Char :=
  match Text.cutOnce '=' part with
  | (name, some value) => ((Text.trim name).map Char.toLower, Text.trim value)
  | (name, none) => (Text.trim name, [])

/-! ## Values in segments -/

structure Segment where
  number : Option Nat
  value : List Char
  /-- there are percent signs for bytes -/
  encoded : Bool
deriving Repr, DecidableEq

/-- the name of the parameter that a segment belongs to, and the segment's number -/
def segmentName? (name : List Char) : Option (List Char × Option Nat) :=
  match Text.cutOnce '*' name with
  | (word, some rest) =>
    let digits := rest.takeWhile Char.isDigit
    if word.isEmpty || word.any fun c => !(c.isAlphanum || c == '_') then none
    else if rest.isEmpty then some (word, none)
    else if digits.isEmpty then none
    else if rest.length = digits.length || rest.drop digits.length = ['*'] then
      some (word, some (digits.foldl (fun n c => 10 * n + (c.toNat - 0x30)) 0))
    else none
  | _ => none

/-- the order of segments: by number, by value where this is the same, and last those with percent signs -/
def Segment.precedes (a b : Segment) : Bool :=
  let m := a.number.getD 0
  let n := b.number.getD 0
  decide (m < n) ||
    (m == n && (decide (a.value < b.value) || (a.value == b.value && (!a.encoded || b.encoded))))

def Segment.kind (s : Segment) : String := if s.number.isSome then "int" else "NoneType"

/-- segments with and without a number have no order: the first one, and one of the other kind -/
def orderless (a b : Segment) : Fault :=
  ⟨.type, "'<' not supported between instances of '" ++ b.kind ++ "' and '" ++ a.kind ++ "'"⟩

def sorted : List Segment → Except Fault (List Segment)
  | [] => .ok []
  | s :: ss =>
    match ss.find? fun t => t.number.isSome != s.number.isSome with
    | some t => .error (orderless s t)
    | none => .ok ((s :: ss).mergeSort Segment.precedes)

/-- each byte as the character of its number -/
def decodeBytes (s : List Char) : List Char := (Percent.bytes s).map fun b => Char.ofNat b.toNat

def Segment.text (s : Segment) : List Char := if s.encoded then decodeBytes s.value else s.value

/-- a value, and where it tells of one the charset of its bytes -/
inductive Value where
  | plain (s : List Char)
  | tagged (charset : List Char) (s : List Char)
deriving Repr, DecidableEq

def join (segments : List Segment) : Except Fault Value := do
  let segments ← sorted segments
  let text := escape (segments.flatMap Segment.text)
  if segments.any (·.encoded) then
    match Text.cut '\'' text with
    | charset :: _ :: v :: vs => return .tagged charset (unescape (['\''].intercalate (v :: vs)))
    | _ => return .tagged [] (unescape text)
  else return .plain (unescape text)

/-- the segments of a parameter, under the name of the parameter -/
abbrev Segments := List (List Char × List Segment)

def Segments.add (all : Segments) (name : List Char) (s : Segment) : Segments :=
  if all.any fun e => e.1 == name then
    all.map fun e => if e.1 == name then (e.1, e.2 ++ [s]) else e
  else all ++ [(name, [s])]

/-- the parameters after the first part: those in one piece, and the segments -/
def split (parameters : List (List Char × List Char)) : List (List Char × Value) × Segments :=
  parameters.foldl
    (fun (plain, segments) (name, value) =>
      let value := unquote value
      match segmentName? name with
      | some (word, number) => (plain, segments.add word ⟨number, value, name.getLast? == some '*'⟩)
      | none => (plain ++ [(name, .plain (unescape (escape value)))], segments))
    ([], [])

/-- all parameters: the first part, those in one piece, and those in segments -/
def parameters (contentType : List Char) : Except Fault (List (List Char × Value)) :=
  match (parts false false contentType).map parameter with
  | [] => .ok []
  | (name, value) :: ps => do
    let (plain, segments) := split ps
    let joined ← segments.mapM fun (name, ss) => return (name, ← join ss)
    return (name, .plain (unquote value)) :: plain ++ joined

/-! ## The charset -/

/-- a value read in its own charset, or as it is where that cannot be done -/
def Value.text : Value → List Char
  | plain s => s
  | tagged charset s =>
    let name := if charset.isEmpty then "us-ascii" else String.ofList charset
    ((Charset.ofName? name).bind fun c => c.exactly? (s.map fun c => UInt8.ofNat c.toNat)).getD s

/-- the charset that is named, in small letters -/
def charsetName? (contentType : String) : Except Fault (Option String) := do
  let all ← parameters contentType.toList
  match all.find? fun p => p.1.map Char.toLower == "charset".toList with
  | some (_, v) =>
    let name := v.text
    return if name.all fun c => c.toNat < 0x80 then some (String.ofList (name.map Char.toLower)) else none
  | none => return none

def charset (contentType : Option String) : Except Fault Charset := do
  match contentType with
  | none => return .utf8
  | some c => return ((← charsetName? c).bind Charset.ofName?).getD .utf8

end SnippetStudio.Web.ContentType
