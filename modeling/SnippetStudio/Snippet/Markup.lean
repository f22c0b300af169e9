import SnippetStudio.Text.Lines
import SnippetStudio.Text.Scan

/-!
# What a line of a snippet shows

One recogniser for each construct that the linter looks for.  Those of the first group read a
line, those of the second the whole text.
-/

namespace SnippetStudio.Snippet

open Text

/-- the line begins with a comment sign, or with the star of a comment's middle line -/
def isComment (line : List Char) : Bool :=
  let s := trimStart line
  begins "//".toList s || begins "*".toList s || begins "/*".toList s

/-- what can follow the keyword of an import: a name, braces, a star or a quoted module -/
def startsImport (c : Char) : Bool :=
  isWord c || c == '{' || c == '*' || c == '\'' || c == '"'

def isImport (line : List Char) : Bool :=
  match (after? "import".toList (blanks line)).bind blanks1? with
  | some (c :: _) => startsImport c
  | _ => false

def isExport (line : List Char) : Bool :=
  ((after? "export".toList (blanks line)).bind blanks1?).isSome

/-- the rest behind `attribute =`, where the attribute's name begins at the place -/
def assigned? (name : List Char) (x : Place) : Option (List Char) :=
  if x.isFresh then
    (after? name x.rest).bind fun s => (after? ['='] (blanks s)).map blanks
  else none

/-- the text on the left ends with `className`, blanks left out of account -/
def endsClassName (left : List Char) : Bool := begins "className".toList.reverse (blanks left)

/-- the attribute `class=` with a quoted value or an expression -/
def isClassAttribute (x : Place) : Bool :=
  match assigned? "class".toList x with
  | some ('"' :: _) => !endsClassName x.left
  | some ('{' :: _) => !endsClassName x.left
  | _ => false

def showsClass (line : List Char) : Bool := occurs isClassAttribute line

/-- the attribute `for=` inside the tag of a label -/
def isLabelFor (x : Place) : Bool :=
  match after? "<label".toList x.rest with
  | some s => (placesFrom ['l'] (upTo '>' s)).any fun y => (assigned? "for".toList y).isSome
  | none => false

def showsLabelFor (line : List Char) : Bool := occurs isLabelFor line

/-- the attribute `style=` with a string between double quotes -/
def isStyleString (x : Place) : Bool :=
  match assigned? "style".toList x with
  | some ('"' :: s) => s.contains '"'
  | _ => false

def showsStyle (line : List Char) : Bool := occurs isStyleString line

def showsHtmlComment (line : List Char) : Bool := contains "<!--".toList line

/-- the words that stand for left-out code behind a comment sign -/
def elisions : List (List Char) :=
  ["...".toList, "rest of".toList, "more items".toList, "add more".toList, "remaining".toList,
   "continue".toList]

/-- the word `etc` at the end of the line, with or without its dot -/
def isEtc (s : List Char) : Bool :=
  match afterFolded? "etc".toList s with
  | some [] => true
  | some ['.'] => true
  | _ => false

def isElision (x : Place) : Bool :=
  match after? "//".toList x.rest with
  | some s => let s := blanks s
    elisions.any (fun w => (afterFolded? w s).isSome) || isEtc s
  | none => false

/-- a comment between braces that holds nothing but three dots -/
def isElisionBlock (x : Place) : Bool :=
  match after? "\x7b/*".toList x.rest with
  | some s =>
    match after? "...".toList (blanks s) with
    | some s => begins "*/\x7d".toList (blanks s)
    | none => false
  | none => false

def showsTruncation (line : List Char) : Bool :=
  occurs isElision line || occurs isElisionBlock line

/-- a tag with a capitalised name: neither a word nor a dot stands before it -/
def tag? (x : Place) : Option (List Char) :=
  if x.isFresh && x.left.head? != some '.' then
    (after? ['<'] x.rest).bind fun s => (name? s).map (·.1)
  else none

/-- the capitalised tags of a line, left to right -/
def tags (line : List Char) : List (List Char) := (places line).filterMap tag?

def showsMap (line : List Char) : Bool :=
  contains ".map(".toList line || contains ".map (".toList line

def showsKey (line : List Char) : Bool :=
  contains "key=".toList line || contains "key =".toList line

/-! ## in the whole text -/

/-- a text `function Name` or `class Name`, the name complete -/
def isNamed (kws : List (List Char)) (name : List Char) (x : Place) : Bool :=
  ((keyword? kws x).bind (after? name)).any fun s => !startsWord s

/-- a binding of the name with an equals sign right behind it -/
def isBound (name : List Char) (x : Place) : Bool :=
  ((keyword? ["const".toList, "let".toList, "var".toList] x).bind (after? name)).any fun s =>
    begins ['='] (blanks s)

/-- a function, class or variable of the name -/
def definesEntry (name : List Char) (code : List Char) : Bool :=
  occurs (fun x => isNamed ["function".toList, "class".toList] name x || isBound name x) code

/-- a function or variable of the name -/
def definesLookalike (name : List Char) (code : List Char) : Bool :=
  occurs (fun x => isNamed ["function".toList] name x || isBound name x) code

def isQuote (c : Char) : Bool := c == '\'' || c == '"'

/-- the directive between quotes, blanks before it left out of account -/
def isUseClient (s : List Char) : Bool :=
  match blanks s with
  | q :: s => isQuote q && (match after? "use client".toList s with
    | some (q :: _) => isQuote q
    | _ => false)
  | [] => false

/-- the directive at the start of a line -/
def showsUseClient (code : List Char) : Bool :=
  occurs (fun x => (x.left.head?.all (· == '\n')) && isUseClient x.rest) code

end SnippetStudio.Snippet
