import SnippetStudio.Text.Lines
import SnippetStudio.Text.Scan

/-!
# Names that a snippet declares

Two forms of declaration are looked for in the text (`declaredNames`).

* A capitalised name behind `function`, `class`, `interface`, `type` or `enum`, or behind `const`,
  `let` or `var` when an equals sign or a colon follows (`definition?`).
* The names that `const`, `let` or `var` takes out of an object between braces (`Pattern`): of an entry the
  alias behind the first colon if there is one, without a default; entries that gather the rest
  declare nothing.  Declarations of this form are sought from left to right, each behind the end
  of the one before.
-/

namespace SnippetStudio.Snippet

open Text

def typeWords : List (List Char) :=
  ["function".toList, "class".toList, "interface".toList, "type".toList, "enum".toList]

def bindingWords : List (List Char) := ["const".toList, "let".toList, "var".toList]

/-- a name declared by its keyword alone -/
def typeName? (x : Place) : Option (List Char) :=
  (keyword? typeWords x).bind fun s => (name? s).map (·.1)

/-- a name bound to a value or given a type -/
def boundName? (x : Place) : Option (List Char) :=
  (keyword? bindingWords x).bind fun s =>
    (name? s).bind fun n =>
      match blanks n.2 with
      | '=' :: _ => some n.1
      | ':' :: _ => some n.1
      | _ => none

def definition? (x : Place) : Option (List Char) := (typeName? x).or (boundName? x)

def definitions (code : List Char) : List (List Char) := (places code).filterMap definition?

/-- the inside of the braces behind a keyword, and what follows the equals sign -/
def pattern? (x : Place) : Option (List Char × List Char) :=
  if x.isFresh then
    bindingWords.findSome? fun k =>
      (after? k x.rest).bind fun s =>
        match blanks s with
        | '{' :: s =>
          match cutOnce '}' s with
          | (inside, some s) =>
            match blanks s with
            | '=' :: s => some (inside, s)
            | _ => none
          | (_, none) => none
        | _ => none
  else none

/-- the insides of the patterns, each sought behind the end of the one before -/
def patternsFrom : Nat → List Char → List Char → List (List Char)
  | 0, _, _ => []
  | n + 1, left, s =>
    match pattern? ⟨left, s⟩ with
    | some (inside, rest) => inside :: patternsFrom n ('=' :: left) rest
    | none =>
      match s with
      | [] => []
      | c :: s => patternsFrom n (c :: left) s

def patterns (code : List Char) : List (List Char) := patternsFrom (code.length + 1) [] code

/-- the name that one entry of a pattern declares -/
def entryName? (entry : List Char) : Option (List Char) :=
  let entry := trim entry
  if entry.isEmpty || begins "...".toList entry then none
  else
    let aliased := match cutOnce ':' entry with
      | (_, some s) => s
      | (s, none) => s
    match trim (upTo '=' aliased) with
    | [] => none
    | name => some name

def entryNames (inside : List Char) : List (List Char) := (cut ',' inside).filterMap entryName?

def declaredNames (code : List Char) : List (List Char) :=
  definitions code ++ (patterns code).flatMap entryNames

end SnippetStudio.Snippet

namespace SnippetStudio

/-- the names that a snippet declares, each once, sorted -/
def localNames (code : String) : List String :=
  (((Snippet.declaredNames code.toList).map String.ofList).eraseDups).mergeSort
    fun a b => decide (a ≤ b)

end SnippetStudio
